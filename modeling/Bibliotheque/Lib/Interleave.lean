import Bibliotheque.Lib.Run
import Mathlib.Logic.Function.Basic

/-! # Interleavings of processes over a shared state

Processes indexed by `ι` take turns; a turn is one atomic action on the shared state, and the
environment may act in between. `Conf.Holds G L` says that the shared state satisfies `G` and every
process's local assertion `L` holds. Its rule (`Conf.Holds.step`) is the usual one of rely and
guarantee: the process that moves re-establishes `G` and its own assertion, and disturbs nobody
else's. -/

namespace Lib

/-- A shared state and the local state of each process. -/
structure Conf (ι σ π : Type) where
  shared : σ
  procs : ι → π

/-- One step of a schedule. -/
inductive Event (ι τ : Type) where
  | turn (i : ι)
  | env (t : τ)

namespace Conf

variable {ι σ π τ : Type} [DecidableEq ι]

/-- Process `i` executes its next action, or the environment acts. -/
def step (exec : σ → π → σ × π) (tick : σ → τ → σ) (c : Conf ι σ π) : Event ι τ → Conf ι σ π
  | .turn i =>
      { shared := (exec c.shared (c.procs i)).1
        procs := Function.update c.procs i (exec c.shared (c.procs i)).2 }
  | .env t => { c with shared := tick c.shared t }

/-- The shared state satisfies `G`, and the local assertion of every process holds. -/
structure Holds (G : σ → Prop) (L : σ → π → Prop) (c : Conf ι σ π) : Prop where
  shared : G c.shared
  procs : ∀ i, L c.shared (c.procs i)

variable {exec : σ → π → σ × π} {tick : σ → τ → σ} {G : σ → Prop} {L : σ → π → Prop}
  {P : Conf ι σ π → Event ι τ → Prop}

/-- **Rely and guarantee.** -/
theorem Holds.step
    (hown : ∀ c i, Holds G L c → P c (.turn i) →
      G (exec c.shared (c.procs i)).1 ∧
        L (exec c.shared (c.procs i)).1 (exec c.shared (c.procs i)).2)
    (hother : ∀ c i j, j ≠ i → Holds G L c → P c (.turn i) →
      L (exec c.shared (c.procs i)).1 (c.procs j))
    (henv : ∀ (c : Conf ι σ π) t, Holds G L c →
      G (tick c.shared t) ∧ ∀ j, L (tick c.shared t) (c.procs j))
    {c : Conf ι σ π} (h : Holds G L c) (e : Event ι τ) (hP : P c e) :
    Holds G L (c.step exec tick e) := by
  cases e with
  | turn i =>
      refine ⟨(hown c i h hP).1, ?_⟩
      intro j
      show L (exec c.shared (c.procs i)).1 (Function.update c.procs i _ j)
      by_cases hj : j = i
      · subst hj
        rw [Function.update_self]
        exact (hown c j h hP).2
      · rw [Function.update_of_ne hj]
        exact hother c i j hj h hP
  | env t => exact ⟨(henv c t h).1, (henv c t h).2⟩

end Conf

end Lib
