import Bibliotheque.Lib.Run

/-! # Simulation of one transition function by another

A system `step : σ → ε → σ` is described by a smaller one, `act : α → κ → α`, whose actions are
allowed or not by `Allowed`. `abs` reads the small state off the big one, and an event of the big
system amounts to a finite number of actions of the small one: none, when it leaves the small state
alone, or several, when it does more than one thing. `Causes s e k` says which actions an event may
amount to in a state.

`Simulation.run` is the refinement theorem: a run of the big system is a run of allowed actions of the
small one, cut into pieces, one for each event. -/

namespace Lib

variable {σ ε α κ : Type}

/-- A journal of a run: for each event, actions it causes in the state it is taken in. -/
def Records (step : σ → ε → σ) (Causes : σ → ε → κ → Prop) : σ → List ε → List (List κ) → Prop
  | _, [], [] => True
  | s, e :: es, ks :: journal => (∀ k ∈ ks, Causes s e k) ∧ Records step Causes (step s e) es journal
  | _, _, _ => False

/-- Under the invariant `I`, an event that `P` permits amounts to allowed actions that it causes. -/
structure Simulation (step : σ → ε → σ) (I : σ → Prop) (P : σ → ε → Prop) (act : α → κ → α)
    (Allowed : α → κ → Prop) (Causes : σ → ε → κ → Prop) (abs : σ → α) : Prop where
  keeps : ∀ s e, I s → P s e → I (step s e)
  amounts : ∀ s e, I s → P s e → ∃ ks : List κ, (∀ k ∈ ks, Causes s e k) ∧
    Along act Allowed (abs s) ks ∧ run act (abs s) ks = abs (step s e)

namespace Simulation

variable {step : σ → ε → σ} {I : σ → Prop} {P : σ → ε → Prop} {act : α → κ → α}
  {Allowed : α → κ → Prop} {Causes : σ → ε → κ → Prop} {abs : σ → α}

/-- **Refinement.** A permitted run amounts to a run of allowed actions, event by event. -/
theorem run (h : Simulation step I P act Allowed Causes abs) {s : σ} {es : List ε} (hs : I s)
    (hes : Along step P s es) :
    ∃ journal : List (List κ), Records step Causes s es journal ∧
      Along act Allowed (abs s) journal.flatten ∧
      Lib.run act (abs s) journal.flatten = abs (Lib.run step s es) := by
  induction es generalizing s with
  | nil => exact ⟨[], trivial, trivial, rfl⟩
  | cons e es ih =>
      obtain ⟨ks, hcause, halong, hrun⟩ := h.amounts s e hs hes.1
      obtain ⟨journal, hcauses, halongs, hruns⟩ := ih (h.keeps s e hs hes.1) hes.2
      refine ⟨ks :: journal, ⟨hcause, hcauses⟩, ?_, ?_⟩
      · rw [List.flatten_cons, along_append, hrun]
        exact ⟨halong, halongs⟩
      · rw [List.flatten_cons, run_append, hrun]
        exact hruns

end Simulation

end Lib
