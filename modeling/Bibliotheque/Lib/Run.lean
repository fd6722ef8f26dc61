import Mathlib.Logic.Basic
import Mathlib.Data.List.Infix

/-! # Runs of a transition function

A system is a function `step : σ → ε → σ`; a run is a finite list of events applied one after the
other. Two predicates talk about a whole run:

* `Along step P s es` — every event of the run is taken in a state where `P` allows it. This is how
  a condition on *each step* of a run is said.
* `Always step I s es` — `I` holds in every state the run passes through, ends included.

The rules below turn a statement about one step into one about every run: `always_of_along` is the
invariant rule, `always_iff_along` its exact form, `run_congr_of_along` the rule for a quantity no
step changes, and `run_settled` the rule for a fact that the last event about it decides. -/

namespace Lib

variable {σ ε β : Type} {step : σ → ε → σ}

/-- The state after a finite sequence of events. -/
def run (step : σ → ε → σ) (s : σ) (es : List ε) : σ := es.foldl step s

@[simp] theorem run_nil (s : σ) : run step s [] = s := rfl

@[simp] theorem run_cons (s : σ) (e : ε) (es : List ε) :
    run step s (e :: es) = run step (step s e) es := rfl

/-- Every event of the run is allowed by `P` in the state it is taken in. -/
def Along (step : σ → ε → σ) (P : σ → ε → Prop) : σ → List ε → Prop
  | _, [] => True
  | s, e :: es => P s e ∧ Along step P (step s e) es

@[simp] theorem along_nil (P : σ → ε → Prop) (s : σ) : Along step P s [] ↔ True := Iff.rfl

@[simp] theorem along_cons (P : σ → ε → Prop) (s : σ) (e : ε) (es : List ε) :
    Along step P s (e :: es) ↔ P s e ∧ Along step P (step s e) es := Iff.rfl

/-- `I` holds in every state of the run, the first and the last included. -/
def Always (step : σ → ε → σ) (I : σ → Prop) : σ → List ε → Prop
  | s, [] => I s
  | s, e :: es => I s ∧ Always step I (step s e) es

@[simp] theorem always_nil (I : σ → Prop) (s : σ) : Always step I s [] ↔ I s := Iff.rfl

@[simp] theorem always_cons (I : σ → Prop) (s : σ) (e : ε) (es : List ε) :
    Always step I s (e :: es) ↔ I s ∧ Always step I (step s e) es := Iff.rfl

variable {I J : σ → Prop} {P Q : σ → ε → Prop}

/-- What always holds, holds at the end of the run. -/
theorem Always.last {s : σ} {es : List ε} (h : Always step I s es) : I (run step s es) := by
  induction es generalizing s with
  | nil => exact h
  | cons e es ih => exact ih h.2

/-- What always holds may be weakened. -/
theorem Always.mono (hIJ : ∀ s, I s → J s) {s : σ} {es : List ε} (h : Always step I s es) :
    Always step J s es := by
  induction es generalizing s with
  | nil => exact hIJ s h
  | cons e es ih => exact ⟨hIJ s h.1, ih h.2⟩

/-- **The invariant rule.** A predicate kept by every allowed step holds in every state of a run
whose steps are all allowed. -/
theorem always_of_along (hstep : ∀ s e, I s → P s e → I (step s e)) :
    ∀ {s : σ} {es : List ε}, I s → Along step P s es → Always step I s es
  | _, [], hI, _ => hI
  | s, e :: _, hI, h => ⟨hI, always_of_along hstep (hstep s e hI h.1) h.2⟩

/-- An invariant kept by allowed steps makes every step meet whatever the invariant and the
permission together imply. -/
theorem along_of_along (hstep : ∀ s e, I s → P s e → I (step s e))
    (hPQ : ∀ s e, I s → P s e → Q s e) :
    ∀ {s : σ} {es : List ε}, I s → Along step P s es → Along step Q s es
  | _, [], _, _ => trivial
  | s, e :: _, hI, h =>
      ⟨hPQ s e hI h.1, along_of_along hstep hPQ (hstep s e hI h.1) h.2⟩

/-- **The exact invariant rule.** If a step keeps `I` exactly when `P` allows it — `J` being a
background fact that lasts as long as `I` holds — then `I` holds throughout a run exactly when each of
its steps is allowed. -/
theorem always_iff_along (hJ : ∀ s e, J s → I s → I (step s e) → J (step s e))
    (hI : ∀ s e, J s → I s → (I (step s e) ↔ P s e)) {s : σ} {es : List ε} (hJs : J s) (hIs : I s) :
    Always step I s es ↔ Along step P s es := by
  induction es generalizing s with
  | nil => exact ⟨fun _ => trivial, fun _ => hIs⟩
  | cons e es ih =>
      rw [always_cons, along_cons]
      constructor
      · rintro ⟨_, hrest⟩
        -- the next state is the first one of what is left of the run
        have hI' : I (step s e) := by
          cases es with
          | nil => exact hrest
          | cons e' es' => exact hrest.1
        exact ⟨(hI s e hJs hIs).mp hI', (ih (hJ s e hJs hIs hI') hI').mp hrest⟩
      · rintro ⟨hP, hrest⟩
        have hI' : I (step s e) := (hI s e hJs hIs).mpr hP
        exact ⟨hIs, (ih (hJ s e hJs hIs hI') hI').mpr hrest⟩

/-- A quantity that no allowed step changes is the same at both ends of the run. -/
theorem run_congr_of_along (f : σ → β) (hstep : ∀ s e, P s e → f (step s e) = f s) :
    ∀ {s : σ} {es : List ε}, Along step P s es → f (run step s es) = f s
  | _, [], _ => rfl
  | s, e :: _, h => by
      rw [run_cons, run_congr_of_along f hstep h.2, hstep s e h.1]

/-- **What the last word settles.** If a fact is touched only by the events that satisfy `p`, and each
of these settles it by `q` whatever it was, then after a run it is what the last such event made of
it. -/
theorem run_settled {R : σ → Prop} {p : ε → Bool} {q : ε → Prop}
    (hI : ∀ s e, I s → I (step s e))
    (hp : ∀ s e, I s → p e = true → (R (step s e) ↔ q e))
    (hrest : ∀ s e, I s → p e = false → (R (step s e) ↔ R s)) {s : σ} (hs : I s) (es : List ε) :
    R (run step s es) ↔ ((es.filter p).getLast?).elim (R s) q := by
  induction es generalizing s with
  | nil => exact Iff.rfl
  | cons e es ih =>
      rw [run_cons, ih (hI s e hs)]
      cases hpe : p e with
      | true =>
          rw [List.filter_cons_of_pos hpe, List.getLast?_cons]
          -- a later event overrules this one
          cases (es.filter p).getLast? with
          | none => exact hp s e hs hpe
          | some e' => exact Iff.rfl
      | false =>
          rw [List.filter_cons_of_neg (by simp [hpe])]
          cases (es.filter p).getLast? with
          | none => exact hrest s e hs hpe
          | some e' => exact Iff.rfl

/-- The same for a fact that is false at first and that one event `e₀` alone makes true. -/
theorem run_iff_last {R : σ → Prop} {p : ε → Bool} {e₀ : ε} (hI : ∀ s e, I s → I (step s e))
    (hp : ∀ s e, I s → p e = true → (R (step s e) ↔ e = e₀))
    (hrest : ∀ s e, I s → p e = false → (R (step s e) ↔ R s)) {s : σ} (hs : I s) (hfirst : ¬ R s)
    (es : List ε) : R (run step s es) ↔ (es.filter p).getLast? = some e₀ := by
  rw [run_settled hI hp hrest hs es]
  cases (es.filter p).getLast? with
  | none => simpa using hfirst
  | some e => exact (Option.some_inj).symm

/-- A permission that does not look at the state is a condition on the list of events. -/
theorem along_of_forall {p : ε → Prop} :
    ∀ {s : σ} {es : List ε}, (∀ e ∈ es, p e) → Along step (fun _ e => p e) s es
  | _, [], _ => trivial
  | _, e :: _, h =>
      ⟨h e List.mem_cons_self, along_of_forall fun e' he' => h e' (List.mem_cons_of_mem e he')⟩

/-- **Where a fact comes from.** If a step can only make a fact true by an event that grants it, then a
fact that holds at the end of a run held at the start or was granted on the way. -/
theorem run_provenance {R : σ → Prop} {G : σ → ε → Prop}
    (hstep : ∀ s e, R (step s e) → R s ∨ G s e) {s : σ} {es : List ε} (h : R (run step s es)) :
    R s ∨ ∃ es₁ e es₂, es = es₁ ++ e :: es₂ ∧ G (run step s es₁) e := by
  induction es generalizing s with
  | nil => exact Or.inl h
  | cons e es ih =>
      rcases ih h with hnext | ⟨es₁, e', es₂, rfl, hgrant⟩
      · rcases hstep s e hnext with hs | hgrant
        · exact Or.inl hs
        · exact Or.inr ⟨[], e, es, rfl, hgrant⟩
      · exact Or.inr ⟨e :: es₁, e', es₂, rfl, hgrant⟩

/-- The events of a run may be taken in two goes. -/
theorem run_append (s : σ) (es es' : List ε) :
    run step s (es ++ es') = run step (run step s es) es' := List.foldl_append

theorem along_append (s : σ) (es es' : List ε) :
    Along step P s (es ++ es') ↔ Along step P s es ∧ Along step P (run step s es) es' := by
  induction es generalizing s with
  | nil => simp
  | cons e es ih => rw [List.cons_append, along_cons, ih, along_cons, run_cons, and_assoc]

/-- **Since when a fact holds.** If moreover no event of the kind `T` leaves the fact standing without
granting it, then no such event has come since it was granted. -/
theorem run_since {R : σ → Prop} {G T : σ → ε → Prop}
    (hstep : ∀ s e, R (step s e) → G s e ∨ R s ∧ ¬ T s e) {s : σ} {es : List ε}
    (h : R (run step s es)) :
    R s ∨ ∃ es₁ e es₂, es = es₁ ++ e :: es₂ ∧ G (run step s es₁) e ∧
      Along step (fun s e => ¬ T s e) (step (run step s es₁) e) es₂ := by
  -- from the end of the run, backwards to the event that granted it
  induction es using List.reverseRecOn with
  | nil => exact Or.inl h
  | append_singleton es e ih =>
      rw [run_append] at h
      rcases hstep _ _ h with hgrant | ⟨hprev, hquiet⟩
      · exact Or.inr ⟨es, e, [], rfl, hgrant, trivial⟩
      · rcases ih hprev with hs | ⟨es₁, e', es₂, rfl, hgrant, hsince⟩
        · exact Or.inl hs
        · refine Or.inr ⟨es₁, e', es₂ ++ [e], by simp, hgrant, ?_⟩
          rw [run_append] at hquiet
          exact (along_append _ _ _).mpr ⟨hsince, hquiet, trivial⟩

end Lib
