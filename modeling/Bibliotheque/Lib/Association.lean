import Bibliotheque.Lib.Run
import Mathlib.Data.List.Nodup
import Mathlib.Logic.Function.Basic

/-! # Associations kept on both sides

A many-to-many association between objects, held twice: each object of the owning side has a
collection of the other side and the other way round. The four operations are the usual methods of
such entities, written with guards and calling each other:

* `add` appends to the collection of the owning side unless the element is there, and then tells the
  other object, which does the same (`addInverse`);
* `remove` takes the first occurrence out of the collection of the owning side and, if there was one,
  tells the other object, which does the same (`removeInverse`).

Taking out the first occurrence removes the element only if it occurs once, and the other object is
told only if this side knew of it: `InStep` carries both facts, and `add` and `remove` keep it. -/

namespace Lib

variable {α β : Type} [DecidableEq α] [DecidableEq β]

/-- The collections of both sides. -/
structure Association (α β : Type) where
  owning : α → List β
  inverse : β → List α

namespace Association

/-- All collections are empty. -/
def empty : Association α β := ⟨fun _ => [], fun _ => []⟩

def addInverse (b : β) (a : α) (r : Association α β) : Association α β :=
  if a ∈ r.inverse b then r
  else { r with inverse := Function.update r.inverse b (r.inverse b ++ [a]) }

def add (a : α) (b : β) (r : Association α β) : Association α β :=
  if b ∈ r.owning a then r
  else addInverse b a { r with owning := Function.update r.owning a (r.owning a ++ [b]) }

def removeInverse (b : β) (a : α) (r : Association α β) : Association α β :=
  { r with inverse := Function.update r.inverse b ((r.inverse b).erase a) }

def remove (a : α) (b : β) (r : Association α β) : Association α β :=
  if b ∈ r.owning a then
    removeInverse b a { r with owning := Function.update r.owning a ((r.owning a).erase b) }
  else r

/-- Both sides tell the same, and no collection holds an element twice. -/
structure InStep (r : Association α β) : Prop where
  mem_iff : ∀ a b, b ∈ r.owning a ↔ a ∈ r.inverse b
  nodup_owning : ∀ a, (r.owning a).Nodup
  nodup_inverse : ∀ b, (r.inverse b).Nodup

omit [DecidableEq α] [DecidableEq β] in
theorem inStep_empty : InStep (empty : Association α β) :=
  ⟨fun _ _ => by simp [empty], fun _ => List.nodup_nil, fun _ => List.nodup_nil⟩

/-! ## Collections after an operation

An update of one collection, read at any object. -/

section Update

variable {ι γ : Type} [DecidableEq ι] {f : ι → List γ} {i : ι} {x : γ}

theorem mem_update_append {j : ι} {y : γ} :
    y ∈ Function.update f i (f i ++ [x]) j ↔ y ∈ f j ∨ (j = i ∧ y = x) := by
  by_cases hj : j = i
  · subst hj
    simp
  · simp [hj]

theorem nodup_update_append (hf : ∀ j, (f j).Nodup) (hx : x ∉ f i) (j : ι) :
    (Function.update f i (f i ++ [x]) j).Nodup := by
  by_cases hj : j = i
  · subst hj
    rw [Function.update_self]
    exact (hf j).append (List.nodup_singleton x) (by simpa using hx)
  · rw [Function.update_of_ne hj]
    exact hf j

variable [DecidableEq γ]

/-- Erasing the first occurrence removes the element: the collection has no other. -/
theorem mem_update_erase (hf : ∀ j, (f j).Nodup) {j : ι} {y : γ} :
    y ∈ Function.update f i ((f i).erase x) j ↔ y ∈ f j ∧ ¬ (j = i ∧ y = x) := by
  by_cases hj : j = i
  · subst hj
    rw [Function.update_self, (hf j).mem_erase_iff]
    simp [and_comm]
  · simp [hj]

theorem nodup_update_erase (hf : ∀ j, (f j).Nodup) (j : ι) :
    (Function.update f i ((f i).erase x) j).Nodup := by
  by_cases hj : j = i
  · subst hj
    rw [Function.update_self]
    exact (hf j).erase x
  · rw [Function.update_of_ne hj]
    exact hf j

end Update

/-! ## One operation -/

variable {r : Association α β}

/-- In step, the other object is told exactly of what it does not know yet. -/
theorem add_of_notMem (h : InStep r) {a : α} {b : β} (hb : b ∉ r.owning a) :
    add a b r =
      ⟨Function.update r.owning a (r.owning a ++ [b]),
        Function.update r.inverse b (r.inverse b ++ [a])⟩ := by
  have ha : a ∉ r.inverse b := fun hmem => hb ((h.mem_iff a b).mpr hmem)
  simp only [add, addInverse, if_neg hb, if_neg ha]

theorem mem_owning_add (h : InStep r) {a a' : α} {b b' : β} :
    b' ∈ (add a b r).owning a' ↔ b' ∈ r.owning a' ∨ (a' = a ∧ b' = b) := by
  by_cases hb : b ∈ r.owning a
  · rw [add, if_pos hb]
    constructor
    · exact Or.inl
    · rintro (hmem | ⟨rfl, rfl⟩)
      · exact hmem
      · exact hb
  · rw [add_of_notMem h hb]
    exact mem_update_append

theorem mem_owning_remove (h : InStep r) {a a' : α} {b b' : β} :
    b' ∈ (remove a b r).owning a' ↔ b' ∈ r.owning a' ∧ ¬ (a' = a ∧ b' = b) := by
  by_cases hb : b ∈ r.owning a
  · rw [remove, if_pos hb]
    exact mem_update_erase h.nodup_owning
  · rw [remove, if_neg hb]
    constructor
    · intro hmem
      refine ⟨hmem, ?_⟩
      rintro ⟨rfl, rfl⟩
      exact hb hmem
    · exact And.left

theorem InStep.add (h : InStep r) (a : α) (b : β) : InStep (add a b r) := by
  by_cases hb : b ∈ r.owning a
  · rw [Association.add, if_pos hb]
    exact h
  · have ha : a ∉ r.inverse b := fun hmem => hb ((h.mem_iff a b).mpr hmem)
    rw [add_of_notMem h hb]
    refine ⟨?_, nodup_update_append h.nodup_owning hb, nodup_update_append h.nodup_inverse ha⟩
    intro a' b'
    rw [mem_update_append, mem_update_append, h.mem_iff a' b', @and_comm (a' = a)]

theorem InStep.remove (h : InStep r) (a : α) (b : β) : InStep (remove a b r) := by
  by_cases hb : b ∈ r.owning a
  · rw [Association.remove, if_pos hb]
    refine ⟨?_, nodup_update_erase h.nodup_owning, nodup_update_erase h.nodup_inverse⟩
    intro a' b'
    rw [removeInverse, mem_update_erase h.nodup_owning, mem_update_erase h.nodup_inverse,
      h.mem_iff a' b', @and_comm (a' = a)]
  · rw [Association.remove, if_neg hb]
    exact h

end Association

end Lib
