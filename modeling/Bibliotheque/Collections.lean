import Bibliotheque.Lib.Association

/-! # The collections of a book

`Livre::$auteurs` and `Livre::$categories` are the owning sides of two associations; `Auteur::$livre`
and `Categorie::$livres` repeat them from the other end. Only the methods of `Livre` keep the two ends
together: `addAuteur` calls `Auteur::addLivre`, `removeAuteur` calls `Auteur::removeLivre`, and
likewise for categories.

Objects are compared by identity, so books, authors and categories are arbitrary types here: a value
is an object, not its row. -/

namespace Bibliotheque

open Lib

variable {L A C : Type} [DecidableEq L] [DecidableEq A] [DecidableEq C]

/-- The collections of all objects. -/
structure Collections (L A C : Type) where
  /-- `Livre::$auteurs` and `Auteur::$livre` -/
  auteurs : Association L A
  /-- `Livre::$categories` and `Categorie::$livres` -/
  categories : Association L C

namespace Collections

/-- New objects. -/
def initiales : Collections L A C := ⟨.empty, .empty⟩

/-- `Livre::addAuteur`, with `Auteur::addLivre`. -/
def addAuteur (livre : L) (auteur : A) (s : Collections L A C) : Collections L A C :=
  { s with auteurs := s.auteurs.add livre auteur }

/-- `Livre::removeAuteur`, with `Auteur::removeLivre`. -/
def removeAuteur (livre : L) (auteur : A) (s : Collections L A C) : Collections L A C :=
  { s with auteurs := s.auteurs.remove livre auteur }

/-- `Livre::addCategory`, with `Categorie::addLivre`. -/
def addCategory (livre : L) (category : C) (s : Collections L A C) : Collections L A C :=
  { s with categories := s.categories.add livre category }

/-- `Livre::removeCategory`, with `Categorie::removeLivre`. -/
def removeCategory (livre : L) (category : C) (s : Collections L A C) : Collections L A C :=
  { s with categories := s.categories.remove livre category }

/-- A call of one of the four methods, on any book. -/
inductive Appel (L A C : Type) where
  | addAuteur (livre : L) (auteur : A)
  | removeAuteur (livre : L) (auteur : A)
  | addCategory (livre : L) (category : C)
  | removeCategory (livre : L) (category : C)
  deriving DecidableEq, Repr

def appliquer (s : Collections L A C) : Appel L A C → Collections L A C
  | .addAuteur livre auteur => s.addAuteur livre auteur
  | .removeAuteur livre auteur => s.removeAuteur livre auteur
  | .addCategory livre category => s.addCategory livre category
  | .removeCategory livre category => s.removeCategory livre category

namespace Appel

/-- The call is about this book and this author. -/
def surAuteur (l : L) (a : A) : Appel L A C → Bool
  | .addAuteur livre auteur => decide (l = livre ∧ a = auteur)
  | .removeAuteur livre auteur => decide (l = livre ∧ a = auteur)
  | _ => false

/-- The call is about this book and this category. -/
def surCategory (l : L) (c : C) : Appel L A C → Bool
  | .addCategory livre category => decide (l = livre ∧ c = category)
  | .removeCategory livre category => decide (l = livre ∧ c = category)
  | _ => false

end Appel

/-- Both associations are in step. -/
structure EnPhase (s : Collections L A C) : Prop where
  auteurs : s.auteurs.InStep
  categories : s.categories.InStep

omit [DecidableEq L] [DecidableEq A] [DecidableEq C] in
theorem enPhase_initiales : EnPhase (initiales : Collections L A C) :=
  ⟨Association.inStep_empty, Association.inStep_empty⟩

/-! ## One call -/

variable {s : Collections L A C}

theorem EnPhase.appliquer (h : EnPhase s) (c : Appel L A C) : EnPhase (s.appliquer c) := by
  cases c with
  | addAuteur livre auteur => exact ⟨h.auteurs.add livre auteur, h.categories⟩
  | removeAuteur livre auteur => exact ⟨h.auteurs.remove livre auteur, h.categories⟩
  | addCategory livre category => exact ⟨h.auteurs, h.categories.add livre category⟩
  | removeCategory livre category => exact ⟨h.auteurs, h.categories.remove livre category⟩

/-- A call about a book and an author relates them or separates them, whatever they were before. -/
theorem mem_auteurs_of_sur (h : EnPhase s) {l : L} {a : A} {c : Appel L A C}
    (hc : c.surAuteur l a = true) :
    a ∈ (s.appliquer c).auteurs.owning l ↔ c = .addAuteur l a := by
  cases c with
  | addAuteur livre auteur =>
      obtain ⟨rfl, rfl⟩ := of_decide_eq_true hc
      show a ∈ (s.auteurs.add l a).owning l ↔ _
      simp [Association.mem_owning_add h.auteurs]
  | removeAuteur livre auteur =>
      obtain ⟨rfl, rfl⟩ := of_decide_eq_true hc
      show a ∈ (s.auteurs.remove l a).owning l ↔ _
      simp [Association.mem_owning_remove h.auteurs]
  | addCategory livre category => cases hc
  | removeCategory livre category => cases hc

/-- A call about another pair leaves a book and an author as they are. -/
theorem mem_auteurs_of_not_sur (h : EnPhase s) {l : L} {a : A} {c : Appel L A C}
    (hc : c.surAuteur l a = false) :
    a ∈ (s.appliquer c).auteurs.owning l ↔ a ∈ s.auteurs.owning l := by
  cases c with
  | addAuteur livre auteur =>
      have hne : ¬ (l = livre ∧ a = auteur) := of_decide_eq_false hc
      show a ∈ (s.auteurs.add livre auteur).owning l ↔ _
      simp [Association.mem_owning_add h.auteurs, hne]
  | removeAuteur livre auteur =>
      have hne : ¬ (l = livre ∧ a = auteur) := of_decide_eq_false hc
      show a ∈ (s.auteurs.remove livre auteur).owning l ↔ _
      simp [Association.mem_owning_remove h.auteurs, hne]
  | addCategory livre category => exact Iff.rfl
  | removeCategory livre category => exact Iff.rfl

theorem mem_categories_of_sur (h : EnPhase s) {l : L} {k : C} {c : Appel L A C}
    (hc : c.surCategory l k = true) :
    k ∈ (s.appliquer c).categories.owning l ↔ c = .addCategory l k := by
  cases c with
  | addCategory livre category =>
      obtain ⟨rfl, rfl⟩ := of_decide_eq_true hc
      show k ∈ (s.categories.add l k).owning l ↔ _
      simp [Association.mem_owning_add h.categories]
  | removeCategory livre category =>
      obtain ⟨rfl, rfl⟩ := of_decide_eq_true hc
      show k ∈ (s.categories.remove l k).owning l ↔ _
      simp [Association.mem_owning_remove h.categories]
  | addAuteur livre auteur => cases hc
  | removeAuteur livre auteur => cases hc

theorem mem_categories_of_not_sur (h : EnPhase s) {l : L} {k : C} {c : Appel L A C}
    (hc : c.surCategory l k = false) :
    k ∈ (s.appliquer c).categories.owning l ↔ k ∈ s.categories.owning l := by
  cases c with
  | addCategory livre category =>
      have hne : ¬ (l = livre ∧ k = category) := of_decide_eq_false hc
      show k ∈ (s.categories.add livre category).owning l ↔ _
      simp [Association.mem_owning_add h.categories, hne]
  | removeCategory livre category =>
      have hne : ¬ (l = livre ∧ k = category) := of_decide_eq_false hc
      show k ∈ (s.categories.remove livre category).owning l ↔ _
      simp [Association.mem_owning_remove h.categories, hne]
  | addAuteur livre auteur => exact Iff.rfl
  | removeAuteur livre auteur => exact Iff.rfl

/-! ## Any number of calls -/

/-- The calls made on new objects, one after the other. -/
def apres (appels : List (Appel L A C)) : Collections L A C := run appliquer initiales appels

theorem enPhase_apres (appels : List (Appel L A C)) : EnPhase (apres appels) := by
  apply Always.last
  exact always_of_along (P := fun _ _ => True) (fun _ c h _ => h.appliquer c) enPhase_initiales
    (along_of_forall fun _ _ => trivial)

/-- **Both ends of the associations of a book stay in step**, after any sequence of calls on any
objects: each end holds the other exactly when it is held by it, nothing is held twice, and two
objects are related exactly when the last call about them was an addition. -/
theorem collections_apres (appels : List (Appel L A C)) (l : L) (a : A) (c : C) :
    (a ∈ (apres appels).auteurs.owning l ↔ l ∈ (apres appels).auteurs.inverse a) ∧
    (c ∈ (apres appels).categories.owning l ↔ l ∈ (apres appels).categories.inverse c) ∧
    ((apres appels).auteurs.owning l).Nodup ∧ ((apres appels).auteurs.inverse a).Nodup ∧
    ((apres appels).categories.owning l).Nodup ∧ ((apres appels).categories.inverse c).Nodup ∧
    (a ∈ (apres appels).auteurs.owning l ↔
      (appels.filter (Appel.surAuteur l a)).getLast? = some (.addAuteur l a)) ∧
    (c ∈ (apres appels).categories.owning l ↔
      (appels.filter (Appel.surCategory l c)).getLast? = some (.addCategory l c)) := by
  have h := enPhase_apres appels
  refine ⟨h.auteurs.mem_iff l a, h.categories.mem_iff l c, h.auteurs.nodup_owning l,
    h.auteurs.nodup_inverse a, h.categories.nodup_owning l, h.categories.nodup_inverse c, ?_, ?_⟩
  · exact run_iff_last (R := fun s : Collections L A C => a ∈ s.auteurs.owning l)
      (fun _ c h => EnPhase.appliquer h c) (fun _ _ h hc => mem_auteurs_of_sur h hc)
      (fun _ _ h hc => mem_auteurs_of_not_sur h hc) enPhase_initiales List.not_mem_nil appels
  · exact run_iff_last (R := fun s : Collections L A C => c ∈ s.categories.owning l)
      (fun _ c h => EnPhase.appliquer h c) (fun _ _ h hc => mem_categories_of_sur h hc)
      (fun _ _ h hc => mem_categories_of_not_sur h hc) enPhase_initiales List.not_mem_nil appels

end Collections

end Bibliotheque
