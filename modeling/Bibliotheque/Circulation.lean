import Mathlib.Data.Set.Card

/-! # What a lending desk is

The desk without its tables: every book is on the shelf, or held for a member since some date, or with
a member. Books and members are arbitrary types. The state of a book is one value, so a book that is
both lent and reserved, or lent twice, cannot be written down.

`Mouvement.Permise` says when the desk may do something — a member has at most three books held for him
and at most five at home — and `Mouvement.apply` what it then does. -/

namespace Circulation

variable {B M : Type}

/-- What a book is doing. -/
inductive Situation (M : Type) where
  | libre
  | reserve (m : M) (depuis : Int)
  | prete (m : M)
  deriving DecidableEq, Repr

namespace Situation

/-- The member the book is with or held for. -/
def membre? : Situation M → Option M
  | libre => none
  | reserve m _ => some m
  | prete m => some m

/-- A book held since before `c` goes back to the shelf. -/
def expire (c : Int) : Situation M → Situation M
  | reserve m d => if d < c then libre else reserve m d
  | s => s

/-- Whatever a member has goes back to the shelf. -/
def oublie [DecidableEq M] (m : M) (s : Situation M) : Situation M := if s.membre? = some m then libre else s

theorem expire_reserve (c : Int) (m : M) (d : Int) :
    (reserve m d).expire c = if d < c then libre else reserve m d := rfl

theorem expire_eq_prete {c : Int} {s : Situation M} {m : M} : s.expire c = prete m ↔ s = prete m := by
  cases s with
  | libre => exact Iff.rfl
  | prete m' => exact Iff.rfl
  | reserve m' d =>
      rw [expire_reserve]
      split <;> simp

theorem expire_eq_reserve {c d : Int} {s : Situation M} {m : M} :
    s.expire c = reserve m d ↔ s = reserve m d ∧ c ≤ d := by
  cases s with
  | libre => simp [expire]
  | prete m' => simp [expire]
  | reserve m' d' =>
      rw [expire_reserve]
      split
      · next hlt =>
        constructor
        · intro h; cases h
        · rintro ⟨h, hle⟩
          obtain ⟨rfl, rfl⟩ := reserve.inj h
          omega
      · next hge =>
        constructor
        · intro h
          obtain ⟨rfl, rfl⟩ := reserve.inj h
          exact ⟨rfl, by omega⟩
        · exact fun h => h.1

theorem oublie_eq_prete [DecidableEq M] {m m' : M} {s : Situation M} :
    s.oublie m = prete m' ↔ s = prete m' ∧ m' ≠ m := by
  unfold oublie
  split
  · next hm =>
    constructor
    · intro h; cases h
    · rintro ⟨rfl, hne⟩
      exact absurd (Option.some.inj hm) hne
  · next hm =>
    constructor
    · rintro rfl
      exact ⟨rfl, fun heq => hm (congrArg some heq)⟩
    · exact fun h => h.1

theorem oublie_eq_reserve [DecidableEq M] {m m' : M} {d : Int} {s : Situation M} :
    s.oublie m = reserve m' d ↔ s = reserve m' d ∧ m' ≠ m := by
  unfold oublie
  split
  · next hm =>
    constructor
    · intro h; cases h
    · rintro ⟨rfl, hne⟩
      exact absurd (Option.some.inj hm) hne
  · next hm =>
    constructor
    · rintro rfl
      exact ⟨rfl, fun heq => hm (congrArg some heq)⟩
    · exact fun h => h.1

end Situation

/-- The desk: what each book is doing. -/
abbrev Guichet (B M : Type) := B → Situation M

/-- The books held for a member. -/
def reserves (g : Guichet B M) (m : M) : Set B := {b | ∃ d, g b = .reserve m d}

/-- The books a member has at home. -/
def pretes (g : Guichet B M) (m : M) : Set B := {b | g b = .prete m}

inductive Mouvement (B M : Type) where
  | reserver (b : B) (m : M) (d : Int)
  | annuler (b : B) (m : M)
  | redater (b : B) (m : M) (d : Int)
  | expirer (c : Int)
  | preter (b : B) (m : M)
  | rendre (b : B) (m : M)
  /-- the member is no longer one -/
  | oublier (m : M)

/-- When the desk may do it. -/
def Mouvement.Permise (g : Guichet B M) : Mouvement B M → Prop
  | reserver b m _ => g b = .libre ∧ (reserves g m).encard < 3
  | annuler b m => ∃ d, g b = .reserve m d
  | redater b m _ => ∃ d, g b = .reserve m d
  | expirer _ => True
  | preter b m => (g b = .libre ∨ ∃ d, g b = .reserve m d) ∧ (pretes g m).encard < 5
  | rendre b m => g b = .prete m
  | oublier _ => True

/-- What happens then. -/
def Mouvement.apply [DecidableEq B] [DecidableEq M] (g : Guichet B M) : Mouvement B M → Guichet B M
  | reserver b m d => Function.update g b (.reserve m d)
  | annuler b _ => Function.update g b .libre
  | redater b m d => Function.update g b (.reserve m d)
  | expirer c => fun b => (g b).expire c
  | preter b m => Function.update g b (.prete m)
  | rendre b _ => Function.update g b .libre
  | oublier m => fun b => (g b).oublie m

/-- The size of a set that is read off a list. -/
theorem encard_eq_countP {α : Type} {l : List α} {p : α → Bool} {f : α → B} {s : Set B}
    (hnodup : l.Nodup) (hs : ∀ b, b ∈ s ↔ ∃ x ∈ l, p x = true ∧ f x = b)
    (hinj : ∀ x ∈ l, ∀ y ∈ l, p x = true → p y = true → f x = f y → x = y) :
    s.encard = l.countP p := by
  classical
  have hset : s = ↑((l.filter p).map f).toFinset := by
    ext b
    rw [hs b]
    simp only [List.coe_toFinset, Set.mem_ofPred_eq, List.mem_map, List.mem_filter, and_assoc]
  have hmap : ((l.filter p).map f).Nodup := by
    refine List.Nodup.map_on ?_ (hnodup.filter p)
    intro x hx y hy hxy
    obtain ⟨hx, hpx⟩ := List.mem_filter.mp hx
    obtain ⟨hy, hpy⟩ := List.mem_filter.mp hy
    exact hinj x hx y hy hpx hpy hxy
  rw [hset, Set.encard_coe_eq_coe_finsetCard, List.toFinset_card_of_nodup hmap, List.length_map,
    List.countP_eq_length_filter]

end Circulation
