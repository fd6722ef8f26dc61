import Mathlib.Data.List.Infix

/-! # Patterns with wildcards

A pattern is a list of tokens: a given symbol, any one symbol, or any sequence of symbols. `matches?`
decides whether a text matches. A pattern made of the symbols of `t` between two sequence wildcards
means "contains `t`" (`matches?_contains`); with other tokens in between it does not, and
`Pattern.sample` is a text that shows it: the shortest one that matches.

`ofLike` reads the notation of SQL: `%`, `_`, and `\` before a symbol that stands for itself. -/

namespace Lib

/-- One token of a pattern. -/
inductive Wild (α : Type) where
  | lit (a : α)
  | one
  | many
  deriving DecidableEq, Repr

/-- A pattern over an arbitrary alphabet. -/
abbrev Pattern (α : Type) := List (Wild α)

namespace Pattern

variable {α : Type} [DecidableEq α]

/-- Does the whole text match the pattern? -/
def matches? : Pattern α → List α → Bool
  | [], s => s.isEmpty
  | .many :: p, s => s.tails.any (fun s' => matches? p s')
  | .one :: _, [] => false
  | .one :: p, _ :: s => matches? p s
  | .lit _ :: _, [] => false
  | .lit a :: p, b :: s => decide (a = b) && matches? p s

theorem matches?_many {p : Pattern α} {s : List α} :
    matches? (.many :: p) s = true ↔ ∃ s', s' <:+ s ∧ matches? p s' = true := by
  simp only [matches?, List.any_eq_true, List.mem_tails]

theorem matches?_lits (t : List α) (p : Pattern α) (s : List α) :
    matches? (t.map .lit ++ p) s = true ↔ ∃ s', s = t ++ s' ∧ matches? p s' = true := by
  induction t generalizing s with
  | nil => simp
  | cons a t ih =>
      cases s with
      | nil => simp [matches?]
      | cons b s =>
          rw [List.map_cons, List.cons_append, matches?, Bool.and_eq_true, decide_eq_true_eq, ih]
          constructor
          · rintro ⟨rfl, s', rfl, hp⟩
            exact ⟨s', rfl, hp⟩
          · rintro ⟨s', hs, hp⟩
            obtain ⟨rfl, rfl⟩ := List.cons.inj hs
            exact ⟨rfl, s', rfl, hp⟩

/-- **Symbols between two sequence wildcards**: the text contains them. -/
theorem matches?_contains (t s : List α) :
    matches? (.many :: (t.map .lit ++ [.many])) s = true ↔ t <:+: s := by
  rw [matches?_many]
  constructor
  · rintro ⟨s', ⟨front, hs⟩, hmatch⟩
    obtain ⟨back, hs', -⟩ := (matches?_lits t _ s').mp hmatch
    refine ⟨front, back, ?_⟩
    rw [List.append_assoc, ← hs', hs]
  · rintro ⟨front, back, hs⟩
    refine ⟨t ++ back, ⟨front, by rw [← List.append_assoc, hs]⟩, ?_⟩
    exact (matches?_lits t _ _).mpr ⟨back, rfl, matches?_many.mpr ⟨[], List.nil_suffix, rfl⟩⟩

/-- The shortest text that matches, with `d` where any symbol will do. -/
def sample (d : α) : Pattern α → List α
  | [] => []
  | .many :: p => sample d p
  | .one :: p => d :: sample d p
  | .lit a :: p => a :: sample d p

theorem matches?_sample (d : α) (p : Pattern α) : matches? p (sample d p) = true := by
  induction p with
  | nil => rfl
  | cons w p ih =>
      cases w with
      | lit a => simp [matches?, sample, ih]
      | one => simp [matches?, sample, ih]
      | many => exact matches?_many.mpr ⟨_, List.suffix_refl _, ih⟩

end Pattern

/-! ## The notation of SQL -/

/-- The tokens of a `LIKE` pattern. A backslash at the very end stands for itself. -/
def ofLike : List Char → Pattern Char
  | [] => []
  | '%' :: p => .many :: ofLike p
  | '_' :: p => .one :: ofLike p
  | '\\' :: c :: p => .lit c :: ofLike p
  | c :: p => .lit c :: ofLike p

/-- The characters that do not stand for themselves. -/
def isSpecial (c : Char) : Bool := c == '%' || c == '_' || c == '\\'

/-- SQL `LIKE`. -/
def like (text pattern : List Char) : Bool := (ofLike pattern).matches? text

theorem ofLike_cons_of_plain {c : Char} (hc : isSpecial c = false) (p : List Char) :
    ofLike (c :: p) = .lit c :: ofLike p := by
  simp only [isSpecial, Bool.or_eq_false_iff, beq_eq_false_iff_ne] at hc
  obtain ⟨⟨hmany, hone⟩, hescape⟩ := hc
  rw [ofLike]
  · exact hmany
  · exact hone
  · intro _ _ heq _
    exact hescape heq

/-- A text without special characters between two `%` means "contains this text". -/
theorem like_contains {t : List Char} (ht : ∀ c ∈ t, isSpecial c = false) (s : List Char) :
    like s ('%' :: (t ++ ['%'])) = true ↔ t <:+: s := by
  have htokens : ofLike (t ++ ['%']) = t.map .lit ++ [.many] := by
    induction t with
    | nil => rfl
    | cons c t ih =>
        rw [List.cons_append, ofLike_cons_of_plain (ht c List.mem_cons_self),
          ih (fun c' hc' => ht c' (List.mem_cons_of_mem _ hc'))]
        rfl
  rw [like, ofLike, htokens]
  exact Pattern.matches?_contains t s

/-- One step of reading a text that is followed by the closing `%`. The last case is a backslash with
nothing after it, which takes the `%` itself. -/
theorem sample_ofLike_cons (c : Char) (t : List Char) :
    (isSpecial c = false ∧
      (ofLike (c :: t ++ ['%'])).sample 'a' = c :: (ofLike (t ++ ['%'])).sample 'a') ∨
    (c = '%' ∧ (ofLike (c :: t ++ ['%'])).sample 'a' = (ofLike (t ++ ['%'])).sample 'a') ∨
    (c = '_' ∧ (ofLike (c :: t ++ ['%'])).sample 'a' = 'a' :: (ofLike (t ++ ['%'])).sample 'a') ∨
    (c = '\\' ∧ ∃ c' t', t = c' :: t' ∧
      (ofLike (c :: t ++ ['%'])).sample 'a' = c' :: (ofLike (t' ++ ['%'])).sample 'a') ∨
    (c = '\\' ∧ t = [] ∧ (ofLike (c :: t ++ ['%'])).sample 'a' = ['%']) := by
  by_cases hc : isSpecial c = false
  · refine Or.inl ⟨hc, ?_⟩
    rw [List.cons_append, ofLike_cons_of_plain hc]
    rfl
  · right
    simp only [isSpecial, Bool.not_eq_false, Bool.or_eq_true, beq_iff_eq] at hc
    rcases hc with (rfl | rfl) | rfl
    · exact Or.inl ⟨rfl, rfl⟩
    · exact Or.inr (Or.inl ⟨rfl, rfl⟩)
    · cases t with
      | nil => exact Or.inr (Or.inr (Or.inr ⟨rfl, rfl, rfl⟩))
      | cons c' t' => exact Or.inr (Or.inr (Or.inl ⟨rfl, c', t', rfl, rfl⟩))

/-- The sample of a text followed by `%` is not longer than the text … -/
theorem length_sample_le : ∀ t : List Char, ((ofLike (t ++ ['%'])).sample 'a').length ≤ t.length
  | [] => by simp [ofLike, Pattern.sample]
  | c :: t => by
      have ih := length_sample_le t
      rcases sample_ofLike_cons c t with ⟨-, h⟩ | ⟨-, h⟩ | ⟨-, h⟩ | ⟨-, c', t', rfl, h⟩ | ⟨-, rfl, h⟩
      · rw [h, List.length_cons, List.length_cons]
        omega
      · rw [h, List.length_cons]
        omega
      · rw [h, List.length_cons, List.length_cons]
        omega
      · have ih' := length_sample_le t'
        rw [h, List.length_cons, List.length_cons, List.length_cons]
        omega
      · rw [h]
        rfl

/-- … and is not the text if that has a special character. -/
theorem sample_ne_of_special : ∀ {t : List Char}, (∃ c ∈ t, isSpecial c = true) →
    (ofLike (t ++ ['%'])).sample 'a' ≠ t
  | [], hex => by simp at hex
  | c :: t, hex => by
      have hlen := length_sample_le t
      rcases sample_ofLike_cons c t with ⟨hplain, h⟩ | ⟨-, h⟩ | ⟨rfl, h⟩ | ⟨-, c', t', rfl, h⟩ |
        ⟨rfl, rfl, h⟩
      · -- the special character is further on
        have hrest : ∃ c ∈ t, isSpecial c = true := by
          obtain ⟨d, hd, hspecial⟩ := hex
          rcases List.mem_cons.mp hd with rfl | hmem
          · rw [hplain] at hspecial
            cases hspecial
          · exact ⟨d, hmem, hspecial⟩
        rw [h]
        intro heq
        exact sample_ne_of_special hrest (List.cons.inj heq).2
      · rw [h]
        intro heq
        rw [heq, List.length_cons] at hlen
        omega
      · rw [h]
        intro heq
        exact absurd (List.cons.inj heq).1 (by decide)
      · have hlen' := length_sample_le t'
        rw [h]
        intro heq
        have heq' := congrArg List.length (List.cons.inj heq).2
        rw [List.length_cons] at heq'
        omega
      · rw [h]
        decide

/-- **With a special character in it, a text between two `%` does not mean "contains this text"**: the
sample matches and does not contain it. -/
theorem like_sample_of_special {t : List Char} (hex : ∃ c ∈ t, isSpecial c = true) :
    like ((ofLike (t ++ ['%'])).sample 'a') ('%' :: (t ++ ['%'])) = true ∧
      ¬ t <:+: (ofLike (t ++ ['%'])).sample 'a' := by
  refine ⟨Pattern.matches?_sample 'a' (.many :: ofLike (t ++ ['%'])), ?_⟩
  intro hinfix
  have hlen := length_sample_le t
  have heq : t = (ofLike (t ++ ['%'])).sample 'a' := hinfix.eq_of_length_le hlen
  exact sample_ne_of_special hex heq.symm

/-- The sample is made of characters of the pattern and of the one that stands in for any. -/
theorem mem_sample_ofLike {c : Char} {t : List Char} (h : c ∈ (ofLike t).sample 'a') :
    c ∈ t ∨ c = 'a' := by
  fun_induction ofLike t with
  | case1 => cases h
  | case2 p ih => grind [Pattern.sample]
  | case3 p ih => grind [Pattern.sample]
  | case4 c' p ih => grind [Pattern.sample]
  | case5 c' p _ _ _ ih => grind [Pattern.sample]

end Lib
