import Mathlib.Data.List.Nodup
import Mathlib.Data.List.Count

/-! # Tables with an auto-increment primary key

A table is the list of its rows in insertion order together with the next key the database will
hand out. The structure carries the two facts the engine guarantees — keys are distinct, and the
next key is above all of them — so no operation here can produce a table that breaks them:

* `insert` gives the new row the next key;
* `delete` drops the rows that satisfy a predicate;
* `modify` rewrites rows without touching their keys, `updateAt` does so at one key only.

The counting lemmas (`countP_insert`, `countP_delete_le`, `countP_modify_le`) are what limits of
the form "at most `n` rows with such a property" are proved with. -/

namespace Lib

/-- A type of rows: a key can be read and set. -/
class Row (α : Type) where
  id : α → Nat
  setId : Nat → α → α
  id_setId : ∀ n r, id (setId n r) = n

/-- A table whose primary key is generated by the database. -/
structure Table (α : Type) [Row α] where
  rows : List α
  next : Nat
  nodup : (rows.map Row.id).Nodup
  lt_next : ∀ r ∈ rows, Row.id r < next

namespace Table

variable {α : Type} [Row α]

/-- The table with no row. -/
def empty : Table α where
  rows := []
  next := 1
  nodup := List.nodup_nil
  lt_next := by simp

/-- The row with a given key. -/
def find? (t : Table α) (n : Nat) : Option α := t.rows.find? (fun r => decide (Row.id r = n))

/-- Add a row under the next key. -/
def insert (t : Table α) (r : α) : Table α where
  rows := t.rows ++ [Row.setId t.next r]
  next := t.next + 1
  nodup := by
    rw [List.map_append, List.nodup_append]
    refine ⟨t.nodup, by simp, ?_⟩
    intro a ha b hb
    obtain ⟨r', hr', rfl⟩ := List.mem_map.mp ha
    have hb' : b = t.next := by simpa [Row.id_setId] using hb
    have := t.lt_next r' hr'
    omega
  lt_next := by
    intro r' hr'
    rcases List.mem_append.mp hr' with h | h
    · exact Nat.lt_succ_of_lt (t.lt_next r' h)
    · rw [List.mem_singleton.mp h, Row.id_setId]
      exact Nat.lt_succ_self _

/-- The table obtained by inserting rows one after the other. -/
def ofList (rs : List α) : Table α := rs.foldl insert empty

/-- Remove the rows that satisfy `p`. -/
def delete (t : Table α) (p : α → Bool) : Table α where
  rows := t.rows.filter (fun r => !p r)
  next := t.next
  nodup := (List.filter_sublist.map _).nodup t.nodup
  lt_next := fun r hr => t.lt_next r (List.mem_filter.mp hr).1

/-- Rewrite every row, keys apart. -/
def modify (t : Table α) (f : α → α) (hf : ∀ r, Row.id (f r) = Row.id r) : Table α where
  rows := t.rows.map f
  next := t.next
  nodup := by
    rw [List.map_map]
    have hid : Row.id ∘ f = (Row.id : α → Nat) := funext hf
    rw [hid]
    exact t.nodup
  lt_next := by
    intro r hr
    obtain ⟨r', hr', rfl⟩ := List.mem_map.mp hr
    rw [hf]
    exact t.lt_next r' hr'

/-- Rewrite the row with key `n`. -/
def updateAt (t : Table α) (n : Nat) (f : α → α) (hf : ∀ r, Row.id (f r) = Row.id r) : Table α :=
  t.modify (fun r => if Row.id r = n then f r else r) (by intro r; split <;> simp [hf])

/-! ## Rows of the result -/

/-- A table is its rows and its next key. -/
theorem ext_rows {t t' : Table α} (hrows : t.rows = t'.rows) (hnext : t.next = t'.next) : t = t' := by
  cases t
  cases t'
  cases hrows
  cases hnext
  rfl

@[simp] theorem rows_insert (t : Table α) (r : α) :
    (t.insert r).rows = t.rows ++ [Row.setId t.next r] := rfl

@[simp] theorem rows_delete (t : Table α) (p : α → Bool) :
    (t.delete p).rows = t.rows.filter (fun r => !p r) := rfl

@[simp] theorem rows_modify (t : Table α) (f : α → α) (hf : ∀ r, Row.id (f r) = Row.id r) :
    (t.modify f hf).rows = t.rows.map f := rfl

@[simp] theorem rows_updateAt (t : Table α) (n : Nat) (f : α → α)
    (hf : ∀ r, Row.id (f r) = Row.id r) :
    (t.updateAt n f hf).rows = t.rows.map (fun r => if Row.id r = n then f r else r) := rfl

/-! ## Keys determine rows -/

theorem eq_of_id (t : Table α) {r r' : α} (hr : r ∈ t.rows) (hr' : r' ∈ t.rows)
    (hid : Row.id r = Row.id r') : r = r' :=
  List.inj_on_of_nodup_map t.nodup hr hr' hid

theorem find?_eq_some (t : Table α) {n : Nat} {r : α} :
    t.find? n = some r ↔ r ∈ t.rows ∧ Row.id r = n := by
  constructor
  · intro h
    exact ⟨List.mem_of_find?_eq_some h, by simpa using List.find?_some h⟩
  · rintro ⟨hr, hid⟩
    cases h : t.find? n with
    | none =>
        have := List.find?_eq_none.mp h r hr
        simp [hid] at this
    | some r' =>
        have hr' : r' ∈ t.rows := List.mem_of_find?_eq_some h
        have hid' : Row.id r' = n := by simpa using List.find?_some h
        rw [t.eq_of_id hr' hr (hid'.trans hid.symm)]

theorem find?_modify (t : Table α) (f : α → α) (hf : ∀ r, Row.id (f r) = Row.id r) (n : Nat) :
    (t.modify f hf).find? n = (t.find? n).map f := by
  unfold find?
  rw [rows_modify, List.find?_map]
  congr 2
  funext r
  simp only [Function.comp_apply, hf]

/-- Rewriting one row leaves the others where they are. -/
theorem find?_updateAt_of_ne (t : Table α) {n m : Nat} (f : α → α)
    (hf : ∀ r, Row.id (f r) = Row.id r) (hne : m ≠ n) : (t.updateAt n f hf).find? m = t.find? m := by
  unfold updateAt
  rw [find?_modify]
  cases hfind : t.find? m with
  | none => rfl
  | some r =>
      have hid : Row.id r = m := (t.find?_eq_some.mp hfind).2
      rw [Option.map_some, if_neg (hid ▸ hne)]

/-! ## Counting -/

theorem countP_insert (t : Table α) (r : α) (p : α → Bool) :
    (t.insert r).rows.countP p = t.rows.countP p + if p (Row.setId t.next r) then 1 else 0 := by
  rw [rows_insert, List.countP_append, List.countP_singleton]

theorem countP_delete_le (t : Table α) (q p : α → Bool) :
    (t.delete q).rows.countP p ≤ t.rows.countP p :=
  List.filter_sublist.countP_le

theorem countP_modify_le (t : Table α) (f : α → α) (hf : ∀ r, Row.id (f r) = Row.id r)
    (p q : α → Bool) (h : ∀ r ∈ t.rows, p (f r) → q r) :
    (t.modify f hf).rows.countP p ≤ t.rows.countP q := by
  rw [rows_modify, List.countP_map]
  exact List.countP_mono_left h

theorem countP_updateAt_le (t : Table α) (n : Nat) (f : α → α)
    (hf : ∀ r, Row.id (f r) = Row.id r) (p q : α → Bool)
    (hn : ∀ r ∈ t.rows, Row.id r = n → p (f r) → q r) (h : ∀ r ∈ t.rows, p r → q r) :
    (t.updateAt n f hf).rows.countP p ≤ t.rows.countP q := by
  refine t.countP_modify_le _ _ p q ?_
  intro r hr
  split
  · next hid => exact hn r hr hid
  · exact h r hr

/-- Counting after a rewrite of one row: the other rows, and the rewritten one. -/
theorem countP_updateAt (t : Table α) {r : α} (hr : r ∈ t.rows) (f : α → α)
    (hf : ∀ r, Row.id (f r) = Row.id r) (p : α → Bool) :
    (t.updateAt (Row.id r) f hf).rows.countP p =
      (t.delete (fun r' => decide (Row.id r' = Row.id r))).rows.countP p +
        if p (f r) then 1 else 0 := by
  rw [rows_updateAt, rows_delete]
  have hnodup := t.nodup
  revert hr hnodup
  generalize t.rows = rs
  intro hr hnodup
  -- the keys are distinct, so the rewritten row occurs once: here or further on
  induction rs with
  | nil => cases hr
  | cons a rs ih =>
      rw [List.map_cons, List.nodup_cons] at hnodup
      obtain ⟨hfresh, hnodup⟩ := hnodup
      rcases List.mem_cons.mp hr with rfl | hmem
      · have hothers : ∀ r' ∈ rs, Row.id r' ≠ Row.id r := by
          intro r' hr' hid
          exact hfresh (hid ▸ List.mem_map_of_mem hr')
        have hmap : rs.map (fun r' => if Row.id r' = Row.id r then f r' else r') = rs := by
          rw [List.map_congr_left (g := id), List.map_id]
          intro r' hr'
          rw [if_neg (hothers r' hr'), id]
        have hfilter : rs.filter (fun r' => !decide (Row.id r' = Row.id r)) = rs := by
          rw [List.filter_eq_self]
          intro r' hr'
          simp [hothers r' hr']
        rw [List.map_cons, if_pos rfl, List.countP_cons, hmap, List.filter_cons, hfilter]
        simp
      · have hne : Row.id a ≠ Row.id r := by
          intro hid
          exact hfresh (hid ▸ List.mem_map_of_mem hmem)
        rw [List.map_cons, if_neg hne, List.countP_cons, ih hmem hnodup, List.filter_cons]
        simp only [hne, decide_false, Bool.not_false, if_true, List.countP_cons]
        omega

omit [Row α] in
/-- A property that at most one row has singles that row out. -/
theorem eq_of_countP_le_one {l : List α} {p : α → Bool} (h : l.countP p ≤ 1) {r r' : α}
    (hr : r ∈ l) (hr' : r' ∈ l) (hp : p r = true) (hp' : p r' = true) : r = r' := by
  induction l with
  | nil => cases hr
  | cons a l ih =>
      rw [List.countP_cons] at h
      have hpos : ∀ x ∈ l, p x = true → 0 < l.countP p :=
        fun x hx hpx => List.countP_pos_iff.mpr ⟨x, hx, hpx⟩
      rcases List.mem_cons.mp hr with rfl | hm
      · rcases List.mem_cons.mp hr' with rfl | hm'
        · rfl
        · have := hpos r' hm' hp'
          rw [if_pos hp] at h
          omega
      · rcases List.mem_cons.mp hr' with rfl | hm'
        · have := hpos r hm hp
          rw [if_pos hp'] at h
          omega
        · exact ih (by omega) hm hm'

end Table

end Lib
