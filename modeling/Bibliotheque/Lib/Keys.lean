import Bibliotheque.Lib.Table

/-! # Keys that other rows refer to

What a foreign key needs from the table it points to is only the list of its keys. `Table.keys` is
that list and `Refers rows f t` says that the keys read off `rows` by `f` are all in it.

* Writing rows: inserting under the next key adds one key, rewriting adds and removes none, deleting
  removes those of the deleted rows (`mem_keys_insert`, `keys_modify`, `mem_keys_delete`).
* References: they follow the referring rows (`Refers.of_subset`, `Refers.append`,
  `Refers.map`) and the table referred to (`Refers.mono`, `Refers.delete`). -/

namespace Lib

namespace Table

variable {α β : Type} [Row α]

/-- The keys of the rows. -/
def keys (t : Table α) : List Nat := t.rows.map Row.id

theorem mem_keys {t : Table α} {n : Nat} : n ∈ t.keys ↔ ∃ r ∈ t.rows, Row.id r = n := List.mem_map

theorem id_mem_keys {t : Table α} {r : α} (hr : r ∈ t.rows) : Row.id r ∈ t.keys :=
  List.mem_map_of_mem hr

theorem lt_next_of_mem_keys {t : Table α} {n : Nat} (h : n ∈ t.keys) : n < t.next := by
  obtain ⟨r, hr, rfl⟩ := mem_keys.mp h
  exact t.lt_next r hr

theorem isSome_find? {t : Table α} {n : Nat} : (t.find? n).isSome = true ↔ n ∈ t.keys := by
  rw [Option.isSome_iff_exists, mem_keys]
  constructor
  · rintro ⟨r, hr⟩
    exact ⟨r, t.find?_eq_some.mp hr⟩
  · rintro ⟨r, hr⟩
    exact ⟨r, t.find?_eq_some.mpr hr⟩

/-- A key of the table finds its row. -/
theorem exists_find?_of_mem_keys {t : Table α} {n : Nat} (h : n ∈ t.keys) :
    ∃ r, t.find? n = some r :=
  Option.isSome_iff_exists.mp (isSome_find?.mpr h)

/-! ## Keys after a write -/

@[simp] theorem keys_insert (t : Table α) (r : α) : (t.insert r).keys = t.keys ++ [t.next] := by
  simp only [keys, rows_insert, List.map_append, List.map_cons, List.map_nil, Row.id_setId]

theorem mem_keys_insert {t : Table α} {r : α} {n : Nat} :
    n ∈ (t.insert r).keys ↔ n ∈ t.keys ∨ n = t.next := by
  rw [keys_insert, List.mem_append, List.mem_singleton]

@[simp] theorem keys_modify (t : Table α) (f : α → α) (hf : ∀ r, Row.id (f r) = Row.id r) :
    (t.modify f hf).keys = t.keys := by
  simp only [keys, rows_modify, List.map_map]
  exact List.map_congr_left fun r _ => hf r

@[simp] theorem keys_updateAt (t : Table α) (n : Nat) (f : α → α)
    (hf : ∀ r, Row.id (f r) = Row.id r) : (t.updateAt n f hf).keys = t.keys :=
  keys_modify t _ _

theorem mem_keys_delete {t : Table α} {p : α → Bool} {n : Nat} :
    n ∈ (t.delete p).keys ↔ ∃ r ∈ t.rows, p r = false ∧ Row.id r = n := by
  rw [mem_keys]
  constructor
  · rintro ⟨r, hr, hid⟩
    obtain ⟨hmem, hkept⟩ := List.mem_filter.mp hr
    exact ⟨r, hmem, by simpa using hkept, hid⟩
  · rintro ⟨r, hmem, hkept, hid⟩
    exact ⟨r, List.mem_filter.mpr ⟨hmem, by simpa using hkept⟩, hid⟩

/-! ## References -/

/-- Every key that `f` reads off a row is a key of `t`. -/
def Refers (rows : List β) (f : β → Nat) (t : Table α) : Prop := ∀ b ∈ rows, f b ∈ t.keys

namespace Refers

variable {rows rows' : List β} {f : β → Nat} {t t' : Table α}

/-- Every reference finds its row. -/
theorem exists_find? (h : Refers rows f t) {b : β} (hb : b ∈ rows) : ∃ r, t.find? (f b) = some r :=
  exists_find?_of_mem_keys (h b hb)

theorem lt_next (h : Refers rows f t) {b : β} (hb : b ∈ rows) : f b < t.next :=
  lt_next_of_mem_keys (h b hb)

/-- Fewer referring rows. -/
theorem of_subset (h : Refers rows f t) (hsub : ∀ b ∈ rows', b ∈ rows) : Refers rows' f t :=
  fun b hb => h b (hsub b hb)

theorem append (h : Refers rows f t) (h' : Refers rows' f t) : Refers (rows ++ rows') f t := by
  intro b hb
  rcases List.mem_append.mp hb with hold | hnew
  · exact h b hold
  · exact h' b hnew

theorem singleton {b : β} (h : f b ∈ t.keys) : Refers [b] f t := by
  intro b' hb'
  rw [List.mem_singleton.mp hb']
  exact h

/-- Rewritten rows that refer where they did. -/
theorem map {γ : Type} {as : List γ} {g : γ → β} (h : ∀ a ∈ as, f (g a) ∈ t.keys) :
    Refers (as.map g) f t := by
  intro b hb
  obtain ⟨a, ha, rfl⟩ := List.mem_map.mp hb
  exact h a ha

/-- Following every reference gives the keys they were followed by. -/
theorem map_id_filterMap_find? (h : Refers rows f t) :
    (rows.filterMap fun b => t.find? (f b)).map Row.id = rows.map f := by
  induction rows with
  | nil => rfl
  | cons b rows ih =>
      obtain ⟨r, hr⟩ := h.exists_find? List.mem_cons_self
      rw [List.filterMap_cons, hr, List.map_cons, List.map_cons, (t.find?_eq_some.mp hr).2]
      exact congrArg (f b :: ·) (ih fun b' hb' => h b' (List.mem_cons_of_mem b hb'))

/-- More keys to refer to. -/
theorem mono (h : Refers rows f t) (hkeys : ∀ n ∈ t.keys, n ∈ t'.keys) : Refers rows f t' :=
  fun b hb => hkeys _ (h b hb)

theorem insert (h : Refers rows f t) (r : α) : Refers rows f (t.insert r) :=
  h.mono fun _ hn => mem_keys_insert.mpr (Or.inl hn)

theorem modify (h : Refers rows f t) (g : α → α) (hg : ∀ r, Row.id (g r) = Row.id r) :
    Refers rows f (t.modify g hg) :=
  h.mono fun _ hn => (keys_modify t g hg).symm ▸ hn

/-- Rows may be deleted that nobody refers to. -/
theorem delete (h : Refers rows f t) {p : α → Bool}
    (hfree : ∀ b ∈ rows, ∀ r ∈ t.rows, f b = Row.id r → p r = false) :
    Refers rows f (t.delete p) := by
  intro b hb
  obtain ⟨r, hr, hid⟩ := mem_keys.mp (h b hb)
  exact mem_keys_delete.mpr ⟨r, hr, hfree b hb r hr hid.symm, hid⟩

end Refers

end Table

end Lib
