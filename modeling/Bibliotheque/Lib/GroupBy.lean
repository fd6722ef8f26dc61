import Mathlib.Data.List.Dedup

/-! # Counting by groups

`SELECT name, COUNT(*) … GROUP BY key`: one line for each value of the key that occurs, with the name
read off the first row of the group (`representatives`) and the number of its rows (`countBy`).

Where the rows come from a join — every item once for each of its labels — a group counts pairs and
not items. `countsItems_countBy_iff` says when that makes no difference: exactly when no item has two
labels of one name and the key never puts two names together. -/

namespace Lib

variable {α β γ κ : Type} [DecidableEq κ]

/-- The first row of each group. -/
def representatives (key : α → κ) (rows : List α) : List α :=
  (rows.map key).dedup.filterMap fun k => rows.find? fun x => decide (key x = k)

/-- A line for each group: what `name` says of its first row, and how many rows it has. -/
def countBy (key : α → κ) (name : α → β) (rows : List α) : List (β × Nat) :=
  (representatives key rows).map fun x => (name x, rows.countP fun y => decide (key y = key x))

variable {key : α → κ} {name : α → β} {rows : List α}

theorem mem_of_mem_representatives {x : α} (hx : x ∈ representatives key rows) : x ∈ rows := by
  obtain ⟨k, -, hk⟩ := List.mem_filterMap.mp hx
  exact List.mem_of_find?_eq_some hk

/-- The keys of the representatives are the keys, each once. -/
theorem map_key_representatives :
    (representatives key rows).map key = (rows.map key).dedup := by
  rw [representatives, List.map_filterMap]
  have hsome : ∀ k ∈ (rows.map key).dedup,
      (rows.find? fun x => decide (key x = k)).map key = some k := by
    intro k hk
    obtain ⟨x, hx, rfl⟩ := List.mem_map.mp (List.mem_dedup.mp hk)
    cases hfind : rows.find? fun y => decide (key y = key x) with
    | none => simpa using List.find?_eq_none.mp hfind x hx
    | some y =>
        have hy : key y = key x := by simpa using List.find?_some hfind
        rw [Option.map_some, hy]
  rw [List.filterMap_congr hsome, List.filterMap_some]

theorem eq_of_mem_representatives {x y : α} (hx : x ∈ representatives key rows)
    (hy : y ∈ representatives key rows) (hkey : key x = key y) : x = y := by
  refine List.inj_on_of_nodup_map ?_ hx hy hkey
  rw [map_key_representatives]
  exact List.nodup_dedup _

/-- Each group has one representative. -/
theorem countP_representatives {x : α} (hx : x ∈ rows) :
    (representatives key rows).countP (fun y => decide (key y = key x)) = 1 := by
  have hcount : ((representatives key rows).map key).count (key x) = 1 := by
    rw [map_key_representatives]
    apply List.count_eq_one_of_mem (List.nodup_dedup _)
    exact List.mem_dedup.mpr (List.mem_map_of_mem hx)
  rw [List.count, List.countP_map] at hcount
  rw [← hcount]
  apply List.countP_congr
  intro y _
  simp

/-! ## Items and their labels -/

/-- The rows of a join: every item, once for each of its labels. -/
def joinLabels (labels : α → List γ) (items : List α) : List (α × γ) :=
  items.flatMap fun e => (labels e).map fun c => (e, c)

variable {labels : α → List γ} {items : List α}

theorem mem_joinLabels {x : α × γ} :
    x ∈ joinLabels labels items ↔ x.1 ∈ items ∧ x.2 ∈ labels x.1 := by
  obtain ⟨e, c⟩ := x
  simp [joinLabels]

section Count

variable (p : γ → Bool)

theorem countP_joinLabels_cons (e : α) :
    (joinLabels labels (e :: items)).countP (fun x => p x.2) =
      (labels e).countP p + (joinLabels labels items).countP (fun x => p x.2) := by
  rw [joinLabels, List.flatMap_cons, List.countP_append, List.countP_map]
  rfl

theorem any_iff_countP_pos {l : List γ} : l.any p = true ↔ 0 < l.countP p := by
  rw [List.countP_pos_iff, List.any_eq_true]

theorem countP_le_countP_joinLabels :
    items.countP (fun e => (labels e).any p) ≤
      (joinLabels labels items).countP (fun x => p x.2) := by
  induction items with
  | nil => exact Nat.le_refl _
  | cons e l ih =>
      rw [List.countP_cons, countP_joinLabels_cons]
      split
      · next hany =>
        have hpos := (any_iff_countP_pos p).mp hany
        omega
      · omega

/-- The rows count the items exactly when no item has a share of more than one. -/
theorem countP_joinLabels_eq_iff :
    (joinLabels labels items).countP (fun x => p x.2) = items.countP (fun e => (labels e).any p) ↔
      ∀ e ∈ items, (labels e).countP p ≤ 1 := by
  induction items with
  | nil => simp [joinLabels]
  | cons e l ih =>
      rw [List.countP_cons, countP_joinLabels_cons, List.forall_mem_cons, ← ih]
      have hle : l.countP (fun e => (labels e).any p) ≤ _ := countP_le_countP_joinLabels p
      by_cases hpos : 0 < (labels e).countP p
      · rw [if_pos ((any_iff_countP_pos p).mpr hpos)]
        omega
      · rw [if_neg fun hany => hpos ((any_iff_countP_pos p).mp hany)]
        omega

end Count

/-! ## Lines that count items -/

/-- Every line counts the items with a label of its name, and every name that occurs has one line. -/
structure CountsItems [DecidableEq β] (labels : α → List γ) (items : List α) (name : γ → β)
    (lines : List (β × Nat)) : Prop where
  count : ∀ p ∈ lines,
    p.2 = items.countP fun e => (labels e).any fun c => decide (name c = p.1)
  once : ∀ e ∈ items, ∀ c ∈ labels e, lines.countP (fun p => decide (p.1 = name c)) = 1

/-- No item has two labels of one name. -/
def NamesApart (labels : α → List γ) (items : List α) (name : γ → β) : Prop :=
  ∀ e ∈ items, ((labels e).map name).Nodup

/-- The key puts no two names that occur together. -/
def KeySeparates (labels : α → List γ) (items : List α) (key : γ → κ) (name : γ → β) : Prop :=
  ∀ e ∈ items, ∀ c ∈ labels e, ∀ e' ∈ items, ∀ c' ∈ labels e', key c = key c' → name c = name c'

section Lines

variable [DecidableEq β] {key : γ → κ} {name : γ → β}

/-- With the names kept apart by the key, a group is the rows of one name. -/
theorem countP_key_joinLabels (hname : ∀ c c', name c = name c' → key c = key c')
    (hsep : KeySeparates labels items key name) {x : α × γ} (hx : x ∈ joinLabels labels items) :
    (joinLabels labels items).countP (fun y => decide (key y.2 = key x.2)) =
      (joinLabels labels items).countP (fun y => decide (name y.2 = name x.2)) := by
  apply List.countP_congr
  intro y hy
  obtain ⟨hx₁, hx₂⟩ := mem_joinLabels.mp hx
  obtain ⟨hy₁, hy₂⟩ := mem_joinLabels.mp hy
  simp only [decide_eq_true_eq]
  exact ⟨hsep _ hy₁ _ hy₂ _ hx₁ _ hx₂, hname _ _⟩

/-- Every name that occurs has a line only if the key keeps the names apart. -/
theorem CountsItems.keySeparates (hname : ∀ c c', name c = name c' → key c = key c')
    (h : CountsItems labels items name
      (countBy (fun x => key x.2) (fun x => name x.2) (joinLabels labels items))) :
    KeySeparates labels items key name := by
  have hline : ∀ e ∈ items, ∀ c ∈ labels e,
      ∃ y ∈ representatives (fun x => key x.2) (joinLabels labels items), name y.2 = name c := by
    intro e he c hc
    have hpos : 0 < _ := (h.once e he c hc).symm ▸ Nat.one_pos
    obtain ⟨p, hp, hpc⟩ := List.countP_pos_iff.mp hpos
    obtain ⟨y, hy, rfl⟩ := List.mem_map.mp hp
    exact ⟨y, hy, of_decide_eq_true hpc⟩
  intro e he c hc e' he' c' hc' hkey
  obtain ⟨y, hy, hyc⟩ := hline e he c hc
  obtain ⟨y', hy', hyc'⟩ := hline e' he' c' hc'
  have hyy : y = y' := by
    apply eq_of_mem_representatives hy hy'
    rw [hname _ _ hyc, hkey, ← hname _ _ hyc']
  rw [← hyc, hyy, hyc']

/-- … and counts items only if no item has two labels of its name. -/
theorem CountsItems.namesApart (hname : ∀ c c', name c = name c' → key c = key c')
    (h : CountsItems labels items name
      (countBy (fun x => key x.2) (fun x => name x.2) (joinLabels labels items))) :
    NamesApart labels items name := by
  intro e he
  rw [List.nodup_iff_count_le_one]
  intro b
  by_cases hb : b ∈ (labels e).map name
  · obtain ⟨c, hc, rfl⟩ := List.mem_map.mp hb
    have hpos : 0 < _ := (h.once e he c hc).symm ▸ Nat.one_pos
    obtain ⟨p, hp, hpc⟩ := List.countP_pos_iff.mp hpos
    obtain ⟨y, hy, rfl⟩ := List.mem_map.mp hp
    have hyc : name y.2 = name c := of_decide_eq_true hpc
    have hcount := h.count _ hp
    simp only [countP_key_joinLabels hname (h.keySeparates hname) (mem_of_mem_representatives hy),
      hyc] at hcount
    rw [List.count, List.countP_map]
    exact (countP_joinLabels_eq_iff fun c' => decide (name c' = name c)).mp hcount e he
  · rw [List.count_eq_zero_of_not_mem hb]
    exact Nat.zero_le _

/-- **When a grouped join counts items.** -/
theorem countsItems_countBy_iff (hname : ∀ c c', name c = name c' → key c = key c') :
    CountsItems labels items name
        (countBy (fun x => key x.2) (fun x => name x.2) (joinLabels labels items)) ↔
      NamesApart labels items name ∧ KeySeparates labels items key name := by
  refine ⟨fun h => ⟨h.namesApart hname, h.keySeparates hname⟩, ?_⟩
  rintro ⟨hapart, hsep⟩
  refine ⟨?_, ?_⟩
  · intro p hp
    obtain ⟨x, hx, rfl⟩ := List.mem_map.mp hp
    simp only [countP_key_joinLabels hname hsep (mem_of_mem_representatives hx)]
    apply (countP_joinLabels_eq_iff fun c => decide (name c = name x.2)).mpr
    intro e he
    have hcount := List.nodup_iff_count_le_one.mp (hapart e he) (name x.2)
    rwa [List.count, List.countP_map] at hcount
  · intro e he c hc
    have hmem : (e, c) ∈ joinLabels labels items := mem_joinLabels.mpr ⟨he, hc⟩
    have hone : (representatives (fun x : α × γ => key x.2) (joinLabels labels items)).countP
        (fun x => decide (key x.2 = key c)) = 1 := countP_representatives hmem
    rw [← hone, countBy, List.countP_map]
    apply List.countP_congr
    intro x hx
    obtain ⟨hx₁, hx₂⟩ := mem_joinLabels.mp (mem_of_mem_representatives hx)
    simp only [Function.comp_apply, decide_eq_true_eq]
    exact ⟨hname _ _, hsep _ hx₁ _ hx₂ _ he _ hc⟩

/-- Lines that count items, told from the names: the names that occur, each once, with its count. -/
theorem CountsItems.exists_names {lines : List (β × Nat)} (h : CountsItems labels items name lines)
    (hlines : ∀ p ∈ lines, ∃ e ∈ items, ∃ c ∈ labels e, name c = p.1) :
    ∃ names : List β, names.Nodup ∧
      (∀ b, b ∈ names ↔ ∃ e ∈ items, ∃ c ∈ labels e, name c = b) ∧
      lines = names.map fun b =>
        (b, items.countP fun e => (labels e).any fun c => decide (name c = b)) := by
  have hcount : ∀ e ∈ items, ∀ c ∈ labels e, (lines.map Prod.fst).count (name c) = 1 := by
    intro e he c hc
    rw [List.count, List.countP_map, ← h.once e he c hc]
    apply List.countP_congr
    intro p _
    simp
  have hmem : ∀ b, b ∈ lines.map Prod.fst ↔ ∃ e ∈ items, ∃ c ∈ labels e, name c = b := by
    intro b
    constructor
    · intro hb
      obtain ⟨p, hp, rfl⟩ := List.mem_map.mp hb
      exact hlines p hp
    · rintro ⟨e, he, c, hc, rfl⟩
      apply List.count_pos_iff.mp
      rw [hcount e he c hc]
      exact Nat.one_pos
  refine ⟨lines.map Prod.fst, ?_, hmem, ?_⟩
  · rw [List.nodup_iff_count_le_one]
    intro b
    by_cases hb : b ∈ lines.map Prod.fst
    · obtain ⟨e, he, c, hc, rfl⟩ := (hmem b).mp hb
      exact Nat.le_of_eq (hcount e he c hc)
    · rw [List.count_eq_zero_of_not_mem hb]
      exact Nat.zero_le _
  · rw [List.map_map]
    conv_lhs => rw [← List.map_id lines]
    apply List.map_congr_left
    intro p hp
    exact Prod.ext rfl (h.count p hp)

omit [DecidableEq β] in
/-- The names of the lines are names of labels. -/
theorem exists_label_of_mem_countBy (key : γ → κ) {p : β × Nat}
    (hp : p ∈ countBy (fun x => key x.2) (fun x => name x.2) (joinLabels labels items)) :
    ∃ e ∈ items, ∃ c ∈ labels e, name c = p.1 := by
  obtain ⟨x, hx, rfl⟩ := List.mem_map.mp hp
  obtain ⟨hx₁, hx₂⟩ := mem_joinLabels.mp (mem_of_mem_representatives hx)
  exact ⟨x.1, hx₁, x.2, hx₂, rfl⟩

end Lines

end Lib
