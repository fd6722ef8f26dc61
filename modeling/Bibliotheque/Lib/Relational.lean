import Mathlib.Data.List.Nodup

/-! # Schemas and foreign keys

What a relational engine does with a schema and with the keys in its rows. A `Schema` carries what the
engine never lets go of: no two tables and no two constraints of one name, and foreign keys between
tables that exist. A statement is refused when it would break that.

* `down_up`: a script that creates tables and then adds foreign keys is undone by dropping the foreign
  keys and then the tables, each in the same order. Nothing has to be known of the schema it is applied
  to, nor of the order in which tables refer to each other, which may be circular.
* `delete` is `DELETE FROM t WHERE c = n` with what `ON DELETE` makes of it. `Satisfied.delete`: if it is
  carried out, the keys in the rows are as declared after it when they were before. -/

namespace Lib.Relational

inductive SqlType where
  | int
  | varchar (n : Nat)
  | datetime
  | tinyint
  | json
  deriving DecidableEq, Repr

structure Column (κ : Type) where
  name : κ
  type : SqlType
  nullable : Bool
  autoIncrement : Bool
  deriving DecidableEq, Repr

/-- `CREATE TABLE`; an index is its name and its column. -/
structure TableDef (τ κ : Type) where
  name : τ
  columns : List (Column κ)
  indexes : List (String × κ)
  uniques : List (String × κ)
  primaryKey : List κ
  deriving DecidableEq, Repr

inductive OnDelete where
  | restrict
  | cascade
  | setNull
  deriving DecidableEq, Repr

structure ForeignKey (τ κ : Type) where
  name : String
  table : τ
  column : κ
  references : τ
  target : κ
  onDelete : OnDelete
  deriving DecidableEq, Repr

variable {τ κ : Type}

structure Schema (τ κ : Type) where
  tables : List (TableDef τ κ)
  foreignKeys : List (ForeignKey τ κ)
  nodup : (tables.map TableDef.name).Nodup
  nodup_foreignKeys : (foreignKeys.map ForeignKey.name).Nodup
  resolved : ∀ f ∈ foreignKeys,
    f.table ∈ tables.map TableDef.name ∧ f.references ∈ tables.map TableDef.name

namespace Schema

/-- The names that are taken. -/
def names (s : Schema τ κ) : List τ := s.tables.map TableDef.name

def foreignNames (s : Schema τ κ) : List String := s.foreignKeys.map ForeignKey.name

def empty : Schema τ κ := ⟨[], [], List.nodup_nil, List.nodup_nil, by simp⟩

theorem ext_tables {s s' : Schema τ κ} (htables : s.tables = s'.tables)
    (hforeign : s.foreignKeys = s'.foreignKeys) : s = s' := by
  cases s
  cases s'
  cases htables
  cases hforeign
  rfl

/-- `s'` is `s` with more tables and more foreign keys. -/
structure Extends (s : Schema τ κ) (ts : List (TableDef τ κ)) (fs : List (ForeignKey τ κ))
    (s' : Schema τ κ) : Prop where
  tables : s'.tables = s.tables ++ ts
  foreignKeys : s'.foreignKeys = s.foreignKeys ++ fs

theorem Extends.trans {s s' s'' : Schema τ κ} {ts ts' : List (TableDef τ κ)}
    {fs fs' : List (ForeignKey τ κ)} (h : s.Extends ts fs s')
    (h' : s'.Extends ts' fs' s'') : s.Extends (ts ++ ts') (fs ++ fs') s'' where
  tables := by rw [h'.tables, h.tables, List.append_assoc]
  foreignKeys := by rw [h'.foreignKeys, h.foreignKeys, List.append_assoc]

end Schema

variable [DecidableEq τ] [DecidableEq κ]

/-- The keys of a table are columns of it, no name is used twice, and what is counted up is the primary
key. -/
def TableDef.valid (t : TableDef τ κ) : Bool :=
  decide (t.columns.map Column.name).Nodup &&
    decide ((t.indexes ++ t.uniques).map Prod.fst).Nodup &&
    (((t.indexes ++ t.uniques).map Prod.snd ++ t.primaryKey).all fun c =>
      decide (c ∈ t.columns.map Column.name)) &&
    t.columns.all fun c => !c.autoIncrement || decide (t.primaryKey.head? = some c.name)

/-- Both columns exist and have the same type, the target is found by its primary key, and what is to be
set to `NULL` may be `NULL`. -/
def ForeignKey.admitted (tables : List (TableDef τ κ)) (f : ForeignKey τ κ) : Bool :=
  tables.any fun t => decide (t.name = f.table) && t.columns.any fun c =>
    decide (c.name = f.column) && (c.nullable || decide (f.onDelete ≠ .setNull)) &&
      tables.any fun t' => decide (t'.name = f.references) &&
        decide (t'.primaryKey.head? = some f.target) && t'.columns.any fun c' =>
          decide (c'.name = f.target) && decide (c'.type = c.type)

theorem ForeignKey.table_of_admitted {tables : List (TableDef τ κ)} {f : ForeignKey τ κ}
    (h : f.admitted tables = true) :
    f.table ∈ tables.map TableDef.name ∧ f.references ∈ tables.map TableDef.name := by
  simp only [admitted, List.any_eq_true, Bool.and_eq_true, decide_eq_true_eq] at h
  obtain ⟨t, ht, hname, c, hc, ⟨hcol, hnull⟩, t', ht', ⟨hname', hkey⟩, hcol'⟩ := h
  exact ⟨List.mem_map.mpr ⟨t, ht, hname⟩, List.mem_map.mpr ⟨t', ht', hname'⟩⟩

/-- More tables do no harm. -/
theorem ForeignKey.admitted_append {tables : List (TableDef τ κ)} (more : List (TableDef τ κ))
    {f : ForeignKey τ κ} (h : f.admitted tables = true) : f.admitted (more ++ tables) = true := by
  simp only [admitted, List.any_eq_true, Bool.and_eq_true, decide_eq_true_eq] at h ⊢
  obtain ⟨t, ht, hname, c, hc, ⟨hcol, hnull⟩, t', ht', hrest⟩ := h
  exact ⟨t, List.mem_append_right more ht, hname, c, hc, ⟨hcol, hnull⟩, t',
    List.mem_append_right more ht', hrest⟩

/-! ## Statements -/

inductive Ddl (τ κ : Type) where
  | createTable (t : TableDef τ κ)
  | addForeignKey (f : ForeignKey τ κ)
  | dropForeignKey (table : τ) (name : String)
  | dropTable (name : τ)
  deriving DecidableEq, Repr

namespace Schema

def createTable (t : TableDef τ κ) (s : Schema τ κ) : Option (Schema τ κ) :=
  if h : t.valid = true ∧ t.name ∉ s.names then
    some
      { tables := s.tables ++ [t]
        foreignKeys := s.foreignKeys
        nodup := by
          rw [List.map_append]
          exact s.nodup.append (List.nodup_singleton _) (by simpa [names] using h.2)
        nodup_foreignKeys := s.nodup_foreignKeys
        resolved := fun f hf => by
          rw [List.map_append]
          exact ⟨List.mem_append_left _ (s.resolved f hf).1,
            List.mem_append_left _ (s.resolved f hf).2⟩ }
  else none

def addForeignKey (f : ForeignKey τ κ) (s : Schema τ κ) : Option (Schema τ κ) :=
  if h : f.admitted s.tables = true ∧ f.name ∉ s.foreignNames then
    some
      { tables := s.tables
        foreignKeys := s.foreignKeys ++ [f]
        nodup := s.nodup
        nodup_foreignKeys := by
          rw [List.map_append]
          exact s.nodup_foreignKeys.append (List.nodup_singleton _)
            (by simpa [foreignNames] using h.2)
        resolved := fun g hg => by
          rcases List.mem_append.mp hg with hg | hg
          · exact s.resolved g hg
          · rw [List.mem_singleton.mp hg]
            exact ForeignKey.table_of_admitted h.1 }
  else none

def dropForeignKey (table : τ) (name : String) (s : Schema τ κ) : Option (Schema τ κ) :=
  if s.foreignKeys.any (fun f => decide (f.table = table) && decide (f.name = name)) then
    some
      { tables := s.tables
        foreignKeys := s.foreignKeys.filter fun f => decide (f.name ≠ name)
        nodup := s.nodup
        nodup_foreignKeys := (List.filter_sublist.map _).nodup s.nodup_foreignKeys
        resolved := fun f hf => s.resolved f (List.mem_filter.mp hf).1 }
  else none

/-- A table to which another one refers is kept; its own foreign keys go with it. -/
def dropTable (name : τ) (s : Schema τ κ) : Option (Schema τ κ) :=
  if h : name ∈ s.names ∧ ∀ f ∈ s.foreignKeys, f.references = name → f.table = name then
    some
      { tables := s.tables.filter fun t => decide (t.name ≠ name)
        foreignKeys := s.foreignKeys.filter fun f => decide (f.table ≠ name)
        nodup := (List.filter_sublist.map _).nodup s.nodup
        nodup_foreignKeys := (List.filter_sublist.map _).nodup s.nodup_foreignKeys
        resolved := fun f hf => by
          obtain ⟨hf, htable⟩ := List.mem_filter.mp hf
          have htable : f.table ≠ name := of_decide_eq_true htable
          obtain ⟨⟨t, ht, hname⟩, t', ht', hname'⟩ :=
            (s.resolved f hf).imp List.mem_map.mp List.mem_map.mp
          have hreferences : f.references ≠ name := fun heq => htable (h.2 f hf heq)
          exact ⟨List.mem_map.mpr ⟨t, List.mem_filter.mpr ⟨ht, by simpa [hname] using htable⟩, hname⟩,
            List.mem_map.mpr
              ⟨t', List.mem_filter.mpr ⟨ht', by simpa [hname'] using hreferences⟩, hname'⟩⟩ }
  else none

def exec (s : Schema τ κ) : Ddl τ κ → Option (Schema τ κ)
  | .createTable t => s.createTable t
  | .addForeignKey f => s.addForeignKey f
  | .dropForeignKey table name => s.dropForeignKey table name
  | .dropTable name => s.dropTable name

/-- A script, up to the first statement that is refused. -/
def script : Schema τ κ → List (Ddl τ κ) → Option (Schema τ κ)
  | s, [] => some s
  | s, d :: ds => (s.exec d).bind fun s' => script s' ds

end Schema

/-! ## Up and down -/

/-- Tables first, then the foreign keys between them. -/
def up (ts : List (TableDef τ κ)) (fs : List (ForeignKey τ κ)) : List (Ddl τ κ) :=
  ts.map .createTable ++ fs.map .addForeignKey

def down (ts : List (TableDef τ κ)) (fs : List (ForeignKey τ κ)) : List (Ddl τ κ) :=
  fs.map (fun f => .dropForeignKey f.table f.name) ++ ts.map fun t => .dropTable t.name

namespace Schema

variable {s s' s'' : Schema τ κ} {t : TableDef τ κ} {f : ForeignKey τ κ}
  {ts : List (TableDef τ κ)} {fs : List (ForeignKey τ κ)}

theorem script_append (ds ds' : List (Ddl τ κ)) :
    s.script (ds ++ ds') = (s.script ds).bind fun s' => s'.script ds' := by
  induction ds generalizing s with
  | nil => rfl
  | cons d ds ih =>
      rw [List.cons_append, script, script, Option.bind_assoc]
      exact congrArg _ (funext fun s' => ih)

theorem createTable_eq_some : s.createTable t = some s' ↔
    (t.valid = true ∧ t.name ∉ s.names) ∧ s.Extends [t] [] s' := by
  unfold createTable
  split
  · next h =>
    rw [Option.some.injEq]
    constructor
    · rintro rfl
      exact ⟨h, rfl, (List.append_nil _).symm⟩
    · rintro ⟨-, h⟩
      exact ext_tables h.tables.symm (by simp [h.foreignKeys])
  · next h => exact ⟨nofun, fun h' => (h h'.1).elim⟩

theorem addForeignKey_eq_some : s.addForeignKey f = some s' ↔
    (f.admitted s.tables = true ∧ f.name ∉ s.foreignNames) ∧ s.Extends [] [f] s' := by
  unfold addForeignKey
  split
  · next h =>
    rw [Option.some.injEq]
    constructor
    · rintro rfl
      exact ⟨h, (List.append_nil _).symm, rfl⟩
    · rintro ⟨-, h⟩
      exact ext_tables (by simp [h.tables]) h.foreignKeys.symm
  · next h => exact ⟨nofun, fun h' => (h h'.1).elim⟩

/-- What a script adds that only creates. -/
theorem extends_creates (h : s.script (ts.map .createTable) = some s') : s.Extends ts [] s' := by
  induction ts generalizing s with
  | nil =>
      cases h
      exact ⟨(List.append_nil _).symm, (List.append_nil _).symm⟩
  | cons t ts ih =>
      obtain ⟨s₁, hfirst, hrest⟩ := Option.bind_eq_some_iff.mp h
      exact (createTable_eq_some.mp hfirst).2.trans (ih hrest)

theorem extends_adds (h : s.script (fs.map .addForeignKey) = some s') : s.Extends [] fs s' := by
  induction fs generalizing s with
  | nil =>
      cases h
      exact ⟨(List.append_nil _).symm, (List.append_nil _).symm⟩
  | cons f fs ih =>
      obtain ⟨s₁, hfirst, hrest⟩ := Option.bind_eq_some_iff.mp h
      exact (addForeignKey_eq_some.mp hfirst).2.trans (ih hrest)

/-- It is carried out if the names are new. -/
theorem script_creates (hvalid : ∀ t ∈ ts, t.valid = true) (hnodup : (ts.map TableDef.name).Nodup)
    (hnew : ∀ t ∈ ts, t.name ∉ s.names) :
    ∃ s', s.script (ts.map .createTable) = some s' ∧ s.Extends ts [] s' := by
  suffices h : (s.script (ts.map .createTable)).isSome = true by
    obtain ⟨s', hs'⟩ := Option.isSome_iff_exists.mp h
    exact ⟨s', hs', extends_creates hs'⟩
  induction ts generalizing s with
  | nil => rfl
  | cons t ts ih =>
      rw [List.map_cons, List.nodup_cons] at hnodup
      have hfirst : t.valid = true ∧ t.name ∉ s.names :=
        ⟨hvalid t List.mem_cons_self, hnew t List.mem_cons_self⟩
      rw [List.map_cons, script, exec, createTable, dif_pos hfirst, Option.bind_some]
      refine ih (fun x hx => hvalid x (List.mem_cons_of_mem t hx)) hnodup.2 fun x hx hmem => ?_
      rw [names, List.map_append, List.mem_append] at hmem
      rcases hmem with hmem | hmem
      · exact hnew x (List.mem_cons_of_mem t hx) hmem
      · exact hnodup.1 (List.mem_singleton.mp hmem ▸ List.mem_map_of_mem hx)

theorem script_adds (hadmitted : ∀ f ∈ fs, f.admitted s.tables = true)
    (hnodup : (fs.map ForeignKey.name).Nodup) (hnew : ∀ f ∈ fs, f.name ∉ s.foreignNames) :
    ∃ s', s.script (fs.map .addForeignKey) = some s' ∧ s.Extends [] fs s' := by
  suffices h : (s.script (fs.map .addForeignKey)).isSome = true by
    obtain ⟨s', hs'⟩ := Option.isSome_iff_exists.mp h
    exact ⟨s', hs', extends_adds hs'⟩
  induction fs generalizing s with
  | nil => rfl
  | cons f fs ih =>
      rw [List.map_cons, List.nodup_cons] at hnodup
      have hfirst : f.admitted s.tables = true ∧ f.name ∉ s.foreignNames :=
        ⟨hadmitted f List.mem_cons_self, hnew f List.mem_cons_self⟩
      rw [List.map_cons, script, exec, addForeignKey, dif_pos hfirst, Option.bind_some]
      refine ih (fun x hx => hadmitted x (List.mem_cons_of_mem f hx)) hnodup.2 fun x hx hmem => ?_
      rw [foreignNames, List.map_append, List.mem_append] at hmem
      rcases hmem with hmem | hmem
      · exact hnew x (List.mem_cons_of_mem f hx) hmem
      · exact hnodup.1 (List.mem_singleton.mp hmem ▸ List.mem_map_of_mem hx)

theorem extends_up (h : s.script (up ts fs) = some s') : s.Extends ts fs s' := by
  rw [up, script_append] at h
  obtain ⟨s₁, hcreates, hadds⟩ := Option.bind_eq_some_iff.mp h
  have hext := (extends_creates hcreates).trans (extends_adds hadds)
  rwa [List.append_nil, List.nil_append] at hext

/-- A name that occurs once is filtered out where it is. -/
theorem filter_name {α β : Type} [DecidableEq β] (name : α → β) {l l' : List α} {a : α}
    (h : ((l ++ a :: l').map name).Nodup) :
    (l ++ a :: l').filter (fun x => decide (name x ≠ name a)) = l ++ l' := by
  have hkeep : ∀ x ∈ l ++ l', name x ≠ name a := by
    intro x hx heq
    have hcycle := (List.perm_middle.map name).nodup_iff.mp h
    rw [List.map_cons, List.nodup_cons] at hcycle
    exact hcycle.1 (heq ▸ List.mem_map_of_mem hx)
  rw [List.filter_append, List.filter_cons_of_neg (by simp), ← List.filter_append]
  exact List.filter_eq_self.mpr fun x hx => decide_eq_true (hkeep x hx)

omit [DecidableEq κ] in
theorem Extends.dropForeignKey (h : s.Extends ts (f :: fs) s') :
    ∃ s'', s'.dropForeignKey f.table f.name = some s'' ∧ s.Extends ts fs s'' := by
  have hmem : f ∈ s'.foreignKeys := by
    rw [h.foreignKeys]
    exact List.mem_append_right _ List.mem_cons_self
  refine ⟨_, if_pos (List.any_eq_true.mpr ⟨f, hmem, by simp⟩), h.tables, ?_⟩
  have hnodup := s'.nodup_foreignKeys
  simp only [h.foreignKeys] at hnodup ⊢
  exact filter_name ForeignKey.name hnodup

omit [DecidableEq κ] in
/-- Nothing of `s` refers to a table that came later. -/
theorem Extends.dropTable (h : s.Extends (t :: ts) [] s') :
    ∃ s'', s'.dropTable t.name = some s'' ∧ s.Extends ts [] s'' := by
  have hforeign : s'.foreignKeys = s.foreignKeys := by rw [h.foreignKeys, List.append_nil]
  have hnodup := s'.nodup
  rw [h.tables] at hnodup
  have hnew : t.name ∉ s.tables.map TableDef.name := by
    rw [List.map_append, List.map_cons, List.nodup_append] at hnodup
    exact fun hmem => hnodup.2.2 _ hmem _ List.mem_cons_self rfl
  have hmem : t.name ∈ s'.names := by
    rw [names, h.tables, List.map_append]
    exact List.mem_append_right _ List.mem_cons_self
  have hfree : ∀ f ∈ s'.foreignKeys, f.references = t.name → f.table = t.name := by
    intro f hf heq
    rw [hforeign] at hf
    exact (hnew (heq ▸ (s.resolved f hf).2)).elim
  refine ⟨_, dif_pos ⟨hmem, hfree⟩, ?_, ?_⟩
  · simp only [h.tables]
    exact filter_name TableDef.name hnodup
  · simp only [hforeign, List.append_nil]
    refine List.filter_eq_self.mpr fun f hf => decide_eq_true fun heq => ?_
    exact hnew (heq ▸ (s.resolved f hf).1)

theorem Extends.down (h : s.Extends ts fs s') : s'.script (down ts fs) = some s := by
  induction fs generalizing s' with
  | cons f fs ih =>
      obtain ⟨s₁, hdrop, hext⟩ := h.dropForeignKey
      exact Option.bind_eq_some_iff.mpr ⟨s₁, hdrop, ih hext⟩
  | nil =>
      induction ts generalizing s' with
      | nil =>
          refine congrArg some (ext_tables ?_ ?_)
          · rw [h.tables, List.append_nil]
          · rw [h.foreignKeys, List.append_nil]
      | cons t ts ih =>
          obtain ⟨s₁, hdrop, hext⟩ := h.dropTable
          exact Option.bind_eq_some_iff.mpr ⟨s₁, hdrop, ih hext⟩

/-- A script of this form is carried out exactly where none of its names is taken. -/
theorem up_isSome_iff (hvalid : ∀ t ∈ ts, t.valid = true) (hnodup : (ts.map TableDef.name).Nodup)
    (hadmitted : ∀ f ∈ fs, f.admitted ts = true) (hnodup' : (fs.map ForeignKey.name).Nodup) :
    (s.script (up ts fs)).isSome = true ↔
      (∀ t ∈ ts, t.name ∉ s.names) ∧ ∀ f ∈ fs, f.name ∉ s.foreignNames := by
  constructor
  · intro h
    obtain ⟨s', hs'⟩ := Option.isSome_iff_exists.mp h
    have hext := extends_up hs'
    have hnames := s'.nodup
    have hforeign := s'.nodup_foreignKeys
    rw [hext.tables, List.map_append, List.nodup_append] at hnames
    rw [hext.foreignKeys, List.map_append, List.nodup_append] at hforeign
    exact ⟨fun t ht hmem => hnames.2.2 _ hmem _ (List.mem_map_of_mem ht) rfl,
      fun f hf hmem => hforeign.2.2 _ hmem _ (List.mem_map_of_mem hf) rfl⟩
  · rintro ⟨htables, hforeign⟩
    obtain ⟨s₁, hcreates, hext⟩ := script_creates hvalid hnodup htables
    have hadmitted' : ∀ f ∈ fs, f.admitted s₁.tables = true := by
      intro f hf
      rw [hext.tables]
      exact ForeignKey.admitted_append s.tables (hadmitted f hf)
    have hforeign' : ∀ f ∈ fs, f.name ∉ s₁.foreignNames := by
      intro f hf
      rw [foreignNames, hext.foreignKeys, List.append_nil]
      exact hforeign f hf
    obtain ⟨s₂, hadds, -⟩ := script_adds hadmitted' hnodup' hforeign'
    rw [up, script_append, hcreates, Option.bind_some, hadds]
    rfl

/-- **What is set up is taken down.** -/
theorem down_up (h : s.script (up ts fs) = some s') : s'.script (down ts fs) = some s :=
  (extends_up h).down

end Schema

/-! ## Keys in rows -/

/-- The integers of a row, by column. -/
abbrev Rec (κ : Type) := κ → Option Nat

abbrev Instance (τ κ : Type) := τ → List (Rec κ)

namespace Schema

omit [DecidableEq τ] [DecidableEq κ] in
/-- The rows keep what the schema declares of their keys. -/
structure Satisfied (s : Schema τ κ) (i : Instance τ κ) : Prop where
  primary : ∀ t ∈ s.tables, ((i t.name).map fun r => t.primaryKey.map r).Nodup
  notNull : ∀ t ∈ s.tables, ∀ c ∈ t.columns, c.type = .int → c.nullable = false →
    ∀ r ∈ i t.name, r c.name ≠ none
  foreign : ∀ f ∈ s.foreignKeys, ∀ r ∈ i f.table, ∀ n, r f.column = some n →
    ∃ r' ∈ i f.references, r' f.target = some n

omit [DecidableEq τ] [DecidableEq κ] in
/-- Nothing refers to the rows that a cascade deletes, and a column that is set to `NULL` is no key and
may be `NULL`. -/
structure Shallow (s : Schema τ κ) : Prop where
  cascade : ∀ f ∈ s.foreignKeys, f.onDelete = .cascade → ∀ g ∈ s.foreignKeys, g.references ≠ f.table
  setNull : ∀ f ∈ s.foreignKeys, f.onDelete = .setNull →
    (∀ g ∈ s.foreignKeys, g.references = f.table → g.target ≠ f.column) ∧
      ∀ u ∈ s.tables, u.name = f.table → f.column ∉ u.primaryKey ∧
        ∀ x ∈ u.columns, x.name = f.column → x.nullable = true

variable (s : Schema τ κ) (i : Instance τ κ) (t : τ) (c : κ) (n : Nat)

/-- The row refers to one that is deleted. -/
def refersTo (f : ForeignKey τ κ) (r : Rec κ) : Bool :=
  decide (f.references = t) && (i t).any fun d =>
    decide (d c = some n) && (r f.column).isSome && decide (r f.column = d f.target)

/-- A restricting reference is left. -/
def blocks : Bool :=
  s.foreignKeys.any fun f =>
    decide (f.onDelete = .restrict) && (i f.table).any (refersTo i t c n f)

/-- The row `r` of `u` is deleted, or goes with what is. -/
def removes (u : τ) (r : Rec κ) : Bool :=
  (decide (u = t) && decide (r c = some n)) || s.foreignKeys.any fun f =>
    decide (f.onDelete = .cascade) && decide (f.table = u) && refersTo i t c n f r

/-- The row `r` of `u` loses the reference in `x`. -/
def unsets (u : τ) (r : Rec κ) (x : κ) : Bool :=
  s.foreignKeys.any fun f =>
    decide (f.onDelete = .setNull) && decide (f.table = u) && decide (f.column = x) &&
      refersTo i t c n f r

/-- What becomes of a row that is kept. -/
def kept (u : τ) (r : Rec κ) : Rec κ := fun x => if s.unsets i t c n u r x then none else r x

/-- `DELETE FROM t WHERE c = n`. One step of a cascade is all there is if the schema is `Shallow`. -/
def delete : Option (Instance τ κ) :=
  if s.blocks i t c n then none
  else some fun u => ((i u).filter fun r => !s.removes i t c n u r).map (s.kept i t c n u)

/-- `DELETE FROM t WHERE c = n` for each pair, in one transaction. -/
def deletes : Instance τ κ → List (τ × Nat) → Option (Instance τ κ)
  | i, [] => some i
  | i, o :: os => (s.delete i o.1 c o.2).bind fun i' => deletes i' os

theorem deletes_append (os os' : List (τ × Nat)) :
    s.deletes c i (os ++ os') = (s.deletes c i os).bind fun i' => s.deletes c i' os' := by
  induction os generalizing i with
  | nil => rfl
  | cons o os ih =>
      rw [List.cons_append, deletes, deletes, Option.bind_assoc]
      exact congrArg _ (funext fun i' => ih i')

variable {i t c n}

omit [DecidableEq κ] in
/-- A row refers to the deleted row if it has its key. -/
theorem refersTo_eq {f : ForeignKey τ κ} (hpresent : ∃ d ∈ i t, d c = some n)
    (htarget : f.references = t → f.target = c) :
    refersTo i t c n f = fun r => decide (f.references = t) && decide (r f.column = some n) := by
  funext r
  rw [Bool.eq_iff_iff, refersTo]
  simp only [Bool.and_eq_true, List.any_eq_true, decide_eq_true_eq]
  constructor
  · rintro ⟨href, d, hd, ⟨hdn, hsome⟩, hr⟩
    rw [htarget href, hdn] at hr
    exact ⟨href, hr⟩
  · rintro ⟨href, hr⟩
    obtain ⟨d, hd, hdn⟩ := hpresent
    exact ⟨href, d, hd, ⟨hdn, by rw [hr]; rfl⟩, by rw [hr, htarget href, hdn]⟩

/-! ## What a deletion leaves -/

variable {s} {u : τ} {r : Rec κ}

omit [DecidableEq κ] in
theorem removes_iff : s.removes i t c n u r = true ↔
    (u = t ∧ r c = some n) ∨
      ∃ f ∈ s.foreignKeys, f.onDelete = .cascade ∧ f.table = u ∧ refersTo i t c n f r = true := by
  simp only [removes, Bool.or_eq_true, Bool.and_eq_true, decide_eq_true_eq, List.any_eq_true,
    and_assoc]

theorem unsets_iff {x : κ} : s.unsets i t c n u r x = true ↔
    ∃ f ∈ s.foreignKeys, f.onDelete = .setNull ∧ f.table = u ∧ f.column = x ∧
      refersTo i t c n f r = true := by
  simp only [unsets, List.any_eq_true, Bool.and_eq_true, decide_eq_true_eq, and_assoc]

theorem unsets_eq_false {x : κ}
    (h : ∀ f ∈ s.foreignKeys, f.onDelete = .setNull → f.table = u → f.column ≠ x) :
    s.unsets i t c n u r x = false := by
  rw [Bool.eq_false_iff]
  intro hset
  obtain ⟨f, hf, hnull, htable, hcol, -⟩ := unsets_iff.mp hset
  exact h f hf hnull htable hcol

theorem kept_of_some {x : κ} {m : Nat} (h : s.kept i t c n u r x = some m) :
    s.unsets i t c n u r x = false ∧ r x = some m := by
  unfold kept at h
  split at h
  · cases h
  · next hkept => exact ⟨Bool.eq_false_iff.mpr hkept, h⟩

theorem kept_eq {x : κ} (h : s.unsets i t c n u r x = false) :
    s.kept i t c n u r x = r x := by
  rw [kept, h]
  rfl

theorem delete_eq_some {i' : Instance τ κ} : s.delete i t c n = some i' ↔
    s.blocks i t c n = false ∧
      i' = fun u => ((i u).filter fun r => !s.removes i t c n u r).map (s.kept i t c n u) := by
  unfold delete
  split
  · next hblocks => simp [hblocks]
  · next hfree =>
    rw [Option.some.injEq, eq_comm]
    exact ⟨fun h => ⟨Bool.eq_false_iff.mpr hfree, h⟩, fun h => h.2⟩

/-- The row that a row refers to stays if the row does, or the reference goes. -/
theorem not_removes_target (hshallow : s.Shallow) (hfree : s.blocks i t c n = false)
    {f : ForeignKey τ κ} (hf : f ∈ s.foreignKeys) {d : Rec κ} {m : Nat} (hr : r ∈ i f.table)
    (hkept : s.removes i t c n f.table r = false) (hd : d ∈ i f.references)
    (hset : s.unsets i t c n f.table r f.column = false) (hcol : r f.column = some m)
    (htarget : d f.target = some m) : s.removes i t c n f.references d = false := by
  rw [Bool.eq_false_iff]
  intro hremoved
  rcases removes_iff.mp hremoved with ⟨href, hdn⟩ | ⟨g, hg, hcascade, htable, -⟩
  · -- the row that is named in the statement: what `ON DELETE` says of the reference to it
    have hrefers : refersTo i t c n f r = true := by
      rw [refersTo, Bool.and_eq_true, List.any_eq_true, decide_eq_true_eq]
      exact ⟨href, d, href ▸ hd, by simp [hdn, hcol, htarget]⟩
    cases haction : f.onDelete with
    | restrict =>
        refine Bool.eq_false_iff.mp hfree (List.any_eq_true.mpr ⟨f, hf, ?_⟩)
        rw [haction, Bool.and_eq_true]
        exact ⟨rfl, List.any_eq_true.mpr ⟨r, hr, hrefers⟩⟩
    | cascade =>
        exact Bool.eq_false_iff.mp hkept (removes_iff.mpr (Or.inr ⟨f, hf, haction, rfl, hrefers⟩))
    | setNull =>
        exact Bool.eq_false_iff.mp hset (unsets_iff.mpr ⟨f, hf, haction, rfl, rfl, hrefers⟩)
  · -- a row that goes with it: nothing refers to those
    exact hshallow.cascade g hg hcascade f hf htable.symm

/-- **A deletion that is carried out leaves the constraints satisfied**, so that after one step of a
cascade there is nothing more to do. -/
theorem Satisfied.delete (hshallow : s.Shallow) (h : s.Satisfied i) {i' : Instance τ κ}
    (hdelete : s.delete i t c n = some i') : s.Satisfied i' := by
  obtain ⟨hfree, rfl⟩ := delete_eq_some.mp hdelete
  refine ⟨?_, ?_, ?_⟩
  · intro u hu
    have hkey : ∀ r, u.primaryKey.map (s.kept i t c n u.name r) = u.primaryKey.map r := by
      refine fun r => List.map_congr_left fun x hx => kept_eq (unsets_eq_false ?_)
      intro f hf hnull htable hcol
      exact ((hshallow.setNull f hf hnull).2 u hu htable.symm).1 (hcol ▸ hx)
    rw [List.map_map]
    simp only [Function.comp_def, hkey]
    exact (List.filter_sublist.map _).nodup (h.primary u hu)
  · intro u hu x hx htype hnotnull r' hr' hnone
    obtain ⟨r, hr, rfl⟩ := List.mem_map.mp hr'
    have hset : s.unsets i t c n u.name r x.name = false := by
      refine unsets_eq_false fun f hf hnull htable hcol => ?_
      have hnullable := ((hshallow.setNull f hf hnull).2 u hu htable.symm).2 x hx hcol.symm
      rw [hnotnull] at hnullable
      cases hnullable
    rw [kept_eq hset] at hnone
    exact h.notNull u hu x hx htype hnotnull r (List.mem_filter.mp hr).1 hnone
  · intro f hf r' hr' m hm
    obtain ⟨r, hr, rfl⟩ := List.mem_map.mp hr'
    obtain ⟨hr, hkept⟩ := List.mem_filter.mp hr
    obtain ⟨hset, hcol⟩ := kept_of_some hm
    obtain ⟨d, hd, htarget⟩ := h.foreign f hf r hr m hcol
    have hstays := not_removes_target hshallow hfree hf hr ((Bool.not_eq_true' _).mp hkept) hd hset
      hcol htarget
    have hkey : s.kept i t c n f.references d f.target = d f.target := by
      refine kept_eq (unsets_eq_false fun g hg hnull htable hcolumn => ?_)
      exact (hshallow.setNull g hg hnull).1 f hf htable.symm hcolumn.symm
    exact ⟨s.kept i t c n f.references d,
      List.mem_map_of_mem (List.mem_filter.mpr ⟨hd, (Bool.not_eq_true' _).mpr hstays⟩),
      hkey.trans htarget⟩

theorem Satisfied.deletes (hshallow : s.Shallow) (h : s.Satisfied i) {i' : Instance τ κ}
    {os : List (τ × Nat)} (hdeletes : s.deletes c i os = some i') : s.Satisfied i' := by
  induction os generalizing i with
  | nil =>
      cases hdeletes
      exact h
  | cons o os ih =>
      obtain ⟨i₁, hfirst, hrest⟩ := Option.bind_eq_some_iff.mp hdeletes
      exact ih (h.delete hshallow hfirst) hrest

end Schema

end Lib.Relational
