import Bibliotheque.Migration
import Bibliotheque.Systeme.References

/-! # The constraints of the migration

The operations were modelled with what the engine does to references written into each of them. Here
the engine has its own level: the schema is what the migration makes of an empty one, the tables are the
keys in their rows, and a deletion is `DELETE` under the foreign keys of that schema.

* `references_iff`: the primary keys, the `NOT NULL` of the keys and the foreign keys of the schema
  together are exactly `References`.
* `suppression_conforme`: what a deletion in the back office makes of the tables is what the engine makes
  of the statements Doctrine sends.
* `contraintes_run`: both hold in every state of every run. -/

namespace Bibliotheque

open Lib Table Relational

/-! ## The tables as the engine sees them -/

theorem isSome_script_up :
    ((Schema.empty : Schema String String).script Version20260311191308.up).isSome = true := by
  decide

/-- What the migration makes of an empty database. -/
def schema : Schema String String :=
  ((Schema.empty : Schema String String).script Version20260311191308.up).get isSome_script_up

theorem schema_extends :
    Schema.empty.Extends Version20260311191308.tables Version20260311191308.foreignKeys schema :=
  Schema.extends_up (Option.some_get isSome_script_up).symm

theorem schema_tables : schema.tables = Version20260311191308.tables := schema_extends.tables

theorem schema_foreignKeys : schema.foreignKeys = Version20260311191308.foreignKeys :=
  schema_extends.foreignKeys

/-- The keys of a row that has no other integers. -/
def cleSeule (id : Nat) : Rec String
  | "id" => some id
  | _ => none

def Livre.cles (l : Livre) : Rec String
  | "id" => some l.id
  | "emprunt_id" => l.emprunt
  | _ => none

def Emprunt.cles (e : Emprunt) : Rec String
  | "id" => some e.id
  | "utilisateur_id" => some e.utilisateur
  | "livre_id" => some e.livre
  | _ => none

def Reservations.cles (r : Reservations) : Rec String
  | "id" => some r.id
  | "utilisateur_id" => some r.utilisateur
  | "livre_id" => some r.livre
  | _ => none

def clesLivreAuteur (p : Nat × Nat) : Rec String
  | "livre_id" => some p.1
  | "auteur_id" => some p.2
  | _ => none

def clesLivreCategorie (p : Nat × Nat) : Rec String
  | "livre_id" => some p.1
  | "categorie_id" => some p.2
  | _ => none

/-- The keys in the tables. -/
def Db.cles (db : Db) : Instance String String
  | "auteur" => db.auteurs.rows.map fun a => cleSeule a.id
  | "categorie" => db.categories.rows.map fun c => cleSeule c.id
  | "emprunt" => db.emprunts.rows.map Emprunt.cles
  | "livre" => db.livres.rows.map Livre.cles
  | "livre_auteur" => db.livreAuteur.map clesLivreAuteur
  | "livre_categorie" => db.livreCategorie.map clesLivreCategorie
  | "reservations" => db.reservations.rows.map Reservations.cles
  | "utilisateur" => db.utilisateurs.rows.map fun u => cleSeule u.id
  | _ => []

/-! ## Constraints and references -/

section Cles

variable {α β : Type} [Row α] {t : Table α} {f : α → Rec String}

theorem exists_cle (hf : ∀ r, f r "id" = some (Row.id r)) {n : Nat} :
    (∃ r ∈ t.rows.map f, r "id" = some n) ↔ n ∈ t.keys := by
  simp [hf, mem_keys]

theorem exists_cle_of_find? (hf : ∀ r, f r "id" = some (Row.id r)) {n : Nat} {r : α}
    (h : t.find? n = some r) : ∃ d ∈ t.rows.map f, d "id" = some (Row.id r) :=
  (exists_cle hf).mpr (id_mem_keys (t.find?_eq_some.mp h).1)

/-- The primary key of a table that numbers its rows. -/
theorem nodup_cle (hf : ∀ r, f r "id" = some (Row.id r)) :
    ((t.rows.map f).map fun r => ["id"].map r).Nodup := by
  have heq : ((t.rows.map f).map fun r => ["id"].map r) =
      (t.rows.map Row.id).map fun n => [some n] := by
    simp [hf]
  rw [heq]
  exact t.nodup.map fun n m h => by simpa using h

/-- The primary key of a join table. -/
theorem nodup_paire {pairs : List (Nat × Nat)} {g : Nat × Nat → Rec String} {c c' : String}
    (hg : ∀ p, g p c = some p.1) (hg' : ∀ p, g p c' = some p.2) :
    ((pairs.map g).map fun r => [c, c'].map r).Nodup ↔ pairs.Nodup := by
  rw [List.map_map]
  refine List.nodup_map_iff fun p q h => ?_
  simp only [Function.comp_apply, List.map_cons, List.map_nil, hg, hg', List.cons.injEq,
    Option.some.injEq, and_true] at h
  exact Prod.ext h.1 h.2

/-- Columns that every row of the table fills. -/
theorem ne_none {xs : List β} {g : β → Rec String} (cs : List String)
    (h : ∀ c ∈ cs, ∀ x, (g x c).isSome = true) : ∀ c ∈ cs, ∀ r ∈ xs.map g, r c ≠ none := by
  intro c hc r hr
  obtain ⟨x, -, rfl⟩ := List.mem_map.mp hr
  exact Option.isSome_iff_ne_none.mp (h c hc x)

/-- A foreign key that is not `NULL`. -/
theorem foreign_iff {xs : List β} {g : β → Rec String} {c : String} {ref : β → Nat}
    (hg : ∀ x, g x c = some (ref x)) (hf : ∀ r, f r "id" = some (Row.id r)) :
    (∀ r ∈ xs.map g, ∀ n, r c = some n → ∃ r' ∈ t.rows.map f, r' "id" = some n) ↔
      Refers xs ref t := by
  simp only [exists_cle hf, List.forall_mem_map, hg, Option.some.injEq, forall_eq']
  rfl

end Cles

/-- The primary keys: only the join tables have one that is not counted up. -/
theorem primary_iff {db : Db} :
    (∀ t ∈ schema.tables, ((db.cles t.name).map fun r => t.primaryKey.map r).Nodup) ↔
      db.livreAuteur.Nodup ∧ db.livreCategorie.Nodup := by
  rw [schema_tables]
  simp only [Version20260311191308.tables, List.forall_mem_cons, List.not_mem_nil, false_imp_iff,
    implies_true, and_true]
  constructor
  · rintro ⟨-, -, -, -, hauteur, hcategorie, -, -⟩
    exact ⟨(nodup_paire (fun _ => rfl) fun _ => rfl).mp hauteur,
      (nodup_paire (fun _ => rfl) fun _ => rfl).mp hcategorie⟩
  · rintro ⟨hauteur, hcategorie⟩
    exact ⟨nodup_cle fun _ => rfl, nodup_cle fun _ => rfl, nodup_cle fun _ => rfl,
      nodup_cle fun _ => rfl, (nodup_paire (fun _ => rfl) fun _ => rfl).mpr hauteur,
      (nodup_paire (fun _ => rfl) fun _ => rfl).mpr hcategorie, nodup_cle fun _ => rfl,
      nodup_cle fun _ => rfl⟩

/-- The integers that are `NOT NULL`. -/
def entiers (t : TableDef String String) : List String :=
  (t.columns.filter fun c => decide (c.type = .int) && !c.nullable).map Column.name

theorem cles_ne_none {db : Db} : ∀ t ∈ schema.tables, ∀ c ∈ t.columns, c.type = .int →
    c.nullable = false → ∀ r ∈ db.cles t.name, r c.name ≠ none := by
  have h : ∀ t ∈ Version20260311191308.tables, ∀ c ∈ entiers t, ∀ r ∈ db.cles t.name,
      r c ≠ none := by
    simp only [Version20260311191308.tables, List.forall_mem_cons, List.not_mem_nil, false_imp_iff,
      implies_true, and_true]
    exact ⟨ne_none ["id"] (by simp [cleSeule]), ne_none ["id"] (by simp [cleSeule]),
      ne_none ["id", "utilisateur_id", "livre_id"] (by simp [Emprunt.cles]),
      ne_none ["id"] (by simp [Livre.cles]),
      ne_none ["livre_id", "auteur_id"] (by simp [clesLivreAuteur]),
      ne_none ["livre_id", "categorie_id"] (by simp [clesLivreCategorie]),
      ne_none ["id", "utilisateur_id", "livre_id"] (by simp [Reservations.cles]),
      ne_none ["id"] (by simp [cleSeule])⟩
  intro t ht c hc htype hnull
  rw [schema_tables] at ht
  refine h t ht c.name (List.mem_map_of_mem (List.mem_filter.mpr ⟨hc, ?_⟩))
  rw [htype, hnull]
  rfl

theorem foreign_cles_iff {db : Db} :
    (∀ f ∈ schema.foreignKeys, ∀ r ∈ db.cles f.table, ∀ n, r f.column = some n →
      ∃ r' ∈ db.cles f.references, r' f.target = some n) ↔
    Refers db.emprunts.rows Emprunt.utilisateur db.utilisateurs ∧
      Refers db.emprunts.rows Emprunt.livre db.livres ∧
      (∀ b ∈ db.livres.rows, ∀ i, b.emprunt = some i → i ∈ db.emprunts.keys) ∧
      Refers db.livreAuteur Prod.fst db.livres ∧ Refers db.livreAuteur Prod.snd db.auteurs ∧
      Refers db.livreCategorie Prod.fst db.livres ∧
      Refers db.livreCategorie Prod.snd db.categories ∧
      Refers db.reservations.rows Reservations.utilisateur db.utilisateurs ∧
      Refers db.reservations.rows Reservations.livre db.livres := by
  have hpointeur : (∀ r ∈ db.livres.rows.map Livre.cles, ∀ n, r "emprunt_id" = some n →
      ∃ r' ∈ db.emprunts.rows.map Emprunt.cles, r' "id" = some n) ↔
        ∀ b ∈ db.livres.rows, ∀ i, b.emprunt = some i → i ∈ db.emprunts.keys := by
    constructor
    · intro h b hb i hi
      exact (exists_cle fun _ => rfl).mp (h _ (List.mem_map_of_mem hb) i hi)
    · intro h r hr n hn
      obtain ⟨b, hb, rfl⟩ := List.mem_map.mp hr
      exact (exists_cle fun _ => rfl).mpr (h b hb n hn)
  rw [schema_foreignKeys]
  simp only [Version20260311191308.foreignKeys, List.forall_mem_cons, List.not_mem_nil,
    false_imp_iff, implies_true, and_true, Db.cles]
  exact and_congr (foreign_iff (fun _ => rfl) fun _ => rfl) <|
    and_congr (foreign_iff (fun _ => rfl) fun _ => rfl) <| and_congr hpointeur <|
    and_congr (foreign_iff (fun _ => rfl) fun _ => rfl) <|
    and_congr (foreign_iff (fun _ => rfl) fun _ => rfl) <|
    and_congr (foreign_iff (fun _ => rfl) fun _ => rfl) <|
    and_congr (foreign_iff (fun _ => rfl) fun _ => rfl) <|
    and_congr (foreign_iff (fun _ => rfl) fun _ => rfl) (foreign_iff (fun _ => rfl) fun _ => rfl)

/-- **The references that are kept are the constraints of the migration.** -/
theorem references_iff {db : Db} : References db ↔ schema.Satisfied db.cles := by
  constructor
  · intro h
    exact ⟨primary_iff.mpr ⟨h.livreAuteur.nodup, h.livreCategorie.nodup⟩, cles_ne_none,
      foreign_cles_iff.mpr ⟨h.empruntMembre, h.empruntLivre, h.pointeur, h.livreAuteur.livre,
        h.livreAuteur.autre, h.livreCategorie.livre, h.livreCategorie.autre, h.reservationMembre,
        h.reservationLivre⟩⟩
  · rintro ⟨hprimary, -, hforeign⟩
    obtain ⟨hauteur, hcategorie⟩ := primary_iff.mp hprimary
    obtain ⟨hmembre, hlivre, hpointeur, hauteur₁, hauteur₂, hcategorie₁, hcategorie₂, hmembre',
      hlivre'⟩ := foreign_cles_iff.mp hforeign
    exact ⟨hmembre, hlivre, hmembre', hlivre', hpointeur, ⟨hauteur₁, hauteur₂, hauteur⟩,
      ⟨hcategorie₁, hcategorie₂, hcategorie⟩⟩

/-! ## What the engine deletes -/

/-- A loan or a reservation refers to the row `n` of `t`. -/
def Db.retient (t : String) (n : Nat) (db : Db) : Bool :=
  (db.emprunts.rows.any fun e => decide ("utilisateur" = t) && decide (e.utilisateur = n)) ||
    (db.emprunts.rows.any fun e => decide ("livre" = t) && decide (e.livre = n)) ||
    (db.reservations.rows.any fun r => decide ("utilisateur" = t) && decide (r.utilisateur = n)) ||
    (db.reservations.rows.any fun r => decide ("livre" = t) && decide (r.livre = n))

/-- The rows `ns` of `t` go, the join rows with them and the pointers to them. -/
def Db.sans (t : String) (ns : List Nat) (db : Db) : Db where
  livres := (db.livres.delete fun l => decide ("livre" = t) && decide (l.id ∈ ns)).modify
    (fun l =>
      if "emprunt" = t ∧ ∃ n ∈ ns, l.emprunt = some n then { l with emprunt := none } else l)
    (by intro l; dsimp only [Livre.row_id]; split <;> rfl)
  auteurs := db.auteurs.delete fun a => decide ("auteur" = t) && decide (a.id ∈ ns)
  categories := db.categories.delete fun c => decide ("categorie" = t) && decide (c.id ∈ ns)
  livreAuteur := db.livreAuteur.filter fun p =>
    !((decide ("livre" = t) && decide (p.1 ∈ ns)) || (decide ("auteur" = t) && decide (p.2 ∈ ns)))
  livreCategorie := db.livreCategorie.filter fun p =>
    !((decide ("livre" = t) && decide (p.1 ∈ ns)) ||
      (decide ("categorie" = t) && decide (p.2 ∈ ns)))
  utilisateurs := db.utilisateurs.delete fun u => decide ("utilisateur" = t) && decide (u.id ∈ ns)
  emprunts := db.emprunts.delete fun e => decide ("emprunt" = t) && decide (e.id ∈ ns)
  reservations := db.reservations.delete fun r => decide ("reservations" = t) && decide (r.id ∈ ns)

theorem lignes_eq {β : Type} {xs : List β} {g : β → Rec String} {p : Rec String → Bool}
    {q : β → Bool} {f : Rec String → Rec String} {k : β → β} (hp : ∀ x, p (g x) = q x)
    (hf : ∀ x, f (g x) = g (k x)) :
    ((xs.map g).filter p).map f = ((xs.filter q).map k).map g := by
  rw [List.filter_map, List.map_map, List.map_map]
  have hfilter : xs.filter (p ∘ g) = xs.filter q := List.filter_congr fun x _ => hp x
  rw [hfilter]
  exact List.map_congr_left fun x _ => hf x

theorem Livre.cles_sansEmprunt {l : Livre} {x : String} (hx : x ≠ "emprunt_id") :
    ({ l with emprunt := none } : Livre).cles x = l.cles x := by
  unfold Livre.cles
  split
  · rfl
  · exact absurd rfl hx
  · rfl

section Delete

variable {db : Db} {t : String} {n : Nat}

theorem refersTo_schema (hpresent : ∃ d ∈ db.cles t, d "id" = some n) :
    ∀ f ∈ Version20260311191308.foreignKeys, Schema.refersTo db.cles t "id" n f =
      fun r => decide (f.references = t) && decide (r f.column = some n) := by
  have hid : ∀ f ∈ Version20260311191308.foreignKeys, f.target = "id" := by decide
  exact fun f hf => Schema.refersTo_eq hpresent fun _ => hid f hf

theorem blocks_eq (hpresent : ∃ d ∈ db.cles t, d "id" = some n) :
    schema.blocks db.cles t "id" n = db.retient t n := by
  have hrefers := refersTo_schema hpresent
  simp only [Version20260311191308.foreignKeys, List.forall_mem_cons, List.not_mem_nil,
    false_imp_iff, implies_true, and_true] at hrefers
  simp [Schema.blocks, schema_foreignKeys, Version20260311191308.foreignKeys, hrefers, Db.cles,
    Db.retient, Function.comp_def, Emprunt.cles, Reservations.cles, Bool.or_assoc]

theorem removes_eq (hpresent : ∃ d ∈ db.cles t, d "id" = some n) (u : String) (r : Rec String) :
    schema.removes db.cles t "id" n u r =
      ((decide (u = t) && decide (r "id" = some n)) ||
        ((decide ("livre_auteur" = u) && (decide ("livre" = t) && decide (r "livre_id" = some n))) ||
        ((decide ("livre_auteur" = u) &&
          (decide ("auteur" = t) && decide (r "auteur_id" = some n))) ||
        ((decide ("livre_categorie" = u) &&
          (decide ("livre" = t) && decide (r "livre_id" = some n))) ||
        (decide ("livre_categorie" = u) &&
          (decide ("categorie" = t) && decide (r "categorie_id" = some n))))))) := by
  have hrefers := refersTo_schema hpresent
  simp only [Version20260311191308.foreignKeys, List.forall_mem_cons, List.not_mem_nil,
    false_imp_iff, implies_true, and_true] at hrefers
  simp [Schema.removes, schema_foreignKeys, Version20260311191308.foreignKeys, hrefers]

theorem kept_eq (hpresent : ∃ d ∈ db.cles t, d "id" = some n) (u : String) (r : Rec String) :
    schema.kept db.cles t "id" n u r = fun x =>
      if decide ("livre" = u) && decide ("emprunt_id" = x) &&
        (decide ("emprunt" = t) && decide (r "emprunt_id" = some n)) then none else r x := by
  have hrefers := refersTo_schema hpresent
  simp only [Version20260311191308.foreignKeys, List.forall_mem_cons, List.not_mem_nil,
    false_imp_iff, implies_true, and_true] at hrefers
  funext x
  simp [Schema.kept, Schema.unsets, schema_foreignKeys, Version20260311191308.foreignKeys, hrefers]

/-- Only books and members are referred to by a restricting foreign key. -/
theorem retient_eq_false (hmembre : t ≠ "utilisateur") (hlivre : t ≠ "livre") :
    db.retient t n = false := by
  simp [Db.retient, hmembre.symm, hlivre.symm]

theorem schema_delete (hpresent : ∃ d ∈ db.cles t, d "id" = some n) :
    schema.delete db.cles t "id" n = if db.retient t n then none else some (db.sans t [n]).cles := by
  rw [Schema.delete, blocks_eq hpresent]
  split
  · rfl
  · refine congrArg some (funext fun (u : String) => ?_)
    rw [funext (kept_eq hpresent u)]
    simp only [removes_eq hpresent]
    unfold Db.cles
    split
    case h_4 =>
      refine lignes_eq (fun l => by simp [Livre.cles]) fun l => funext fun (x : String) => ?_
      by_cases hx : x = "emprunt_id"
      · subst hx
        by_cases hl : "emprunt" = t ∧ l.emprunt = some n
        · simp [Livre.cles, hl]
        · simp [Livre.cles, hl]
      · have hne : ¬ "emprunt_id" = x := fun h => hx h.symm
        simp only [hne, decide_false, Bool.and_false, Bool.false_and, Bool.false_eq_true, if_false]
        split
        · exact (Livre.cles_sansEmprunt hx).symm
        · rfl
    case h_9 => rfl
    all_goals
      refine (lignes_eq (k := id) (fun x => ?_) fun x => funext fun c => ?_).trans
        (by rw [List.map_id]; rfl)
    all_goals simp [cleSeule, Emprunt.cles, Reservations.cles, clesLivreAuteur, clesLivreCategorie]

end Delete

/-! ## Deletions of the back office -/

/-- A deletion, by the controller of the entity. -/
inductive Suppression where
  | auteur (id : Nat)
  | categorie (id : Nat)
  | livre (id : Nat)
  | utilisateur (id : Nat)
  | emprunt (id : Nat)
  | reservation (id : Nat)
  deriving DecidableEq, Repr

namespace Db

/-- The keys of the member's loans. -/
def empruntsDe (user : Nat) (db : Db) : List Nat :=
  (db.emprunts.rows.filter fun e => decide (e.utilisateur = user)).map Emprunt.id

def reservationsDe (user : Nat) (db : Db) : List Nat :=
  (db.reservations.rows.filter fun r => decide (r.utilisateur = user)).map Reservations.id

theorem mem_empruntsDe {user n : Nat} {db : Db} : n ∈ db.empruntsDe user ↔
    ∃ e ∈ db.emprunts.rows, decide (e.utilisateur = user) = true ∧ e.id = n := by
  simp [empruntsDe, and_assoc]

theorem mem_reservationsDe {user n : Nat} {db : Db} : n ∈ db.reservationsDe user ↔
    ∃ r ∈ db.reservations.rows, r.utilisateur = user ∧ r.id = n := by
  simp [reservationsDe, and_assoc]

end Db

namespace Suppression

def requete : Suppression → AdminRequest
  | auteur id => .auteurDelete id
  | categorie id => .categorieDelete id
  | livre id => .livreDelete id
  | utilisateur id => .utilisateurDelete id
  | emprunt id => .empruntDelete id
  | reservation id => .reservationDelete id

/-- The statements that are sent, for a row that is there. A member is deleted after his loans and his
reservations, which `orphanRemoval` removes with him. -/
def ordres (db : Db) : Suppression → Option (List (String × Nat))
  | auteur id => (db.auteurs.find? id).map fun a => [("auteur", a.id)]
  | categorie id => (db.categories.find? id).map fun c => [("categorie", c.id)]
  | livre id => (db.livres.find? id).map fun l => [("livre", l.id)]
  | utilisateur id => (db.utilisateurs.find? id).map fun u =>
      (db.empruntsDe u.id).map (("emprunt", ·)) ++
        ((db.reservationsDe u.id).map (("reservations", ·)) ++ [("utilisateur", u.id)])
  | emprunt id => (db.emprunts.find? id).map fun e => [("emprunt", e.id)]
  | reservation id => (db.reservations.find? id).map fun r => [("reservations", r.id)]

end Suppression

/-- Only the rows count. -/
theorem Db.cles_congr {db db' : Db} (hauteurs : db'.auteurs.rows = db.auteurs.rows)
    (hcategories : db'.categories.rows = db.categories.rows)
    (hemprunts : db'.emprunts.rows = db.emprunts.rows) (hlivres : db'.livres.rows = db.livres.rows)
    (hauteur : db'.livreAuteur = db.livreAuteur)
    (hcategorie : db'.livreCategorie = db.livreCategorie)
    (hreservations : db'.reservations.rows = db.reservations.rows)
    (hutilisateurs : db'.utilisateurs.rows = db.utilisateurs.rows) : db'.cles = db.cles := by
  unfold Db.cles
  rw [hauteurs, hcategories, hemprunts, hlivres, hauteur, hcategorie, hreservations, hutilisateurs]

section Ordres

variable {db : Db} {t : String} {n : Nat} {ns ms : List Nat}

theorem deletes_singleton (hpresent : ∃ d ∈ db.cles t, d "id" = some n) :
    schema.deletes "id" db.cles [(t, n)] =
      if db.retient t n then none else some (db.sans t [n]).cles := by
  rw [Schema.deletes, schema_delete hpresent]
  split <;> rfl

/-- A row that nothing keeps. -/
theorem deletes_libre (hmembre : t ≠ "utilisateur") (hlivre : t ≠ "livre")
    (hpresent : ∃ d ∈ db.cles t, d "id" = some n) :
    schema.deletes "id" db.cles [(t, n)] = some (db.sans t [n]).cles := by
  rw [deletes_singleton hpresent, retient_eq_false hmembre hlivre]
  rfl

theorem filter_not_mem {β : Type} {l : List β} {k : β → Nat} :
    (l.filter fun x => !decide (k x ∈ ns)).filter (fun x => !decide (k x ∈ ms)) =
      l.filter fun x => !decide (k x ∈ ns ++ ms) := by
  rw [List.filter_filter]
  refine List.filter_congr fun x _ => ?_
  by_cases hns : k x ∈ ns <;> simp [hns]

/-- Loans deleted one after the other … -/
theorem cles_sans_emprunts :
    ((db.sans "emprunt" ns).sans "emprunt" ms).cles = (db.sans "emprunt" (ns ++ ms)).cles := by
  apply Db.cles_congr
  case hemprunts => simpa [Db.sans] using filter_not_mem
  case hlivres =>
    simp only [Db.sans, rows_modify, rows_delete, List.map_map, String.reduceEq, decide_false,
      Bool.false_and, Bool.not_false, List.filter_true, true_and]
    refine List.map_congr_left fun l _ => ?_
    rw [Function.comp_apply]
    cases hl : l.emprunt with
    | none => simp [hl]
    | some i => by_cases hi : i ∈ ns <;> simp [hl, hi]
  all_goals simp [Db.sans]

/-- … and reservations. -/
theorem cles_sans_reservations :
    ((db.sans "reservations" ns).sans "reservations" ms).cles =
      (db.sans "reservations" (ns ++ ms)).cles := by
  apply Db.cles_congr
  case hreservations => simpa [Db.sans] using filter_not_mem
  all_goals simp [Db.sans]

theorem cles_sans_nil : (db.sans t []).cles = db.cles := by
  apply Db.cles_congr <;> simp [Db.sans]

/-- Rows of a table to which nothing refers that restricts, one statement for each. -/
theorem deletes_rows (cles : Db → List Nat) (hlibre : ∀ db n, Db.retient t n db = false)
    (hpresent : ∀ db, ∀ n ∈ cles db, ∃ d ∈ db.cles t, d "id" = some n)
    (hreste : ∀ db n, ∀ m ∈ cles db, m ≠ n → m ∈ cles (db.sans t [n]))
    (hsans : ∀ db ns ms, ((Db.sans t ns db).sans t ms).cles = (db.sans t (ns ++ ms)).cles)
    (db : Db) (hnodup : ns.Nodup) (hns : ∀ n ∈ ns, n ∈ cles db) :
    schema.deletes "id" db.cles (ns.map ((t, ·))) = some (db.sans t ns).cles := by
  induction ns generalizing db with
  | nil => exact congrArg some cles_sans_nil.symm
  | cons n ns ih =>
      obtain ⟨hn, hnodup⟩ := List.nodup_cons.mp hnodup
      have hfirst := schema_delete (hpresent db n (hns n List.mem_cons_self))
      rw [hlibre db n] at hfirst
      rw [List.map_cons, Schema.deletes, hfirst]
      simp only [Bool.false_eq_true, if_false, Option.bind_some]
      rw [ih (db.sans t [n]) hnodup, hsans, List.singleton_append]
      intro m hm
      exact hreste db n m (hns m (List.mem_cons_of_mem n hm)) (ne_of_mem_of_not_mem hm hn)

theorem deletes_emprunts (hnodup : ns.Nodup) (hns : ∀ n ∈ ns, n ∈ db.emprunts.keys) :
    schema.deletes "id" db.cles (ns.map (("emprunt", ·))) = some (db.sans "emprunt" ns).cles := by
  refine deletes_rows (fun db => db.emprunts.keys) ?_ ?_ ?_ ?_ db hnodup hns
  · exact fun db n => retient_eq_false (by decide) (by decide)
  · exact fun db n hn => (exists_cle fun _ => rfl).mpr hn
  · intro db n m hm hne
    obtain ⟨e, he, rfl⟩ := mem_keys.mp hm
    exact mem_keys.mpr ⟨e, List.mem_filter.mpr ⟨he, by simpa using hne⟩, rfl⟩
  · exact fun db ns ms => cles_sans_emprunts

theorem deletes_reservations (hnodup : ns.Nodup) (hns : ∀ n ∈ ns, n ∈ db.reservations.keys) :
    schema.deletes "id" db.cles (ns.map (("reservations", ·))) =
      some (db.sans "reservations" ns).cles := by
  refine deletes_rows (fun db => db.reservations.keys) ?_ ?_ ?_ ?_ db hnodup hns
  · exact fun db n => retient_eq_false (by decide) (by decide)
  · exact fun db n hn => (exists_cle fun _ => rfl).mpr hn
  · intro db n m hm hne
    obtain ⟨r, hr, rfl⟩ := mem_keys.mp hm
    exact mem_keys.mpr ⟨r, List.mem_filter.mpr ⟨hr, by simpa using hne⟩, rfl⟩
  · exact fun db ns ms => cles_sans_reservations

/-- The application sets to `NULL` the pointers that the engine would. -/
theorem rows_removeEmprunts (db : Db) {p : Emprunt → Bool}
    (hns : ∀ n, n ∈ ns ↔ ∃ e ∈ db.emprunts.rows, p e = true ∧ e.id = n) :
    (db.removeEmprunts p).emprunts.rows = (db.sans "emprunt" ns).emprunts.rows ∧
      (db.removeEmprunts p).livres.rows = (db.sans "emprunt" ns).livres.rows := by
  constructor
  · simp only [Db.removeEmprunts, Db.sans, rows_delete, decide_true, Bool.true_and]
    refine List.filter_congr fun e he => ?_
    rw [Bool.not_inj_iff, Bool.eq_iff_iff, decide_eq_true_eq, hns]
    constructor
    · exact fun hp => ⟨e, he, hp, rfl⟩
    · rintro ⟨e', he', hp, hid⟩
      rwa [db.emprunts.eq_of_id he' he hid] at hp
  · simp only [Db.removeEmprunts, Db.sans, rows_modify, rows_delete, String.reduceEq, decide_false,
      Bool.false_and, Bool.not_false, List.filter_true]
    refine List.map_congr_left fun l _ => if_congr ?_ rfl rfl
    simp only [List.any_eq_true, Bool.and_eq_true, decide_eq_true_eq, true_and, hns]
    constructor
    · rintro ⟨e, he, hp, hl⟩
      exact ⟨e.id, ⟨e, he, hp, rfl⟩, hl⟩
    · rintro ⟨n, ⟨e, he, hp, rfl⟩, hl⟩
      exact ⟨e, he, hp, hl⟩

theorem cles_removeEmprunts {p : Emprunt → Bool}
    (hns : ∀ n, n ∈ ns ↔ ∃ e ∈ db.emprunts.rows, p e = true ∧ e.id = n) :
    (db.removeEmprunts p).cles = (db.sans "emprunt" ns).cles := by
  obtain ⟨hemprunts, hlivres⟩ := rows_removeEmprunts db hns
  apply Db.cles_congr
  case hemprunts => exact hemprunts
  case hlivres => exact hlivres
  all_goals simp [Db.removeEmprunts, Db.sans]

/-- Without a member's loans and reservations nothing keeps him … -/
theorem retient_utilisateur (id : Nat) :
    ((db.sans "emprunt" (db.empruntsDe id)).sans "reservations" (db.reservationsDe id)).retient
      "utilisateur" id = false := by
  simp only [Db.retient, Db.sans, rows_delete, String.reduceEq, decide_true, decide_false,
    Bool.true_and, Bool.false_and, Bool.not_false, List.filter_true, Bool.or_eq_false_iff,
    List.any_eq_false, List.mem_filter, Bool.not_eq_true', decide_eq_false_iff_not,
    decide_eq_true_eq]
  refine ⟨⟨⟨?_, fun _ _ => Bool.false_ne_true⟩, ?_⟩, fun _ _ => Bool.false_ne_true⟩
  · rintro e ⟨he, hnot⟩ hu
    exact hnot (Db.mem_empruntsDe.mpr ⟨e, he, decide_eq_true hu, rfl⟩)
  · rintro r ⟨hr, hnot⟩ hu
    exact hnot (Db.mem_reservationsDe.mpr ⟨r, hr, hu, rfl⟩)

/-- … and without him, that is what the application leaves. -/
theorem cles_deleteUtilisateur (id : Nat) :
    (db.deleteUtilisateur id).cles =
      (((db.sans "emprunt" (db.empruntsDe id)).sans "reservations" (db.reservationsDe id)).sans
        "utilisateur" [id]).cles := by
  obtain ⟨hemprunts, hlivres⟩ := rows_removeEmprunts db fun n => Db.mem_empruntsDe
  apply Db.cles_congr
  case hemprunts =>
    refine hemprunts.trans ?_
    simp [Db.sans]
  case hlivres =>
    refine hlivres.trans ?_
    simp [Db.sans]
  case hreservations =>
    simp only [Db.deleteUtilisateur, Db.removeEmprunts, Db.sans, rows_delete, String.reduceEq,
      decide_true, decide_false, Bool.true_and, Bool.false_and, Bool.not_false, List.filter_true]
    refine List.filter_congr fun r hr => ?_
    rw [Bool.not_inj_iff, Bool.eq_iff_iff, decide_eq_true_eq, decide_eq_true_eq,
      Db.mem_reservationsDe]
    constructor
    · exact fun hu => ⟨r, hr, hu, rfl⟩
    · rintro ⟨r', hr', hu, hid⟩
      rwa [db.reservations.eq_of_id hr' hr hid] at hu
  all_goals simp [Db.deleteUtilisateur, Db.removeEmprunts, Db.sans]

theorem deletes_utilisateur {u : Utilisateur} (hu : u ∈ db.utilisateurs.rows) :
    schema.deletes "id" db.cles ((db.empruntsDe u.id).map (("emprunt", ·)) ++
      ((db.reservationsDe u.id).map (("reservations", ·)) ++ [("utilisateur", u.id)])) =
        some (db.deleteUtilisateur u.id).cles := by
  have hnodup : (db.empruntsDe u.id).Nodup := (List.filter_sublist.map _).nodup db.emprunts.nodup
  have hnodup' : (db.reservationsDe u.id).Nodup :=
    (List.filter_sublist.map _).nodup db.reservations.nodup
  have hkeys : ∀ m ∈ db.reservationsDe u.id,
      m ∈ (db.sans "emprunt" (db.empruntsDe u.id)).reservations.keys := by
    have hsame : (db.sans "emprunt" (db.empruntsDe u.id)).reservations.keys =
        db.reservations.keys := by simp [Db.sans, keys]
    rw [hsame]
    exact (List.filter_sublist.map _).subset
  have hpresent : ∃ d ∈ ((db.sans "emprunt" (db.empruntsDe u.id)).sans "reservations"
      (db.reservationsDe u.id)).cles "utilisateur", d "id" = some u.id := by
    refine (exists_cle fun _ => rfl).mpr (mem_keys.mpr ⟨u, ?_, rfl⟩)
    simpa [Db.sans] using hu
  rw [Schema.deletes_append, deletes_emprunts hnodup (List.filter_sublist.map _).subset,
    Option.bind_some, Schema.deletes_append, deletes_reservations hnodup' hkeys, Option.bind_some,
    deletes_singleton hpresent, retient_utilisateur, cles_deleteUtilisateur]
  rfl

/-- Nobody with this key: nothing to delete. -/
theorem cles_deleteUtilisateur_absent (h : References db) {id : Nat}
    (hu : db.utilisateurs.find? id = none) : (db.deleteUtilisateur id).cles = db.cles := by
  have habsent : ∀ x ∈ db.utilisateurs.keys, x ≠ id := by
    intro x hx heq
    obtain ⟨u, hfind⟩ := exists_find?_of_mem_keys hx
    cases (heq ▸ hfind).symm.trans hu
  have hemprunts : db.empruntsDe id = [] :=
    List.map_eq_nil_iff.mpr (List.filter_eq_nil_iff.mpr fun e he =>
      fun heq => habsent _ (h.empruntMembre e he) (of_decide_eq_true heq))
  have hreservations : db.reservationsDe id = [] :=
    List.map_eq_nil_iff.mpr (List.filter_eq_nil_iff.mpr fun r hr =>
      fun heq => habsent _ (h.reservationMembre r hr) (of_decide_eq_true heq))
  rw [cles_deleteUtilisateur, hemprunts, hreservations]
  apply Db.cles_congr
  case hutilisateurs =>
    simp only [Db.sans, rows_delete, String.reduceEq, decide_false, Bool.false_and, Bool.not_false,
      List.filter_true]
    refine List.filter_eq_self.mpr fun u hu => ?_
    have hne := habsent u.id (id_mem_keys hu)
    simpa using hne
  all_goals simp [Db.sans]

end Ordres

/-! ## The application and the engine -/

/-- What the deletion leaves is what the engine leaves. -/
def Suppression.Conforme (env : Env) (now : Int) (db : Db) (x : Suppression) : Prop :=
  ((adminDispatch env now db x.requete).getD db).cles =
    ((x.ordres db).bind fun os => schema.deletes "id" db.cles os).getD db.cles

namespace Suppression

variable (env : Env) (now : Int) {db : Db} (id : Nat)

theorem conforme_auteur : (auteur id).Conforme env now db := by
  simp only [Conforme, requete, ordres, adminDispatch, AuteurCrudController.deleteEntity]
  cases hfind : db.auteurs.find? id with
  | none => rfl
  | some a =>
      have hpresent : ∃ d ∈ db.cles "auteur", d "id" = some a.id :=
        exists_cle_of_find? (fun _ => rfl) hfind
      rw [Option.map_some, Option.bind_some, deletes_libre (by decide) (by decide) hpresent]
      apply Db.cles_congr <;> simp [Db.sans]

theorem conforme_categorie : (categorie id).Conforme env now db := by
  simp only [Conforme, requete, ordres, adminDispatch, CategorieCrudController.deleteEntity]
  cases hfind : db.categories.find? id with
  | none => rfl
  | some c =>
      have hpresent : ∃ d ∈ db.cles "categorie", d "id" = some c.id :=
        exists_cle_of_find? (fun _ => rfl) hfind
      rw [Option.map_some, Option.bind_some, deletes_libre (by decide) (by decide) hpresent]
      apply Db.cles_congr <;> simp [Db.sans]

/-- The same loans and reservations keep a book here and there. -/
theorem conforme_livre : (livre id).Conforme env now db := by
  simp only [Conforme, requete, ordres, adminDispatch, LivreCrudController.deleteEntity]
  cases hfind : db.livres.find? id with
  | none => rfl
  | some l =>
      have hpresent : ∃ d ∈ db.cles "livre", d "id" = some l.id :=
        exists_cle_of_find? (fun _ => rfl) hfind
      have hretient : db.retient "livre" l.id =
          (db.emprunts.rows.any (fun e => decide (e.livre = l.id)) ||
            db.reservations.rows.any (fun r => decide (r.livre = l.id))) := by
        rw [Bool.eq_iff_iff]
        simp [Db.retient]
      rw [Option.map_some, Option.bind_some, deletes_singleton hpresent, hretient]
      simp only [Option.bind_eq_bind, Option.bind_some]
      split
      · rfl
      · apply Db.cles_congr <;> simp [Db.sans]

theorem conforme_utilisateur (h : References db) : (utilisateur id).Conforme env now db := by
  simp only [Conforme, requete, ordres, adminDispatch, Option.getD_some]
  cases hfind : db.utilisateurs.find? id with
  | none => exact cles_deleteUtilisateur_absent h hfind
  | some u =>
      obtain ⟨hu, rfl⟩ := db.utilisateurs.find?_eq_some.mp hfind
      rw [Option.map_some, Option.bind_some, deletes_utilisateur hu]
      rfl

theorem conforme_emprunt : (emprunt id).Conforme env now db := by
  simp only [Conforme, requete, ordres, adminDispatch, Option.getD_some]
  cases hfind : db.emprunts.find? id with
  | none =>
      refine (cles_removeEmprunts fun n => ⟨fun hn => absurd hn List.not_mem_nil, ?_⟩).trans
        cles_sans_nil
      rintro ⟨e, he, hid, -⟩
      exact absurd hid (List.find?_eq_none.mp hfind e he)
  | some e =>
      obtain ⟨he, rfl⟩ := db.emprunts.find?_eq_some.mp hfind
      have hpresent : ∃ d ∈ db.cles "emprunt", d "id" = some e.id :=
        exists_cle_of_find? (fun _ => rfl) hfind
      rw [Option.map_some, Option.bind_some, deletes_libre (by decide) (by decide) hpresent]
      refine cles_removeEmprunts fun n => List.mem_singleton.trans ⟨?_, ?_⟩
      · rintro rfl
        exact ⟨e, he, decide_eq_true rfl, rfl⟩
      · rintro ⟨e', -, hid, rfl⟩
        exact of_decide_eq_true hid

theorem conforme_reservation : (reservation id).Conforme env now db := by
  simp only [Conforme, requete, ordres, adminDispatch, Option.getD_some]
  cases hfind : db.reservations.find? id with
  | none =>
      apply Db.cles_congr
      case hreservations =>
        refine List.filter_eq_self.mpr fun r hr => ?_
        have hne := List.find?_eq_none.mp hfind r hr
        simpa using hne
      all_goals rfl
  | some r =>
      obtain ⟨hr, rfl⟩ := db.reservations.find?_eq_some.mp hfind
      have hpresent : ∃ d ∈ db.cles "reservations", d "id" = some r.id :=
        exists_cle_of_find? (fun _ => rfl) hfind
      rw [Option.map_some, Option.bind_some, deletes_libre (by decide) (by decide) hpresent]
      apply Db.cles_congr <;> simp [Db.sans]

end Suppression

/-- **What the application leaves is what the engine leaves.** -/
theorem suppression_conforme (env : Env) (now : Int) {db : Db} (h : References db)
    (x : Suppression) : x.Conforme env now db := by
  cases x with
  | auteur id => exact Suppression.conforme_auteur env now id
  | categorie id => exact Suppression.conforme_categorie env now id
  | livre id => exact Suppression.conforme_livre env now id
  | utilisateur id => exact Suppression.conforme_utilisateur env now id h
  | emprunt id => exact Suppression.conforme_emprunt env now id
  | reservation id => exact Suppression.conforme_reservation env now id

/-! ## Whole runs -/

theorem schema_shallow : schema.Shallow := by
  constructor
  · rw [schema_foreignKeys]
    decide
  · rw [schema_foreignKeys, schema_tables]
    decide

/-- The tables are as the schema wants them, a deletion in the back office is what the engine makes of
its statements, and no statements that the engine carries out, of whomever, would spoil them. -/
structure ConformeAuSchema (env : Env) (db : Db) : Prop where
  contraintes : schema.Satisfied db.cles
  suppressions : ∀ (now : Int) (x : Suppression), x.Conforme env now db
  moteur : ∀ os cles', schema.deletes "id" db.cles os = some cles' → schema.Satisfied cles'

theorem References.conforme {db : Db} (h : References db) (env : Env) : ConformeAuSchema env db where
  contraintes := references_iff.mp h
  suppressions := fun now x => suppression_conforme env now h x
  moteur := fun _ _ hdeletes => (references_iff.mp h).deletes schema_shallow hdeletes

/-- **The application and the engine agree.** From tables that keep the constraints of the migration,
whatever sequence of logins, API requests, back-office requests and expire commands is handled, every
state on the way keeps them, and in each of them the deletions of the back office are those of the
engine. -/
theorem contraintes_run (env : Env) (db : Db) (h : schema.Satisfied db.cles) (es : List Evenement) :
    Always (Evenement.apply env) (ConformeAuSchema env) db es :=
  Always.mono (I := References) (fun _ h => h.conforme env)
    (always_of_along (P := fun _ _ => True) (fun _ e h _ => h.apply env e)
      (references_iff.mpr h) (along_of_forall fun _ _ => trivial))

/-- A member with a book and a reservation is deleted; the book he had cannot be before its loan is. -/
theorem contraintes_run_fixtures :
    schema.Satisfied (AppFixtures.load .plain).cles ∧
    Always (Evenement.apply .plain) (ConformeAuSchema .plain) (AppFixtures.load .plain)
      [.requete (.api 0 0 (some 2) (.reservationCreate (.obj [("livreId", .int 1)]))),
        .requete (.admin 10 (some 5) (.empruntNew ⟨some 2, some 3, none, none⟩)),
        .requete (.admin 20 (some 5) (.livreDelete 3)),
        .requete (.admin 30 (some 5) (.utilisateurDelete 2)),
        .requete (.admin 40 (some 5) (.livreDelete 3))] :=
  ⟨references_iff.mp (references_fixtures .plain),
    contraintes_run .plain (AppFixtures.load .plain) (references_iff.mp (references_fixtures .plain))
      _⟩

end Bibliotheque
