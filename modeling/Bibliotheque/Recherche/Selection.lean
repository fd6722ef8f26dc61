import Bibliotheque.Api
import Bibliotheque.Fixtures
import Bibliotheque.Lib.Like

/-! # Which books a search finds

The query filters the rows of a double `LEFT JOIN`; what a reader of the criteria has in mind is a
condition on books, with an author that matches and, independently, a category that matches. The two
agree (`searchLivres_selects`): the `WHERE` clause is a conjunction of a condition on the book, one on
the author and one on the category of the row, so a book has a row that passes exactly when it passes
each of the three somewhere.

Folding the rows back into books does not lose or repeat a book, but it does lose authors and
categories: a book comes with those of its rows that passed (`search_whole_iff`,
`categorie_manquante`). -/

namespace Bibliotheque

open Lib RechercheRepository

/-- The text of a column matches a criterion. -/
def Correspond (env : Env) (critere texte : String) : Prop :=
  env.like (env.lower texte) ("%" ++ critere.toLower ++ "%") = true

/-- The book meets the criteria that are given. -/
structure Repond (env : Env) (k : Criteres) (db : Db) (l : Livre) : Prop where
  titre : ∀ s, k.titre = some s → Correspond env s l.titre
  auteur : ∀ s, k.auteur = some s →
    ∃ a ∈ db.auteursDe l.id, Correspond env s a.nom ∨ Correspond env s a.prenom
  categorie : ∀ s, k.categorie = some s → ∃ c ∈ db.categoriesDe l.id, Correspond env s c.nom
  langue : ∀ s, k.langue = some s → Correspond env s l.langue
  dateMin : ∀ d, k.dateMin = some d → d ≤ l.dateSortie
  dateMax : ∀ d, k.dateMax = some d → l.dateSortie ≤ d

/-- What `LivreController::search` guarantees of the texts it passes on. -/
structure Criteres.Truthy (k : Criteres) : Prop where
  titre : ∀ s, k.titre = some s → truthyText s = true
  auteur : ∀ s, k.auteur = some s → truthyText s = true
  categorie : ∀ s, k.categorie = some s → truthyText s = true
  langue : ∀ s, k.langue = some s → truthyText s = true

/-! ## The rows -/

section Rows

variable {env : Env} {k : Criteres} {db : Db}

theorem mem_leftJoin {α : Type} {xs : List α} {o : Option α} :
    o ∈ leftJoin xs ↔ (xs = [] ∧ o = none) ∨ ∃ x ∈ xs, o = some x := by
  unfold leftJoin
  cases xs with
  | nil => simp
  | cons x xs => simp [eq_comm]

/-- The conditions on the book of a row … -/
def livreRetenu (env : Env) (k : Criteres) (l : Livre) : Bool :=
  andWhere k.titre (fun s => likeCritere env s (some l.titre)) &&
  andWhere k.langue (fun s => likeCritere env s (some l.langue)) &&
  k.dateMin.all (fun d => decide (d ≤ l.dateSortie)) &&
  k.dateMax.all (fun d => decide (l.dateSortie ≤ d))

/-- … on its author … -/
def auteurRetenu (env : Env) (k : Criteres) (a : Option Auteur) : Bool :=
  andWhere k.auteur fun s =>
    likeCritere env s (a.map (·.nom)) || likeCritere env s (a.map (·.prenom))

/-- … and on its category. -/
def categorieRetenue (env : Env) (k : Criteres) (c : Option Categorie) : Bool :=
  andWhere k.categorie fun s => likeCritere env s (c.map (·.nom))

theorem retenue_eq (x : LigneRecherche) :
    retenue env k x = (livreRetenu env k x.livre && auteurRetenu env k x.auteur &&
      categorieRetenue env k x.categorie) := by
  simp only [retenue, livreRetenu, auteurRetenu, categorieRetenue]
  ac_rfl

theorem mem_jointure {x : LigneRecherche} :
    x ∈ jointure db ↔ x.livre ∈ db.livres.rows ∧ x.auteur ∈ leftJoin (db.auteursDe x.livre.id) ∧
      x.categorie ∈ leftJoin (db.categoriesDe x.livre.id) := by
  simp only [jointure, List.mem_flatMap, List.mem_map]
  constructor
  · rintro ⟨l, hl, a, ha, c, hc, rfl⟩
    exact ⟨hl, ha, hc⟩
  · rintro ⟨hl, ha, hc⟩
    exact ⟨x.livre, hl, x.auteur, ha, x.categorie, hc, rfl⟩

/-- The rows that are left after `WHERE` and `DISTINCT`. -/
def lignesRetenues (env : Env) (k : Criteres) (db : Db) : List LigneRecherche :=
  ((jointure db).filter (retenue env k)).eraseDups

theorem mem_lignesRetenues {x : LigneRecherche} :
    x ∈ lignesRetenues env k db ↔
      (x.livre ∈ db.livres.rows ∧ livreRetenu env k x.livre = true) ∧
      (x.auteur ∈ leftJoin (db.auteursDe x.livre.id) ∧ auteurRetenu env k x.auteur = true) ∧
      (x.categorie ∈ leftJoin (db.categoriesDe x.livre.id) ∧
        categorieRetenue env k x.categorie = true) := by
  rw [lignesRetenues, List.mem_eraseDups, List.mem_filter, mem_jointure, retenue_eq]
  simp only [Bool.and_eq_true]
  constructor
  · rintro ⟨⟨hl, ha, hc⟩, ⟨hl', ha'⟩, hc'⟩
    exact ⟨⟨hl, hl'⟩, ⟨ha, ha'⟩, hc, hc'⟩
  · rintro ⟨⟨hl, hl'⟩, ⟨ha, ha'⟩, hc, hc'⟩
    exact ⟨⟨hl, ha, hc⟩, ⟨hl', ha'⟩, hc'⟩

/-- A condition on the right side of a `LEFT JOIN` that `NULL` does not meet. -/
theorem exists_andWhere_leftJoin {α : Type} {xs : List α} {critere : Option String}
    {cond : Option α → String → Bool} (hnull : ∀ s, cond none s = false)
    (htruthy : ∀ s, critere = some s → truthyText s = true) :
    (∃ o ∈ leftJoin xs, andWhere critere (cond o) = true) ↔
      ∀ s, critere = some s → ∃ x ∈ xs, cond (some x) s = true := by
  cases critere with
  | none =>
      -- nothing is asked of the row, and there is one
      refine iff_of_true ?_ (fun s hs => by cases hs)
      cases xs with
      | nil => exact ⟨none, by simp [mem_leftJoin], rfl⟩
      | cons x xs => exact ⟨some x, by simp [mem_leftJoin], rfl⟩
  | some s =>
      have ht : truthyText s = true := htruthy s rfl
      simp only [andWhere, ht, Bool.not_true, Bool.false_or, Option.some.injEq, forall_eq']
      constructor
      · rintro ⟨o, ho, hcond⟩
        rcases mem_leftJoin.mp ho with ⟨-, rfl⟩ | ⟨x, hx, rfl⟩
        · rw [hnull s] at hcond
          cases hcond
        · exact ⟨x, hx, hcond⟩
      · rintro ⟨x, hx, hcond⟩
        exact ⟨some x, mem_leftJoin.mpr (Or.inr ⟨x, hx, rfl⟩), hcond⟩

theorem andWhere_eq_true {critere : Option String} {cond : String → Bool}
    (htruthy : ∀ s, critere = some s → truthyText s = true) :
    andWhere critere cond = true ↔ ∀ s, critere = some s → cond s = true := by
  cases critere with
  | none => simp [andWhere]
  | some s => simp [andWhere, htruthy s rfl]

/-- A book has a row that passes exactly when it meets the criteria. -/
theorem exists_ligneRetenue_iff (hk : k.Truthy) {l : Livre} :
    (∃ x ∈ lignesRetenues env k db, x.livre = l) ↔ l ∈ db.livres.rows ∧ Repond env k db l := by
  -- the three conditions on a row are about different parts of it
  have hsplit : (∃ x ∈ lignesRetenues env k db, x.livre = l) ↔
      (l ∈ db.livres.rows ∧ livreRetenu env k l = true) ∧
      (∃ a ∈ leftJoin (db.auteursDe l.id), auteurRetenu env k a = true) ∧
      ∃ c ∈ leftJoin (db.categoriesDe l.id), categorieRetenue env k c = true := by
    constructor
    · rintro ⟨x, hx, rfl⟩
      obtain ⟨hl, ha, hc⟩ := mem_lignesRetenues.mp hx
      exact ⟨hl, ⟨x.auteur, ha⟩, x.categorie, hc⟩
    · rintro ⟨hl, ⟨a, ha⟩, c, hc⟩
      exact ⟨⟨l, a, c⟩, mem_lignesRetenues.mpr ⟨hl, ha, hc⟩, rfl⟩
  have hlivre : livreRetenu env k l = true ↔
      (((∀ s, k.titre = some s → Correspond env s l.titre) ∧
        ∀ s, k.langue = some s → Correspond env s l.langue) ∧
        ∀ d, k.dateMin = some d → d ≤ l.dateSortie) ∧
        ∀ d, k.dateMax = some d → l.dateSortie ≤ d := by
    simp only [livreRetenu, Bool.and_eq_true, andWhere_eq_true hk.titre,
      andWhere_eq_true hk.langue, Option.all_eq_true, decide_eq_true_eq]
    rfl
  have hauteur : (∃ a ∈ leftJoin (db.auteursDe l.id), auteurRetenu env k a = true) ↔
      ∀ s, k.auteur = some s →
        ∃ a ∈ db.auteursDe l.id, Correspond env s a.nom ∨ Correspond env s a.prenom := by
    simp only [auteurRetenu]
    rw [exists_andWhere_leftJoin (fun _ => rfl) hk.auteur]
    simp only [Bool.or_eq_true]
    rfl
  have hcategorie : (∃ c ∈ leftJoin (db.categoriesDe l.id), categorieRetenue env k c = true) ↔
      ∀ s, k.categorie = some s → ∃ c ∈ db.categoriesDe l.id, Correspond env s c.nom := by
    simp only [categorieRetenue]
    rw [exists_andWhere_leftJoin (fun _ => rfl) hk.categorie]
    rfl
  rw [hsplit, hlivre, hauteur, hcategorie]
  constructor
  · rintro ⟨⟨hl, ⟨⟨ht, hg⟩, hmin⟩, hmax⟩, ha, hc⟩
    exact ⟨hl, ⟨ht, ha, hc, hg, hmin, hmax⟩⟩
  · rintro ⟨hl, h⟩
    exact ⟨⟨hl, ⟨⟨h.titre, h.langue⟩, h.dateMin⟩, h.dateMax⟩, h.auteur, h.categorie⟩

end Rows

/-! ## The books -/

theorem nodup_eraseDups {α : Type} [DecidableEq α] : ∀ xs : List α, xs.eraseDups.Nodup
  | [] => List.nodup_nil
  | x :: xs => by
      rw [List.eraseDups_cons, List.nodup_cons]
      refine ⟨?_, nodup_eraseDups _⟩
      rw [List.mem_eraseDups, List.mem_filter]
      simp
termination_by xs => xs.length
decreasing_by
  simp only [List.length_cons]
  exact Nat.lt_succ_of_le (List.length_filter_le _ _)

section Books

variable {env : Env} {k : Criteres} {db : Db} {l : Livre}

/-- The books a search finds, in order. -/
def livresTrouves (env : Env) (k : Criteres) (db : Db) : List Livre :=
  (searchLivres env k db).map Prod.fst

theorem livresTrouves_eq :
    livresTrouves env k db = ((lignesRetenues env k db).map (·.livre)).eraseDups := by
  rw [livresTrouves, searchLivres, List.map_map]
  exact List.map_id _

theorem mem_livresTrouves (hk : k.Truthy) :
    l ∈ livresTrouves env k db ↔ l ∈ db.livres.rows ∧ Repond env k db l := by
  rw [livresTrouves_eq, List.mem_eraseDups, List.mem_map]
  exact exists_ligneRetenue_iff hk

/-- Two rows of the table with the same key are the same book, so no key is found twice. -/
theorem nodup_livresTrouves (hk : k.Truthy) : ((livresTrouves env k db).map (·.id)).Nodup := by
  refine List.Nodup.map_on ?_ ?_
  · intro l hl l' hl' hid
    exact db.livres.eq_of_id ((mem_livresTrouves hk).mp hl).1 ((mem_livresTrouves hk).mp hl').1 hid
  · rw [livresTrouves_eq]
    exact nodup_eraseDups _

end Books

/-- No criterion at all. -/
def Criteres.aucun : Criteres := ⟨none, none, none, none, none, none⟩

/-- The criteria one by one. -/
def Criteres.seuls (k : Criteres) : List Criteres :=
  [{ Criteres.aucun with titre := k.titre }, { Criteres.aucun with auteur := k.auteur },
    { Criteres.aucun with categorie := k.categorie }, { Criteres.aucun with langue := k.langue },
    { Criteres.aucun with dateMin := k.dateMin }, { Criteres.aucun with dateMax := k.dateMax }]

theorem Criteres.Truthy.seuls {k : Criteres} (hk : k.Truthy) : ∀ k' ∈ k.seuls, k'.Truthy := by
  have hnone : ∀ s : String, none = some s → truthyText s = true := fun s hs => by cases hs
  simp only [Criteres.seuls, List.forall_mem_cons, List.not_mem_nil, false_implies, implies_true,
    and_true]
  exact ⟨⟨hk.titre, hnone, hnone, hnone⟩, ⟨hnone, hk.auteur, hnone, hnone⟩,
    ⟨hnone, hnone, hk.categorie, hnone⟩, ⟨hnone, hnone, hnone, hk.langue⟩,
    ⟨hnone, hnone, hnone, hnone⟩, ⟨hnone, hnone, hnone, hnone⟩⟩

/-- Meeting the criteria is meeting each of them. -/
theorem repond_iff_seuls {env : Env} {k : Criteres} {db : Db} {l : Livre} :
    Repond env k db l ↔ ∀ k' ∈ k.seuls, Repond env k' db l := by
  simp only [Criteres.seuls, List.forall_mem_cons, List.not_mem_nil, false_implies, implies_true,
    and_true]
  constructor
  · intro h
    refine ⟨?_, ?_, ?_, ?_, ?_, ?_⟩
    · exact ⟨h.titre, nofun, nofun, nofun, nofun, nofun⟩
    · exact ⟨nofun, h.auteur, nofun, nofun, nofun, nofun⟩
    · exact ⟨nofun, nofun, h.categorie, nofun, nofun, nofun⟩
    · exact ⟨nofun, nofun, nofun, h.langue, nofun, nofun⟩
    · exact ⟨nofun, nofun, nofun, nofun, h.dateMin, nofun⟩
    · exact ⟨nofun, nofun, nofun, nofun, nofun, h.dateMax⟩
  · rintro ⟨ht, ha, hc, hg, hmin, hmax⟩
    exact ⟨ht.titre, ha.auteur, hc.categorie, hg.langue, hmin.dateMin, hmax.dateMax⟩

/-- **A search selects exactly the right books.** A book is found exactly when it is in the catalogue
and meets the criteria that are given; it is found once; and several criteria together find what each
of them finds alone. -/
theorem searchLivres_selects (env : Env) (k : Criteres) (db : Db) (hk : k.Truthy) :
    (∀ l, l ∈ livresTrouves env k db ↔ l ∈ db.livres.rows ∧ Repond env k db l) ∧
    ((livresTrouves env k db).map (·.id)).Nodup ∧
    ∀ l, l ∈ livresTrouves env k db ↔ ∀ k' ∈ k.seuls, l ∈ livresTrouves env k' db := by
  refine ⟨fun l => mem_livresTrouves hk, nodup_livresTrouves hk, ?_⟩
  intro l
  rw [mem_livresTrouves hk, repond_iff_seuls]
  constructor
  · rintro ⟨hl, hall⟩ k' hk'
    exact (mem_livresTrouves (hk.seuls k' hk')).mpr ⟨hl, hall k' hk'⟩
  · intro hall
    have hmem : ∀ k' ∈ k.seuls, l ∈ db.livres.rows ∧ Repond env k' db l :=
      fun k' hk' => (mem_livresTrouves (hk.seuls k' hk')).mp (hall k' hk')
    exact ⟨(hmem _ List.mem_cons_self).1, fun k' hk' => (hmem k' hk').2⟩

/-- Surroundings with the text functions of SQL. -/
def Env.sql : Env :=
  { Env.plain with
    lower := fun s => s.toLower
    like := fun s p => Lib.like s.toList p.toList }

/-- Two criteria that the first book of the fixtures meets. -/
theorem lesMiserables_trouve :
    AppFixtures.lesMiserables ∈
      livresTrouves .sql { Criteres.aucun with titre := some "MISER", categorie := some "roman" }
        (AppFixtures.load .plain) := by
  have hk : Criteres.Truthy
      { Criteres.aucun with titre := some "MISER", categorie := some "roman" } := by
    refine ⟨?_, nofun, ?_, nofun⟩
    · rintro s ⟨⟩
      decide
    · rintro s ⟨⟩
      decide
  refine ((searchLivres_selects .sql _ (AppFixtures.load .plain) hk).1 _).mpr
    ⟨AppFixtures.lesMiserables_mem, ⟨?_, nofun, ?_, nofun, nofun, nofun⟩⟩
  · rintro s ⟨⟩
    show Lib.like _ _ = true
    decide +kernel
  · rintro s ⟨⟩
    refine ⟨⟨1, "Roman", some "Fiction et grands classiques."⟩, by decide +kernel, ?_⟩
    show Lib.like _ _ = true
    decide +kernel

/-! ## What comes with them -/

section Collections

variable {env : Env} {k : Criteres} {db : Db} {l : Livre}

/-- The authors of the rows of a book that passed … -/
def auteursTrouves (env : Env) (k : Criteres) (db : Db) (l : Livre) : List Auteur :=
  (((lignesRetenues env k db).filter fun x => decide (x.livre.id = l.id)).filterMap
    (·.auteur)).eraseDups

/-- … and the categories. -/
def categoriesTrouvees (env : Env) (k : Criteres) (db : Db) (l : Livre) : List Categorie :=
  (((lignesRetenues env k db).filter fun x => decide (x.livre.id = l.id)).filterMap
    (·.categorie)).eraseDups

theorem searchLivres_eq :
    searchLivres env k db = (livresTrouves env k db).map fun l =>
      (l, auteursTrouves env k db l, categoriesTrouvees env k db l) := by
  rw [livresTrouves_eq]
  rfl

theorem some_mem_leftJoin {α : Type} {xs : List α} {x : α} : some x ∈ leftJoin xs ↔ x ∈ xs := by
  simp [mem_leftJoin]

/-- A book that is found has a row that passed with each of its authors that pass. -/
theorem mem_auteursTrouves (hl : l ∈ livresTrouves env k db) {a : Auteur} :
    a ∈ auteursTrouves env k db l ↔
      a ∈ db.auteursDe l.id ∧ auteurRetenu env k (some a) = true := by
  rw [livresTrouves_eq, List.mem_eraseDups, List.mem_map] at hl
  obtain ⟨x₀, hx₀, rfl⟩ := hl
  obtain ⟨hlivre, -, hcategorie⟩ := mem_lignesRetenues.mp hx₀
  simp only [auteursTrouves, List.mem_eraseDups, List.mem_filterMap, List.mem_filter,
    decide_eq_true_eq]
  constructor
  · rintro ⟨x, ⟨hx, hid⟩, ha⟩
    obtain ⟨-, ⟨hjoin, hretenu⟩, -⟩ := mem_lignesRetenues.mp hx
    rw [ha, hid, some_mem_leftJoin] at hjoin
    rw [ha] at hretenu
    exact ⟨hjoin, hretenu⟩
  · rintro ⟨ha, hretenu⟩
    refine ⟨⟨x₀.livre, some a, x₀.categorie⟩, ⟨?_, rfl⟩, rfl⟩
    exact mem_lignesRetenues.mpr ⟨hlivre, ⟨some_mem_leftJoin.mpr ha, hretenu⟩, hcategorie⟩

theorem mem_categoriesTrouvees (hl : l ∈ livresTrouves env k db) {c : Categorie} :
    c ∈ categoriesTrouvees env k db l ↔
      c ∈ db.categoriesDe l.id ∧ categorieRetenue env k (some c) = true := by
  rw [livresTrouves_eq, List.mem_eraseDups, List.mem_map] at hl
  obtain ⟨x₀, hx₀, rfl⟩ := hl
  obtain ⟨hlivre, hauteur, -⟩ := mem_lignesRetenues.mp hx₀
  simp only [categoriesTrouvees, List.mem_eraseDups, List.mem_filterMap, List.mem_filter,
    decide_eq_true_eq]
  constructor
  · rintro ⟨x, ⟨hx, hid⟩, hc⟩
    obtain ⟨-, -, hjoin, hretenue⟩ := mem_lignesRetenues.mp hx
    rw [hc, hid, some_mem_leftJoin] at hjoin
    rw [hc] at hretenue
    exact ⟨hjoin, hretenue⟩
  · rintro ⟨hc, hretenue⟩
    refine ⟨⟨x₀.livre, x₀.auteur, some c⟩, ⟨?_, rfl⟩, rfl⟩
    exact mem_lignesRetenues.mpr ⟨hlivre, hauteur, some_mem_leftJoin.mpr hc, hretenue⟩

/-- Serialized, some of the entities are all of them exactly when they are all of them: the key is
part of the view. -/
theorem same_views_iff {α β : Type} [Row α] {t : Table α} {xs ys : List α} {vue : α → β}
    (hvue : ∀ x y, vue x = vue y → Row.id x = Row.id y) (hys : ∀ y ∈ ys, y ∈ t.rows)
    {p : α → Prop} (hxs : ∀ x, x ∈ xs ↔ x ∈ ys ∧ p x) :
    (∀ v, v ∈ xs.map vue ↔ v ∈ ys.map vue) ↔ ∀ y ∈ ys, p y := by
  constructor
  · intro h y hy
    obtain ⟨x, hx, heq⟩ := List.mem_map.mp ((h (vue y)).mpr (List.mem_map_of_mem hy))
    obtain ⟨hmem, hp⟩ := (hxs x).mp hx
    rw [← t.eq_of_id (hys x hmem) (hys y hy) (hvue x y heq)]
    exact hp
  · intro h v
    simp only [List.mem_map]
    constructor
    · rintro ⟨x, hx, rfl⟩
      exact ⟨x, ((hxs x).mp hx).1, rfl⟩
    · rintro ⟨y, hy, rfl⟩
      exact ⟨y, (hxs y).mpr ⟨hy, h y hy⟩, rfl⟩

end Collections

/-! ## The two routes -/

/-- The criteria that `search` passes on. -/
def LivreController.criteres (env : Env) (q : Query) : Criteres :=
  ⟨critereTexte q.titre, critereTexte q.auteur, critereTexte q.categorie, critereTexte q.langue,
    parseDate env q.dateMin, parseDate env q.dateMax⟩

theorem truthy_criteres (env : Env) (q : Query) : (LivreController.criteres env q).Truthy := by
  have htexte : ∀ v s, LivreController.critereTexte v = some s → truthyText s = true := by
    intro v s hs
    simp only [LivreController.critereTexte, Option.ite_none_right_eq_some, Option.some.injEq] at hs
    obtain ⟨ht, rfl⟩ := hs
    exact ht
  constructor
  all_goals
    dsimp only [LivreController.criteres]
    exact htexte _

/-- The body of a search that is not refused for its dates. -/
theorem search_body {env : Env} {q : Query} {db : Db} {vs : List LivreVue}
    (h : LivreController.search env q db = ⟨200, .livres vs⟩) :
    vs = (livresTrouves env (LivreController.criteres env q) db).map fun l =>
      Db.livreVueAvec l (auteursTrouves env (LivreController.criteres env q) db l)
        (categoriesTrouvees env (LivreController.criteres env q) db l) := by
  simp only [LivreController.search] at h
  split at h
  · cases h
  · split at h
    · cases h
    · cases h
      show (searchLivres env (LivreController.criteres env q) db).map _ = _
      rw [searchLivres_eq, List.map_map]
      rfl

theorem showAction_of_mem {db : Db} {l : Livre} (hl : l ∈ db.livres.rows) :
    LivreController.showAction l.id db = ⟨200, .livre (db.livreVue l)⟩ := by
  have hfind : db.livres.find? l.id = some l := db.livres.find?_eq_some.mpr ⟨hl, rfl⟩
  simp only [LivreController.showAction, hfind]

/-- **When a search returns whole books.** Every book of the answer carries the authors and the
categories that `GET /api/livres/{id}` gives, exactly when every book that meets the criteria has only
authors that match the author criterion and only categories that match the category criterion, where
these are given. -/
theorem search_whole_iff (env : Env) (q : Query) (db : Db) (vs : List LivreVue)
    (h : LivreController.search env q db = ⟨200, .livres vs⟩) :
    (∀ v ∈ vs, ∃ w, LivreController.showAction v.id db = ⟨200, .livre w⟩ ∧
      (∀ a, a ∈ v.auteurs ↔ a ∈ w.auteurs) ∧ ∀ c, c ∈ v.categories ↔ c ∈ w.categories) ↔
    ∀ l ∈ db.livres.rows, Repond env (LivreController.criteres env q) db l →
      (∀ s, (LivreController.criteres env q).auteur = some s →
        ∀ a ∈ db.auteursDe l.id, Correspond env s a.nom ∨ Correspond env s a.prenom) ∧
      ∀ s, (LivreController.criteres env q).categorie = some s →
        ∀ c ∈ db.categoriesDe l.id, Correspond env s c.nom := by
  rw [search_body h]
  have hk := truthy_criteres env q
  generalize LivreController.criteres env q = k at hk ⊢
  -- book by book: the authors that came along are those that passed
  have hbook : ∀ l ∈ livresTrouves env k db,
      (∃ w, LivreController.showAction l.id db = ⟨200, .livre w⟩ ∧
        (∀ a, a ∈ (auteursTrouves env k db l).map Db.auteurResume ↔ a ∈ w.auteurs) ∧
        ∀ c, c ∈ (categoriesTrouvees env k db l).map Db.categorieResume ↔ c ∈ w.categories) ↔
      (∀ s, k.auteur = some s →
        ∀ a ∈ db.auteursDe l.id, Correspond env s a.nom ∨ Correspond env s a.prenom) ∧
      ∀ s, k.categorie = some s → ∀ c ∈ db.categoriesDe l.id, Correspond env s c.nom := by
    intro l hl
    have hshow := showAction_of_mem ((mem_livresTrouves hk).mp hl).1
    have hauteurs : (∀ a, a ∈ (auteursTrouves env k db l).map Db.auteurResume ↔
        a ∈ (db.livreVue l).auteurs) ↔ ∀ s, k.auteur = some s →
          ∀ a ∈ db.auteursDe l.id, Correspond env s a.nom ∨ Correspond env s a.prenom := by
      refine (same_views_iff (fun _ _ heq => congrArg AuteurResume.id heq)
        Db.mem_auteurs_of_mem_auteursDe (fun a => mem_auteursTrouves hl)).trans ?_
      simp only [auteurRetenu, andWhere_eq_true hk.auteur, Bool.or_eq_true]
      exact ⟨fun hall s hs a ha => hall a ha s hs, fun hall a ha s hs => hall s hs a ha⟩
    have hcategories : (∀ c, c ∈ (categoriesTrouvees env k db l).map Db.categorieResume ↔
        c ∈ (db.livreVue l).categories) ↔ ∀ s, k.categorie = some s →
          ∀ c ∈ db.categoriesDe l.id, Correspond env s c.nom := by
      refine (same_views_iff (fun _ _ heq => congrArg CategorieResume.id heq)
        Db.mem_categories_of_mem_categoriesDe (fun c => mem_categoriesTrouvees hl)).trans ?_
      simp only [categorieRetenue, andWhere_eq_true hk.categorie]
      exact ⟨fun hall s hs c hc => hall c hc s hs, fun hall c hc s hs => hall s hs c hc⟩
    rw [← hauteurs, ← hcategories]
    constructor
    · rintro ⟨w, hw, ha, hc⟩
      rw [hshow] at hw
      cases hw
      exact ⟨ha, hc⟩
    · rintro ⟨ha, hc⟩
      exact ⟨_, hshow, ha, hc⟩
  rw [List.forall_mem_map]
  constructor
  · intro hall l hl hrepond
    have hfound := (mem_livresTrouves hk).mpr ⟨hl, hrepond⟩
    exact (hbook l hfound).mp (hall l hfound)
  · intro hall l hfound
    obtain ⟨hl, hrepond⟩ := (mem_livresTrouves hk).mp hfound
    exact (hbook l hfound).mpr (hall l hl hrepond)

/-- A catalogue of one book with two categories, number 1 and number 4. -/
def deuxCategories : Db :=
  { AppFixtures.load .plain with
    livres := .ofList [⟨0, "Les Miserables", 0, "Francais", none, none⟩]
    livreAuteur := []
    livreCategorie := [(1, 1), (1, 4)] }

/-- The book, with these categories. -/
def vueDuLivre (categories : List CategorieResume) : LivreVue :=
  ⟨1, "Les Miserables", 0, "Francais", none, [], none, categories, true⟩

def vueRoman : CategorieResume := ⟨1, "Roman", some "Fiction et grands classiques."⟩

def vueHistoire : CategorieResume := ⟨4, "Histoire", some "Recits historiques et biographies."⟩

/-- Searched by its title, the book comes with both. -/
theorem search_whole_titre :
    LivreController.search .sql ⟨some "miser", none, none, none, none, none⟩ deuxCategories =
      ⟨200, .livres [vueDuLivre [vueRoman, vueHistoire]]⟩ ∧
    ∃ w, LivreController.showAction 1 deuxCategories = ⟨200, .livre w⟩ ∧
      ∀ c, c ∈ [vueRoman, vueHistoire] ↔ c ∈ w.categories := by
  have hsearch : LivreController.search .sql ⟨some "miser", none, none, none, none, none⟩
      deuxCategories = ⟨200, .livres [vueDuLivre [vueRoman, vueHistoire]]⟩ := by decide +kernel
  have hnone : LivreController.critereTexte none = none := by decide
  have hwhole := (search_whole_iff .sql _ deuxCategories _ hsearch).mpr ?_
  · obtain ⟨w, hw, -, hc⟩ := hwhole _ List.mem_cons_self
    exact ⟨hsearch, w, hw, hc⟩
  · intro l _ _
    constructor
    · intro s hs
      exact absurd (hnone.symm.trans hs) (by simp)
    · intro s hs
      exact absurd (hnone.symm.trans hs) (by simp)

/-- Searched by one of its categories, it comes without the other. -/
theorem categorie_manquante :
    LivreController.search .sql ⟨none, none, some "roman", none, none, none⟩ deuxCategories =
      ⟨200, .livres [vueDuLivre [vueRoman]]⟩ ∧
    LivreController.showAction 1 deuxCategories =
      ⟨200, .livre (vueDuLivre [vueRoman, vueHistoire])⟩ ∧
    ¬ ∀ c, c ∈ (vueDuLivre [vueRoman]).categories ↔
      c ∈ (vueDuLivre [vueRoman, vueHistoire]).categories := by
  refine ⟨by decide +kernel, by decide +kernel, ?_⟩
  intro h
  have hmissing : vueHistoire ∈ (vueDuLivre [vueRoman]).categories :=
    (h vueHistoire).mpr (by simp [vueDuLivre])
  exact absurd hmissing (by decide)

end Bibliotheque
