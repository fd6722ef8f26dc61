import Bibliotheque.Fixtures
import Bibliotheque.Lib.GroupBy
import Bibliotheque.Serialization

/-! # The dashboard of the back office

`DashboardController::index` shows how many loans are running and how many of them are late, and
counts the finished ones by category and by author. The last two figures come from the database: a
`GROUP BY` over the join of a loan with its book and the categories, or authors, of the book. So they
count rows of a join.

By author this is harmless: the key of the group is the key of the author, and a book has an author
once. By category the key is a *name*, compared as the column is collated: a book with two categories
of one name has each of its loans counted twice, and names that only the collation takes for equal
share a line. `exact_iff` says that nothing else goes wrong. -/

namespace Bibliotheque

open Lib

namespace Emprunt

/-- `Emprunt::estEnRetard`, at the time `now`. -/
def estEnRetard (now : Int) (e : Emprunt) : Bool :=
  if e.dateRetour.isSome then false else decide (e.dateEmprunt + days 15 < now)

end Emprunt

/-- A line of one of the two lists. -/
structure Statistique where
  nom : String
  nb : Nat
  deriving DecidableEq, Repr

/-- What the template is given. -/
structure Tableau where
  nbLivres : Nat
  nbAdherents : Nat
  nbEmpruntsEnCours : Nat
  nbEmpruntsEnRetard : Nat
  empruntsFinis : List Statistique
  empruntsFinisAuteurs : List Statistique
  deriving DecidableEq, Repr

namespace DashboardController

/-- `WHERE e.dateRetour IS NOT NULL`. -/
def finis (db : Db) : List Emprunt := db.emprunts.rows.filter fun e => e.dateRetour.isSome

/-- `JOIN e.livre l JOIN l.…`: the book of a loan with each of its categories, or authors. -/
def jointure {γ : Type} (db : Db) (de : Nat → List γ) (e : Emprunt) : List (Livre × γ) :=
  (db.livres.find? e.livre).toList.flatMap fun l => (de l.id).map fun x => (l, x)

/-- `SELECT c.nom as nom, COUNT(l.id) as nb … GROUP BY c.nom`. No `l.id` is `NULL`. -/
def empruntsFinis (env : Env) (db : Db) : List Statistique :=
  (countBy (fun x => env.collation x.2.2.nom) (fun x => x.2.2.nom)
    (joinLabels (jointure db db.categoriesDe) (finis db))).map fun p => ⟨p.1, p.2⟩

/-- `CONCAT(a.prenom, ' ', a.nom)`. -/
def nomComplet (a : Auteur) : String := a.prenom ++ " " ++ a.nom

/-- `SELECT CONCAT(…) as nom, COUNT(l.id) as nb … GROUP BY a.id`. -/
def empruntsFinisAuteurs (db : Db) : List Statistique :=
  (countBy (fun x => x.2.2.id) (fun x => nomComplet x.2.2)
    (joinLabels (jointure db db.auteursDe) (finis db))).map fun p => ⟨p.1, p.2⟩

/-- The loop over the open loans. Each call of `estEnRetard` reads the clock again: `horloge i` is
what it says at the `i`-th loan. -/
def nbRetards (horloge : Nat → Int) (empruntsEnCours : List Emprunt) : Nat :=
  empruntsEnCours.zipIdx.foldl
    (fun nbRetards x => if x.1.estEnRetard (horloge x.2) then nbRetards + 1 else nbRetards) 0

/-- `DashboardController::index`. -/
def index (env : Env) (horloge : Nat → Int) (db : Db) : Tableau where
  nbLivres := db.livres.rows.length
  nbAdherents := db.utilisateurs.rows.length
  nbEmpruntsEnCours := db.emprunts.rows.countP (·.ouvert)
  nbEmpruntsEnRetard := nbRetards horloge (db.emprunts.rows.filter (·.ouvert))
  empruntsFinis := empruntsFinis env db
  empruntsFinisAuteurs := empruntsFinisAuteurs db

/-! ## What the figures should be -/

/-- A finished loan of a book with a category of this name. -/
def finiDeCategorie (db : Db) (nom : String) (e : Emprunt) : Bool :=
  e.dateRetour.isSome && (db.livres.find? e.livre).any fun l =>
    (db.categoriesDe l.id).any fun c => decide (c.nom = nom)

/-- A finished loan of a book of this author. -/
def finiDeAuteur (db : Db) (a : Auteur) (e : Emprunt) : Bool :=
  e.dateRetour.isSome && (db.livres.find? e.livre).any fun l =>
    (db.auteursDe l.id).any fun a' => decide (a' = a)

/-- An open loan made more than fifteen days before `now`. -/
def enRetard (now : Int) (e : Emprunt) : Bool := e.ouvert && decide (days 15 < now - e.dateEmprunt)

/-- The figures count loans. -/
structure Exact (horloge : Nat → Int) (db : Db) (t : Tableau) : Prop where
  /-- a line of the first list counts the finished loans of books with a category of its name … -/
  categories : ∀ s ∈ t.empruntsFinis,
    s.nb = db.emprunts.rows.countP (finiDeCategorie db s.nom)
  /-- … and every name such a loan has is on one line -/
  noms : ∀ nom, (∃ e ∈ db.emprunts.rows, finiDeCategorie db nom e = true) →
    t.empruntsFinis.countP (fun s => decide (s.nom = nom)) = 1
  /-- the second list has one line for each author with a finished loan, counting these loans -/
  auteurs : ∃ as : List Auteur, as.Nodup ∧
    (∀ a, a ∈ as ↔ a ∈ db.auteurs.rows ∧ ∃ e ∈ db.emprunts.rows, finiDeAuteur db a e = true) ∧
    t.empruntsFinisAuteurs = as.map fun a =>
      ⟨nomComplet a, db.emprunts.rows.countP (finiDeAuteur db a)⟩
  /-- a loan is counted as late if it is when the loop comes to it -/
  retards : ∀ debut fin, (∀ i, debut ≤ horloge i ∧ horloge i ≤ fin) →
    db.emprunts.rows.countP (enRetard debut) ≤ t.nbEmpruntsEnRetard ∧
      t.nbEmpruntsEnRetard ≤ db.emprunts.rows.countP (enRetard fin)
  retardsInstant : ∀ now, (∀ i, horloge i = now) →
    t.nbEmpruntsEnRetard = db.emprunts.rows.countP (enRetard now)
  retards_le : t.nbEmpruntsEnRetard ≤ t.nbEmpruntsEnCours

/-- The primary keys of the two join tables. -/
structure ClesPrimaires (db : Db) : Prop where
  livreAuteur : db.livreAuteur.Nodup
  livreCategorie : db.livreCategorie.Nodup

/-- A category of a book that has been lent and returned. -/
def Empruntee (db : Db) (l : Livre) (c : Categorie) : Prop :=
  (∃ e ∈ db.emprunts.rows, e.dateRetour.isSome = true ∧ db.livres.find? e.livre = some l) ∧
    c ∈ db.categoriesDe l.id

/-- Among the categories of books lent and returned, a name stands for one category of a book, and the
collation takes no two names for one. -/
structure NomsSepares (env : Env) (db : Db) : Prop where
  parLivre : ∀ l c c', Empruntee db l c → Empruntee db l c' → c.nom = c'.nom → c = c'
  parCollation : ∀ l c l' c', Empruntee db l c → Empruntee db l' c' →
    env.collation c.nom = env.collation c'.nom → c.nom = c'.nom

/-! ## Late loans -/

/-- A loop that counts what satisfies `p`. -/
theorem foldl_count {α : Type} (p : α → Bool) (l : List α) (n : Nat) :
    l.foldl (fun n x => if p x then n + 1 else n) n = n + l.countP p := by
  induction l generalizing n with
  | nil => rfl
  | cons x l ih =>
      rw [List.foldl_cons, ih, List.countP_cons]
      split <;> omega

theorem nbRetards_eq (horloge : Nat → Int) (es : List Emprunt) :
    nbRetards horloge es = es.zipIdx.countP (fun x => x.1.estEnRetard (horloge x.2)) := by
  rw [nbRetards, foldl_count, Nat.zero_add]

/-- Counting the loans of the loop without their positions. -/
theorem countP_zipIdx_fst (es : List Emprunt) (p : Emprunt → Bool) :
    es.zipIdx.countP (fun x => p x.1) = es.countP p := by
  conv_rhs => rw [← List.zipIdx_map_fst 0 es, List.countP_map]
  rfl

theorem enRetard_eq (now : Int) (e : Emprunt) :
    enRetard now e = (e.estEnRetard now && e.ouvert) := by
  have hdate : days 15 < now - e.dateEmprunt ↔ e.dateEmprunt + days 15 < now := by omega
  cases hret : e.dateRetour with
  | none => simp [enRetard, Emprunt.estEnRetard, Emprunt.ouvert, hret, hdate]
  | some d => simp [enRetard, Emprunt.ouvert, hret]

theorem countP_enRetard (now : Int) (db : Db) :
    db.emprunts.rows.countP (enRetard now) =
      (db.emprunts.rows.filter (·.ouvert)).countP (fun e => e.estEnRetard now) := by
  rw [List.countP_filter]
  apply List.countP_congr
  intro e _
  rw [enRetard_eq]

theorem estEnRetard_mono {now now' : Int} (h : now ≤ now') {e : Emprunt}
    (he : e.estEnRetard now = true) : e.estEnRetard now' = true := by
  unfold Emprunt.estEnRetard at he ⊢
  split at he
  · cases he
  · next hopen =>
    rw [if_neg hopen]
    have := of_decide_eq_true he
    exact decide_eq_true (by omega)

theorem retards_entre (horloge : Nat → Int) (db : Db) {debut fin : Int}
    (h : ∀ i, debut ≤ horloge i ∧ horloge i ≤ fin) :
    db.emprunts.rows.countP (enRetard debut) ≤
        nbRetards horloge (db.emprunts.rows.filter (·.ouvert)) ∧
      nbRetards horloge (db.emprunts.rows.filter (·.ouvert)) ≤
        db.emprunts.rows.countP (enRetard fin) := by
  rw [nbRetards_eq, countP_enRetard, countP_enRetard, ← countP_zipIdx_fst, ← countP_zipIdx_fst]
  constructor
  · apply List.countP_mono_left
    exact fun x _ hx => estEnRetard_mono (h x.2).1 hx
  · apply List.countP_mono_left
    exact fun x _ hx => estEnRetard_mono (h x.2).2 hx

theorem retards_le_enCours (horloge : Nat → Int) (db : Db) :
    nbRetards horloge (db.emprunts.rows.filter (·.ouvert)) ≤
      db.emprunts.rows.countP (·.ouvert) := by
  rw [nbRetards_eq]
  refine List.countP_le_length.trans ?_
  rw [List.length_zipIdx, ← List.countP_eq_length_filter]

/-! ## The join -/

theorem mem_finis {db : Db} {e : Emprunt} :
    e ∈ finis db ↔ e ∈ db.emprunts.rows ∧ e.dateRetour.isSome = true :=
  List.mem_filter

section Jointure

variable {γ : Type} {db : Db} {de : Nat → List γ} {e : Emprunt}

theorem jointure_of_some {l : Livre} (hl : db.livres.find? e.livre = some l) :
    jointure db de e = (de l.id).map fun x => (l, x) := by
  simp [jointure, hl]

theorem jointure_of_none (hl : db.livres.find? e.livre = none) : jointure db de e = [] := by
  simp [jointure, hl]

theorem mem_jointure {x : Livre × γ} :
    x ∈ jointure db de e ↔ db.livres.find? e.livre = some x.1 ∧ x.2 ∈ de x.1.id := by
  obtain ⟨l, c⟩ := x
  simp only [jointure, List.mem_flatMap, Option.mem_toList, List.mem_map, Prod.mk.injEq]
  constructor
  · rintro ⟨l', hl', c', hc', rfl, rfl⟩
    exact ⟨hl', hc'⟩
  · rintro ⟨hl, hc⟩
    exact ⟨l, hl, c, hc, rfl, rfl⟩

/-- A finished loan of a book with some category, or author, is one the join has a row of. -/
theorem fini_iff {p : γ → Bool} {e : Emprunt} :
    (e.dateRetour.isSome && (db.livres.find? e.livre).any fun l => (de l.id).any p) = true ↔
      e.dateRetour.isSome = true ∧ ∃ x ∈ jointure db de e, p x.2 = true := by
  simp only [Bool.and_eq_true, Option.any_eq_true, List.any_eq_true]
  apply and_congr_right'
  constructor
  · rintro ⟨l, hl, c, hc, hp⟩
    exact ⟨(l, c), mem_jointure.mpr ⟨hl, hc⟩, hp⟩
  · rintro ⟨x, hx, hp⟩
    obtain ⟨hl, hc⟩ := mem_jointure.mp hx
    exact ⟨x.1, hl, x.2, hc, hp⟩

/-- The finished loans of a book with some category, or author, are the ones the join counts. -/
theorem countP_finis (p : γ → Bool) :
    (finis db).countP (fun e => (jointure db de e).any fun x => p x.2) =
      db.emprunts.rows.countP (fun e => e.dateRetour.isSome &&
        (db.livres.find? e.livre).any fun l => (de l.id).any p) := by
  rw [finis, List.countP_filter]
  apply List.countP_congr
  intro e _
  rw [fini_iff, Bool.and_eq_true, List.any_eq_true, and_comm]

end Jointure

/-- The rows of a join table that belong to a book lead to different rows of the other table. -/
theorem nodup_filterMap_find? {α : Type} [Row α] {t : Table α} {pairs : List (Nat × Nat)}
    (h : pairs.Nodup) (n : Nat) :
    ((pairs.filter fun p => decide (p.1 = n)).filterMap fun p => t.find? p.2).Nodup := by
  have hsnd : ((pairs.filter fun p => decide (p.1 = n)).map Prod.snd).Nodup := by
    refine (h.filter _).map_on ?_
    intro p hp q hq heq
    have hp' := of_decide_eq_true (List.mem_filter.mp hp).2
    have hq' := of_decide_eq_true (List.mem_filter.mp hq).2
    exact Prod.ext (hp'.trans hq'.symm) heq
  have hcomp : (fun p : Nat × Nat => t.find? p.2) = t.find? ∘ Prod.snd := rfl
  rw [hcomp, ← List.filterMap_map]
  refine hsnd.filterMap ?_
  intro i j r hi hj
  rw [← (t.find?_eq_some.mp hi).2, (t.find?_eq_some.mp hj).2]

theorem nodup_categoriesDe {db : Db} (h : ClesPrimaires db) (n : Nat) : (db.categoriesDe n).Nodup :=
  nodup_filterMap_find? h.livreCategorie n

theorem nodup_auteursDe {db : Db} (h : ClesPrimaires db) (n : Nat) : (db.auteursDe n).Nodup :=
  nodup_filterMap_find? h.livreAuteur n

/-! ## By author -/

/-- The authors of finished loans have one line each. -/
theorem auteurs_exact {db : Db} (h : ClesPrimaires db) :
    ∃ as : List Auteur, as.Nodup ∧
      (∀ a, a ∈ as ↔ a ∈ db.auteurs.rows ∧
        ∃ e ∈ db.emprunts.rows, finiDeAuteur db a e = true) ∧
      empruntsFinisAuteurs db = as.map fun a =>
        ⟨nomComplet a, db.emprunts.rows.countP (finiDeAuteur db a)⟩ := by
  have hapart : NamesApart (jointure db db.auteursDe) (finis db) (fun x => x.2) := by
    intro e _
    cases hl : db.livres.find? e.livre with
    | none => simp [jointure_of_none hl]
    | some l =>
        rw [jointure_of_some hl, List.map_map]
        exact (List.map_id (db.auteursDe l.id)).symm ▸ nodup_auteursDe h l.id
  have hsep : KeySeparates (jointure db db.auteursDe) (finis db) (fun x => x.2.id) (fun x => x.2) := by
    intro e _ x hx e' _ x' hx' hid
    exact db.auteurs.eq_of_id (Db.mem_auteurs_of_mem_auteursDe _ (mem_jointure.mp hx).2)
      (Db.mem_auteurs_of_mem_auteursDe _ (mem_jointure.mp hx').2) hid
  have hcounts := (countsItems_countBy_iff (fun _ _ heq => congrArg Auteur.id heq)).mpr
    ⟨hapart, hsep⟩
  obtain ⟨as, hnodup, hmem, hlines⟩ :=
    hcounts.exists_names fun _ hp =>
      exists_label_of_mem_countBy (fun x : Livre × Auteur => x.2.id) hp
  refine ⟨as, hnodup, ?_, ?_⟩
  · intro a
    rw [hmem a]
    constructor
    · rintro ⟨e, he, x, hx, rfl⟩
      obtain ⟨hmem, hret⟩ := mem_finis.mp he
      refine ⟨Db.mem_auteurs_of_mem_auteursDe _ (mem_jointure.mp hx).2, e, hmem, ?_⟩
      exact fini_iff.mpr ⟨hret, x, hx, decide_eq_true rfl⟩
    · rintro ⟨-, e, he, hfini⟩
      obtain ⟨hret, x, hx, ha⟩ := fini_iff.mp hfini
      exact ⟨e, mem_finis.mpr ⟨he, hret⟩, x, hx, of_decide_eq_true ha⟩
  · have hnames : empruntsFinisAuteurs db =
        (countBy (fun x => x.2.2.id) (fun x => x.2.2)
          (joinLabels (jointure db db.auteursDe) (finis db))).map fun p => ⟨nomComplet p.1, p.2⟩ := by
      simp [empruntsFinisAuteurs, countBy]
    rw [hnames, hlines, List.map_map]
    apply List.map_congr_left
    intro a _
    exact congrArg (Statistique.mk (nomComplet a)) (countP_finis fun a' => decide (a' = a))

/-! ## By category -/

/-- The lines before they are labelled. -/
def lignesCategories (env : Env) (db : Db) : List (String × Nat) :=
  countBy (fun x => env.collation x.2.2.nom) (fun x => x.2.2.nom)
    (joinLabels (jointure db db.categoriesDe) (finis db))

theorem countsItems_iff_exact (env : Env) (db : Db) :
    CountsItems (jointure db db.categoriesDe) (finis db) (fun x => x.2.nom)
        (lignesCategories env db) ↔
      (∀ s ∈ empruntsFinis env db, s.nb = db.emprunts.rows.countP (finiDeCategorie db s.nom)) ∧
      (∀ nom, (∃ e ∈ db.emprunts.rows, finiDeCategorie db nom e = true) →
        (empruntsFinis env db).countP (fun s => decide (s.nom = nom)) = 1) := by
  have hlines : empruntsFinis env db = (lignesCategories env db).map fun p => ⟨p.1, p.2⟩ := rfl
  constructor
  · intro h
    refine ⟨?_, ?_⟩
    · intro s hs
      rw [hlines] at hs
      obtain ⟨p, hp, rfl⟩ := List.mem_map.mp hs
      exact (h.count p hp).trans (countP_finis fun c : Categorie => decide (c.nom = p.1))
    · rintro nom ⟨e, he, hfini⟩
      obtain ⟨hret, x, hx, hnom⟩ := fini_iff.mp hfini
      obtain rfl := of_decide_eq_true hnom
      rw [hlines, List.countP_map]
      exact h.once e (mem_finis.mpr ⟨he, hret⟩) x hx
  · rintro ⟨hcount, honce⟩
    refine ⟨?_, ?_⟩
    · intro p hp
      have hs : (⟨p.1, p.2⟩ : Statistique) ∈ empruntsFinis env db := List.mem_map_of_mem hp
      exact (hcount _ hs).trans (countP_finis fun c : Categorie => decide (c.nom = p.1)).symm
    · intro e he x hx
      obtain ⟨hmem, hret⟩ := mem_finis.mp he
      have hone := honce x.2.nom ⟨e, hmem, fini_iff.mpr ⟨hret, x, hx, decide_eq_true rfl⟩⟩
      rw [hlines, List.countP_map] at hone
      exact hone

theorem nomsSepares_iff (env : Env) {db : Db} (h : ClesPrimaires db) :
    NamesApart (jointure db db.categoriesDe) (finis db) (fun x => x.2.nom) ∧
        KeySeparates (jointure db db.categoriesDe) (finis db) (fun x => env.collation x.2.nom)
          (fun x => x.2.nom) ↔
      NomsSepares env db := by
  constructor
  · rintro ⟨hapart, hsep⟩
    refine ⟨?_, ?_⟩
    · rintro l c c' ⟨⟨e, he, hret, hl⟩, hc⟩ ⟨-, hc'⟩ hnom
      have hnodup := hapart e (mem_finis.mpr ⟨he, hret⟩)
      rw [jointure_of_some hl, List.map_map] at hnodup
      exact List.inj_on_of_nodup_map hnodup hc hc' hnom
    · rintro l c l' c' ⟨⟨e, he, hret, hl⟩, hc⟩ ⟨⟨e', he', hret', hl'⟩, hc'⟩ hkey
      exact hsep e (mem_finis.mpr ⟨he, hret⟩) (l, c) (mem_jointure.mpr ⟨hl, hc⟩)
        e' (mem_finis.mpr ⟨he', hret'⟩) (l', c') (mem_jointure.mpr ⟨hl', hc'⟩) hkey
  · intro hnoms
    refine ⟨?_, ?_⟩
    · intro e he
      obtain ⟨hmem, hret⟩ := mem_finis.mp he
      cases hl : db.livres.find? e.livre with
      | none => simp [jointure_of_none hl]
      | some l =>
          rw [jointure_of_some hl, List.map_map]
          refine (nodup_categoriesDe h l.id).map_on ?_
          intro c hc c' hc' hnom
          exact hnoms.parLivre l c c' ⟨⟨e, hmem, hret, hl⟩, hc⟩ ⟨⟨e, hmem, hret, hl⟩, hc'⟩ hnom
    · intro e he x hx e' he' x' hx' hkey
      obtain ⟨hmem, hret⟩ := mem_finis.mp he
      obtain ⟨hmem', hret'⟩ := mem_finis.mp he'
      obtain ⟨hl, hc⟩ := mem_jointure.mp hx
      obtain ⟨hl', hc'⟩ := mem_jointure.mp hx'
      exact hnoms.parCollation x.1 x.2 x'.1 x'.2 ⟨⟨e, hmem, hret, hl⟩, hc⟩
        ⟨⟨e', hmem', hret', hl'⟩, hc'⟩ hkey

/-- **The dashboard counts loans exactly when category names are kept apart**: no book lent and
returned has two categories of one name, and the collation identifies no two names of such books. -/
theorem exact_iff (env : Env) (horloge : Nat → Int) {db : Db} (h : ClesPrimaires db) :
    Exact horloge db (index env horloge db) ↔ NomsSepares env db := by
  rw [← nomsSepares_iff env h, ← countsItems_countBy_iff
    (fun _ _ hnom => congrArg env.collation hnom)]
  refine Iff.trans ?_ (countsItems_iff_exact env db).symm
  constructor
  · intro hexact
    exact ⟨hexact.categories, hexact.noms⟩
  · rintro ⟨hcategories, hnoms⟩
    refine ⟨hcategories, hnoms, auteurs_exact h, ?_, ?_, retards_le_enCours horloge db⟩
    · intro debut fin hhorloge
      exact retards_entre horloge db hhorloge
    · intro now hnow
      have hbornes : ∀ i, now ≤ horloge i ∧ horloge i ≤ now := by
        intro i
        rw [hnow i]
        exact ⟨Int.le_refl _, Int.le_refl _⟩
      have hentre := retards_entre horloge db hbornes
      exact Nat.le_antisymm hentre.2 hentre.1

/-- The fixtures and a finished loan of "Foundation", which has one category. -/
def foundationRendu : Db :=
  { AppFixtures.load .plain with emprunts := .ofList [⟨0, 0, some 10, 2, 5⟩] }

/-- One finished loan, counted once for its category. -/
theorem exact_foundationRendu :
    ClesPrimaires foundationRendu ∧
    Exact (fun _ => 20) foundationRendu (index .plain (fun _ => 20) foundationRendu) ∧
    (index .plain (fun _ => 20) foundationRendu).empruntsFinis = [⟨"Science-fiction", 1⟩] := by
  have hcles : ClesPrimaires foundationRendu := ⟨by decide, by decide⟩
  have hseule : ∀ l c, Empruntee foundationRendu l c →
      c = ⟨2, "Science-fiction", some "Technologies, futur et voyages spatiaux."⟩ := by
    rintro l c ⟨⟨e, he, -, hl⟩, hc⟩
    obtain rfl := List.mem_singleton.mp he
    obtain rfl := Option.some.inj hl
    exact List.mem_singleton.mp hc
  refine ⟨hcles, (exact_iff .plain (fun _ => 20) hcles).mpr ⟨?_, ?_⟩, by decide⟩
  · intro l c c' hc hc' _
    rw [hseule l c hc, hseule l c' hc']
  · intro l c l' c' hc hc' _
    rw [hseule l c hc, hseule l' c' hc']

/-- The fixtures with a second category "Roman", on a book that has the first, and a finished loan of
that book. -/
def deuxRomans : Db :=
  { AppFixtures.load .plain with
    categories := (AppFixtures.load .plain).categories.insert ⟨0, "Roman", none⟩
    livreCategorie := (AppFixtures.load .plain).livreCategorie ++ [(1, 11)]
    emprunts := .ofList [⟨0, 0, some 10, 2, 1⟩] }

/-- The one loan is counted twice. -/
theorem not_exact_deuxRomans :
    ClesPrimaires deuxRomans ∧
    ⟨"Roman", 2⟩ ∈ (index .plain (fun _ => 20) deuxRomans).empruntsFinis ∧
    deuxRomans.emprunts.rows.countP (finiDeCategorie deuxRomans "Roman") = 1 ∧
    ¬ Exact (fun _ => 20) deuxRomans (index .plain (fun _ => 20) deuxRomans) := by
  have hligne : ⟨"Roman", 2⟩ ∈ (index .plain (fun _ => 20) deuxRomans).empruntsFinis := by decide
  have hun : deuxRomans.emprunts.rows.countP (finiDeCategorie deuxRomans "Roman") = 1 := by decide
  refine ⟨⟨by decide, by decide⟩, hligne, hun, ?_⟩
  intro h
  have hnb := h.categories _ hligne
  rw [hun] at hnb
  cases hnb

end DashboardController

end Bibliotheque
