import Bibliotheque.Invariant.Emprunts
import Bibliotheque.Lending.Creation

/-! # Editing a loan

The form of the back office lets every field of a loan be changed: the book, the member, both dates.
`updateEntity` then sets the pointer of the book the loan is *now* for, and checks nothing.

Two things go wrong. The book an open loan is taken away from keeps on pointing to it
(`livre_delaisse`); nothing else upsets the pointers (`updateEntity_disponible_iff`). And none of the
lending rules that `persistEntity` enforces is looked at (`edition_sans_controle`), so they survive
an edit that opens a loan exactly when they happen to leave room for it
(`updateEntity_rules_iff`). -/

namespace Bibliotheque

open Lib EmpruntCrudController

/-- The form names an existing member and an existing book and gives a date. Anything less ends in an
error. -/
def EmpruntForm.complet (form : EmpruntForm) (db : Db) : Bool :=
  (form.utilisateur.bind db.utilisateurs.find?).isSome &&
    (form.livre.bind db.livres.find?).isSome && form.dateEmprunt.isSome

section UpdateEntity

variable {form : EmpruntForm} {db : Db} {t : Emprunt}

/-- A complete form is bound to the loan and flushed … -/
theorem updateEntity_of_complet (ht : t ∈ db.emprunts.rows) (h : form.complet db = true) :
    ∃ user ∈ db.utilisateurs.rows, ∃ livre ∈ db.livres.rows, ∃ dateEmprunt,
      form.utilisateur = some user.id ∧ form.livre = some livre.id ∧
      updateEntity t.id form db =
        (none, edition t.id user.id livre.id dateEmprunt form.dateRetour db) := by
  simp only [EmpruntForm.complet, Bool.and_eq_true, Option.isSome_iff_exists] at h
  obtain ⟨⟨⟨user, huser⟩, livre, hlivre⟩, dateEmprunt, hdate⟩ := h
  obtain ⟨u, hfu, hu⟩ := Option.bind_eq_some_iff.mp huser
  obtain ⟨b, hfb, hb⟩ := Option.bind_eq_some_iff.mp hlivre
  obtain ⟨humem, rfl⟩ := db.utilisateurs.find?_eq_some.mp hu
  obtain ⟨hbmem, rfl⟩ := db.livres.find?_eq_some.mp hb
  have hfind : db.emprunts.find? t.id = some t := db.emprunts.find?_eq_some.mpr ⟨ht, rfl⟩
  refine ⟨user, humem, livre, hbmem, dateEmprunt, hfu, hfb, ?_⟩
  simp only [updateEntity, hfind, huser, hlivre, hdate]

/-- … and any other changes nothing. -/
theorem updateEntity_of_incomplet (id : Nat) (h : form.complet db = false) :
    updateEntity id form db = (some .erreur, db) := by
  unfold updateEntity
  split
  · next e user livre dateEmprunt he huser hlivre hdate =>
    simp [EmpruntForm.complet, huser, hlivre, hdate] at h
  · rfl

end UpdateEntity

/-! ## Availability -/

/-- The pointer of every book is its open loan, of which there is at most one. -/
structure PointeursExacts (db : Db) : Prop where
  pointeur : ∀ b ∈ db.livres.rows, ∀ e ∈ db.emprunts.rows,
    b.emprunt = some e.id ↔ e.livre = b.id ∧ e.dateRetour = none
  valide : ∀ b ∈ db.livres.rows, ∀ i, b.emprunt = some i → ∃ e ∈ db.emprunts.rows, e.id = i
  unParLivre : ∀ livre : Nat, db.emprunts.rows.countP (ouvertPourLivre livre) ≤ 1

/-- A book is available exactly when it has no open loan. -/
def Disponibilites (db : Db) : Prop :=
  ∀ b ∈ db.livres.rows,
    b.isDisponible = true ↔ ∀ e ∈ db.emprunts.rows, e.livre = b.id → e.dateRetour ≠ none

section Disponibilite

variable {db : Db} {t : Emprunt} {user livre : Nat} {dateEmprunt : Int} {dateRetour : Option Int}

/-- A loan of the table that is not the edited one is there after the edit. -/
theorem mem_edition_of_ne {e : Emprunt} (he : e ∈ db.emprunts.rows) (hne : e.id ≠ t.id) :
    e ∈ (edition t.id user livre dateEmprunt dateRetour db).emprunts.rows :=
  List.mem_map.mpr ⟨e, he, if_neg hne⟩

theorem edited_mem_edition (ht : t ∈ db.emprunts.rows) :
    edited t user livre dateEmprunt dateRetour ∈
      (edition t.id user livre dateEmprunt dateRetour db).emprunts.rows :=
  List.mem_map.mpr ⟨t, ht, if_pos rfl⟩

/-- The book the loan is now for: its pointer follows the loan. -/
theorem disponible_nouveau (h : PointeursExacts db) (ht : t ∈ db.emprunts.rows) {b : Livre}
    (hb : b ∈ db.livres.rows)
    (hautre : ∀ e ∈ db.emprunts.rows, e.id ≠ t.id → e.livre = b.id → e.dateRetour ≠ none) :
    pointeurApresEdition t.id dateRetour b.emprunt = none ↔
      ∀ e ∈ (edition t.id user b.id dateEmprunt dateRetour db).emprunts.rows,
        e.livre = b.id → e.dateRetour ≠ none := by
  cases dateRetour with
  | none =>
      refine iff_of_false (by simp [pointeurApresEdition]) ?_
      intro hnone
      exact hnone _ (edited_mem_edition ht) rfl rfl
  | some d =>
      refine iff_of_true ?_ ?_
      · -- a pointer left in place would be to another open loan of the book
        simp only [pointeurApresEdition, Option.isNone_some, Bool.false_eq_true, if_false]
        split
        · rfl
        · next hpt =>
          cases hi : b.emprunt with
          | none => rfl
          | some i =>
              obtain ⟨e, he, rfl⟩ := h.valide b hb i hi
              obtain ⟨hlivre, hopen⟩ := (h.pointeur b hb e he).mp hi
              have hne : e.id ≠ t.id := fun hid => hpt (by rw [hi, hid])
              exact absurd hopen (hautre e he hne hlivre)
      · intro e he hlivre
        rcases mem_emprunts_edition ht he with rfl | ⟨hmem, hne⟩
        · simp [edited]
        · exact hautre e hmem hne hlivre

/-- Another book: its pointer stays, and is right unless it is to the edited loan. -/
theorem disponible_autre (h : PointeursExacts db) (ht : t ∈ db.emprunts.rows) {b : Livre}
    (hb : b ∈ db.livres.rows) (hne : b.id ≠ livre) :
    (b.emprunt = none ↔
      ∀ e ∈ (edition t.id user livre dateEmprunt dateRetour db).emprunts.rows,
        e.livre = b.id → e.dateRetour ≠ none) ↔ ¬ (t.livre = b.id ∧ t.dateRetour = none) := by
  have hloans : (∀ e ∈ (edition t.id user livre dateEmprunt dateRetour db).emprunts.rows,
      e.livre = b.id → e.dateRetour ≠ none) ↔
      ∀ e ∈ db.emprunts.rows, e.id ≠ t.id → e.livre = b.id → e.dateRetour ≠ none := by
    constructor
    · intro hall e he hid
      exact hall e (mem_edition_of_ne he hid)
    · intro hall e he hlivre
      rcases mem_emprunts_edition ht he with rfl | ⟨hmem, hid⟩
      · exact absurd hlivre.symm hne
      · exact hall e hmem hid hlivre
  rw [hloans]
  constructor
  · -- the only open loan of the book has left it, and the pointer is still there
    rintro hiff ⟨hlivre, hopen⟩
    have hpt : b.emprunt = some t.id := (h.pointeur b hb t ht).mpr ⟨hlivre, hopen⟩
    have hnull : b.emprunt = none := by
      apply hiff.mpr
      intro e he hid hl hopen'
      have heq : e = t := Table.eq_of_countP_le_one (h.unParLivre b.id) he ht
        (ouvertPourLivre_eq_true.mpr ⟨hl, hopen'⟩) (ouvertPourLivre_eq_true.mpr ⟨hlivre, hopen⟩)
      exact hid (congrArg Emprunt.id heq)
    rw [hnull] at hpt
    cases hpt
  · intro hnot
    constructor
    · intro hnull e he _ hlivre hopen
      have hpt := (h.pointeur b hb e he).mpr ⟨hlivre, hopen⟩
      rw [hnull] at hpt
      cases hpt
    · intro hall
      cases hi : b.emprunt with
      | none => rfl
      | some i =>
          obtain ⟨e, he, rfl⟩ := h.valide b hb i hi
          obtain ⟨hlivre, hopen⟩ := (h.pointeur b hb e he).mp hi
          by_cases hid : e.id = t.id
          · rw [db.emprunts.eq_of_id he ht hid] at hlivre hopen
            exact absurd ⟨hlivre, hopen⟩ hnot
          · exact absurd hopen (hall e he hid hlivre)

/-- Availability after the edit, book by book. -/
theorem disponibilites_edition (h : PointeursExacts db) (ht : t ∈ db.emprunts.rows)
    (hautre : ∀ e ∈ db.emprunts.rows, e.id ≠ t.id → e.livre = livre → e.dateRetour ≠ none) :
    Disponibilites (edition t.id user livre dateEmprunt dateRetour db) ↔
      ∀ b ∈ db.livres.rows, b.id ≠ livre → ¬ (t.livre = b.id ∧ t.dateRetour = none) := by
  have hbooks : Disponibilites (edition t.id user livre dateEmprunt dateRetour db) ↔
      ∀ b ∈ db.livres.rows,
        ((if b.id = livre then pointeurApresEdition t.id dateRetour b.emprunt else b.emprunt) = none ↔
          ∀ e ∈ (edition t.id user livre dateEmprunt dateRetour db).emprunts.rows,
            e.livre = b.id → e.dateRetour ≠ none) := by
    unfold Disponibilites
    constructor
    · intro hall b hb
      have hb' := hall _ (List.mem_map.mpr ⟨b, hb, rfl⟩)
      rw [Livre.isDisponible_eq_true] at hb'
      by_cases hid : b.id = livre
      · simpa [hid] using hb'
      · simpa [hid] using hb'
    · intro hall b' hb'
      obtain ⟨b, hb, hid, hpt⟩ := mem_livres_edition hb'
      rw [Livre.isDisponible_eq_true, hpt, hid]
      exact hall b hb
  rw [hbooks]
  refine forall₂_congr ?_
  intro b hb
  by_cases hid : b.id = livre
  · subst hid
    simp only [if_true, ne_eq, not_true_eq_false, false_implies, iff_true]
    exact disponible_nouveau h ht hb hautre
  · simp only [hid, if_false, ne_eq, not_false_eq_true, true_implies]
    exact disponible_autre h ht hb hid

theorem PointeursExacts.disponibilites (h : PointeursExacts db) : Disponibilites db := by
  intro b hb
  rw [Livre.isDisponible_eq_true]
  constructor
  · intro hnull e he hlivre hopen
    have hpt := (h.pointeur b hb e he).mpr ⟨hlivre, hopen⟩
    rw [hnull] at hpt
    cases hpt
  · intro hnone
    cases hi : b.emprunt with
    | none => rfl
    | some i =>
        obtain ⟨e, he, rfl⟩ := h.valide b hb i hi
        obtain ⟨hlivre, hopen⟩ := (h.pointeur b hb e he).mp hi
        exact absurd hopen (hnone e he hlivre)

/-- **When editing a loan keeps availability exact.** From exact pointers, and for a new book without
another open loan: in every case but one, that an open loan is taken to another book and leaves a book
of the catalogue behind. -/
theorem updateEntity_disponible_iff (form : EmpruntForm) (h : PointeursExacts db)
    (ht : t ∈ db.emprunts.rows)
    (hautre : ∀ e ∈ db.emprunts.rows, e.id ≠ t.id → form.livre = some e.livre → e.dateRetour ≠ none) :
    Disponibilites (updateEntity t.id form db).2 ↔
      (form.complet db = true → t.dateRetour = none → (∃ b ∈ db.livres.rows, b.id = t.livre) →
        form.livre = some t.livre) := by
  cases hcomplet : form.complet db with
  | false =>
      rw [updateEntity_of_incomplet t.id hcomplet]
      exact iff_of_true h.disponibilites (fun htrue => Bool.noConfusion htrue)
  | true =>
      obtain ⟨user, -, livre, -, dateEmprunt, -, hlivre, heq⟩ := updateEntity_of_complet ht hcomplet
      rw [heq, hlivre, eq_self true, true_implies]
      rw [disponibilites_edition h ht fun e he hne hl => hautre e he hne (by rw [hlivre, hl])]
      constructor
      · rintro hall hopen ⟨b, hb, hid⟩
        by_contra hne
        refine hall b hb ?_ ⟨hid.symm, hopen⟩
        intro hsame
        rw [← hsame, hid] at hne
        exact hne rfl
      · rintro himp b hb hne ⟨hl, hopen⟩
        have hsame := Option.some.inj (himp hopen ⟨b, hb, hl.symm⟩)
        exact hne (hl.symm.trans hsame.symm)

theorem Inv.pointeursExacts (h : Inv db) : PointeursExacts db :=
  ⟨h.pointeur, h.pointeurValide, h.unParLivre⟩

end Disponibilite

/-- The fixtures after a loan of book 1 to member 2. -/
def premierPret : Db :=
  (persistEntity 0 ⟨some 2, some 1, none, none⟩ (AppFixtures.load .plain)).commit
    (AppFixtures.load .plain)

theorem inv_premierPret : Inv premierPret :=
  (noLoanYet_fixtures .plain).inv.persistEntity (persistEntity_effect _ _ _)

/-- The return of the book keeps availability exact. -/
theorem disponibilites_retour :
    Disponibilites (updateEntity 1 ⟨some 2, some 1, some 0, some 10⟩ premierPret).2 := by
  have ht : (⟨1, 0, none, 2, 1⟩ : Emprunt) ∈ premierPret.emprunts.rows := by decide
  have hautre : ∀ e ∈ premierPret.emprunts.rows, e.id ≠ 1 → some 1 = some e.livre → e.dateRetour ≠ none := by
    decide
  exact (updateEntity_disponible_iff ⟨some 2, some 1, some 0, some 10⟩ inv_premierPret.pointeursExacts ht
    hautre).mpr (fun _ _ _ => rfl)

/-- Moved to book 2, the loan leaves book 1 unavailable without a loan. -/
theorem livre_delaisse :
    let form : EmpruntForm := ⟨some 2, some 2, some 0, none⟩
    PointeursExacts premierPret ∧
    (∀ e ∈ premierPret.emprunts.rows, e.id ≠ 1 → form.livre = some e.livre → e.dateRetour ≠ none) ∧
    (updateEntity 1 form premierPret).1 = none ∧ ¬ Disponibilites (updateEntity 1 form premierPret).2 := by
  intro form
  refine ⟨inv_premierPret.pointeursExacts, by decide, by decide, ?_⟩
  intro h
  have hbook : { AppFixtures.lesMiserables with emprunt := some 1 } ∈
      (updateEntity 1 form premierPret).2.livres.rows := by decide
  have hdispo := (h _ hbook).mpr (by decide)
  exact absurd hdispo (by decide)

/-! ## The lending rules -/

/-- What the staff is told: one open loan a book, five a member, and nobody borrows what somebody
else has reserved. -/
structure LendingRules (db : Db) : Prop where
  unParLivre : ∀ livre : Nat, db.emprunts.rows.countP (ouvertPourLivre livre) ≤ 1
  cinqParMembre : ∀ user : Nat, db.emprunts.rows.countP (ouvertPourMembre user) ≤ 5
  reserve : ∀ e ∈ db.emprunts.rows, e.dateRetour = none →
    ∀ r ∈ db.reservations.rows, r.livre = e.livre → r.utilisateur = e.utilisateur

/-- The edit makes the loan open for a member and a book it was not open for. -/
def Opens (t : Emprunt) (form : EmpruntForm) (user livre : Nat) : Prop :=
  form.utilisateur = some user ∧ form.livre = some livre ∧ form.dateRetour = none ∧
    ¬ (t.dateRetour = none ∧ t.utilisateur = user ∧ t.livre = livre)

/-- Without the loan `t`, there is room for an open loan of the book to the member. -/
structure RoomFor (t : Emprunt) (user livre : Nat) (db : Db) : Prop where
  libre : ∀ e ∈ db.emprunts.rows, e.id ≠ t.id → e.livre = livre → e.dateRetour ≠ none
  membre : (db.emprunts.delete (fun e => decide (e.id = t.id))).rows.countP
    (ouvertPourMembre user) < 5
  reserve : ∀ r ∈ db.reservations.rows, r.livre = livre → r.utilisateur = user

section Rules

variable {db : Db} {t : Emprunt} {user livre : Nat} {dateEmprunt : Int} {dateRetour : Option Int}

theorem LoanInvariant.rules (h : LoanInvariant db) : LendingRules db where
  unParLivre := h.unParLivre
  cinqParMembre := h.cinqParMembre
  reserve := fun e he hopen r hr hl => absurd hopen (h.nonReserve r hr e he hl.symm)

/-- The loans of a kind after the edit: the other ones, and the edited one if it is of that kind. -/
theorem countP_edition (ht : t ∈ db.emprunts.rows) (p : Emprunt → Bool) :
    (edition t.id user livre dateEmprunt dateRetour db).emprunts.rows.countP p =
      (db.emprunts.delete (fun e => decide (e.id = t.id))).rows.countP p +
        if p (edited t user livre dateEmprunt dateRetour) then 1 else 0 :=
  db.emprunts.countP_updateAt ht (fun e => edited e user livre dateEmprunt dateRetour) (fun _ => rfl) p

/-- No other open loan of a book, said as a number. -/
theorem countP_others_eq_zero :
    (db.emprunts.delete (fun e => decide (e.id = t.id))).rows.countP (ouvertPourLivre livre) = 0 ↔
      ∀ e ∈ db.emprunts.rows, e.id ≠ t.id → e.livre = livre → e.dateRetour ≠ none := by
  rw [List.countP_eq_zero]
  constructor
  · intro h e he hne hl hopen
    refine h e (List.mem_filter.mpr ⟨he, by simpa using hne⟩) ?_
    exact ouvertPourLivre_eq_true.mpr ⟨hl, hopen⟩
  · intro h e he hopen
    obtain ⟨hmem, hne⟩ := List.mem_filter.mp he
    obtain ⟨hl, hnone⟩ := ouvertPourLivre_eq_true.mp hopen
    exact h e hmem (by simpa using hne) hl hnone

/-- An edit that does not open the loan for anybody new keeps the rules. -/
theorem rules_edition_of_kept (h : LoanInvariant db) (ht : t ∈ db.emprunts.rows)
    (hkept : dateRetour = none → t.dateRetour = none ∧ t.utilisateur = user ∧ t.livre = livre) :
    LendingRules (edition t.id user livre dateEmprunt dateRetour db) := by
  -- of whatever kind the edited loan is, it was of that kind before
  constructor
  · intro l
    refine (Inv.edition_countP_le ht _ ?_).trans (h.unParLivre l)
    rw [ouvertPourLivre_eq_true, ouvertPourLivre_eq_true]
    rintro ⟨hl, hopen⟩
    obtain ⟨hold, -, hlivre⟩ := hkept hopen
    exact ⟨hlivre.trans hl, hold⟩
  · intro u
    refine (Inv.edition_countP_le ht _ ?_).trans (h.cinqParMembre u)
    rw [ouvertPourMembre_eq_true, ouvertPourMembre_eq_true]
    rintro ⟨hu, hopen⟩
    obtain ⟨hold, huser, -⟩ := hkept hopen
    exact ⟨huser.trans hu, hold⟩
  · intro e he hopen r hr hl
    rcases mem_emprunts_edition ht he with rfl | ⟨hmem, -⟩
    · obtain ⟨hold, -, hlivre⟩ := hkept hopen
      exact absurd hold (h.nonReserve r hr t ht (hlivre.trans hl.symm))
    · exact absurd hopen (h.nonReserve r hr e hmem hl.symm)

/-- An edit that opens the loan keeps the rules exactly when they leave room for it. -/
theorem rules_edition_iff (h : LoanInvariant db) (ht : t ∈ db.emprunts.rows) :
    LendingRules (edition t.id user livre dateEmprunt none db) ↔ RoomFor t user livre db := by
  have hothers : ∀ p : Emprunt → Bool,
      (db.emprunts.delete (fun e => decide (e.id = t.id))).rows.countP p ≤
        db.emprunts.rows.countP p := fun p => db.emprunts.countP_delete_le _ p
  constructor
  · intro hrules
    refine ⟨?_, ?_, ?_⟩
    · have hle := hrules.unParLivre livre
      have hnew : ouvertPourLivre livre (edited t user livre dateEmprunt none) = true :=
        ouvertPourLivre_eq_true.mpr ⟨rfl, rfl⟩
      rw [countP_edition ht, if_pos hnew] at hle
      exact countP_others_eq_zero.mp (by omega)
    · have hle := hrules.cinqParMembre user
      have hnew : ouvertPourMembre user (edited t user livre dateEmprunt none) = true :=
        ouvertPourMembre_eq_true.mpr ⟨rfl, rfl⟩
      rw [countP_edition ht, if_pos hnew] at hle
      omega
    · intro r hr hl
      exact hrules.reserve _ (edited_mem_edition ht) rfl r hr hl
  · intro hroom
    refine ⟨?_, ?_, ?_⟩
    · intro l
      rw [countP_edition ht]
      have hle := (hothers _).trans (h.unParLivre l)
      split
      · next hnew =>
        obtain rfl : livre = l := (ouvertPourLivre_eq_true.mp hnew).1
        rw [countP_others_eq_zero.mpr hroom.libre]
      · exact hle
    · intro u
      rw [countP_edition ht]
      have hle := (hothers _).trans (h.cinqParMembre u)
      split
      · next hnew =>
        obtain rfl : user = u := (ouvertPourMembre_eq_true.mp hnew).1
        exact hroom.membre
      · exact hle
    · intro e he hopen r hr hl
      rcases mem_emprunts_edition ht he with rfl | ⟨hmem, -⟩
      · exact hroom.reserve r hr hl
      · exact absurd hopen (h.nonReserve r hr e hmem hl.symm)

/-- Where there is room, `persistEntity` would accept the loan once `t` is gone. -/
theorem RoomFor.accepte {form : EmpruntForm} {u : Utilisateur} {b : Livre}
    (h : RoomFor t u.id b.id db) (hu : u ∈ db.utilisateurs.rows) (hb : b ∈ db.livres.rows)
    (hfu : form.utilisateur = some u.id) (hfb : form.livre = some b.id) (now : Int) :
    ∃ w, persistEntity now form (db.deleteEmprunt t.id) = .accepte w := by
  have huser : form.utilisateur.bind (db.deleteEmprunt t.id).utilisateurs.find? = some u := by
    rw [hfu, Option.bind_some]
    exact db.utilisateurs.find?_eq_some.mpr ⟨hu, rfl⟩
  -- the book is still there, its pointer may have been emptied
  obtain ⟨b', hlivre, hid⟩ : ∃ b', form.livre.bind (db.deleteEmprunt t.id).livres.find? = some b' ∧
      b'.id = b.id := by
    have hfind : db.livres.find? b.id = some b := db.livres.find?_eq_some.mpr ⟨hb, rfl⟩
    simp only [hfb, Option.bind_some, Db.deleteEmprunt, Db.removeEmprunts, Table.find?_modify, hfind,
      Option.map_some]
    refine ⟨_, rfl, ?_⟩
    split <;> rfl
  refine accepte_of_pretable huser hlivre ⟨?_, ?_, ?_⟩
  · intro r hr
    obtain ⟨hmem, hl⟩ := findReservation_eq_some hr
    exact h.reserve r hmem (hl.trans hid)
  · exact h.membre
  · intro e he hl
    obtain ⟨hmem, hne⟩ := List.mem_filter.mp he
    exact h.libre e hmem (by simpa using hne) (hl.trans hid)

/-- **When editing does not bypass the lending rules.** From a state that satisfies the loan
invariant: an edit that opens a loan is stored only if `persistEntity` would accept it, and the rules
hold after the edit, exactly when the edit is not complete, or opens nothing new, or there is room for
what it opens. -/
theorem updateEntity_rules_iff (now : Int) (form : EmpruntForm) (h : LoanInvariant db)
    (ht : t ∈ db.emprunts.rows) :
    ((∀ user livre, Opens t form user livre → (updateEntity t.id form db).1 = none →
        ∃ w, persistEntity now form (db.deleteEmprunt t.id) = .accepte w) ∧
      LendingRules (updateEntity t.id form db).2) ↔
      (form.complet db = true → ∀ user livre, Opens t form user livre → RoomFor t user livre db) := by
  cases hcomplet : form.complet db with
  | false =>
      rw [updateEntity_of_incomplet t.id hcomplet]
      refine iff_of_true ⟨?_, h.rules⟩ (fun htrue => Bool.noConfusion htrue)
      intro _ _ _ hstored
      cases hstored
  | true =>
      obtain ⟨u, hu, b, hb, dateEmprunt, hfu, hfb, heq⟩ := updateEntity_of_complet ht hcomplet
      rw [heq, eq_self true, true_implies]
      constructor
      · rintro ⟨-, hrules⟩ user livre ⟨hfu', hfb', hopen, -⟩
        obtain rfl : u.id = user := Option.some.inj (hfu.symm.trans hfu')
        obtain rfl : b.id = livre := Option.some.inj (hfb.symm.trans hfb')
        rw [hopen] at hrules
        exact (rules_edition_iff h ht).mp hrules
      · intro hcond
        refine ⟨?_, ?_⟩
        · intro user livre hopens _
          have hroom := hcond user livre hopens
          obtain ⟨hfu', hfb', -, -⟩ := hopens
          obtain rfl : u.id = user := Option.some.inj (hfu.symm.trans hfu')
          obtain rfl : b.id = livre := Option.some.inj (hfb.symm.trans hfb')
          exact hroom.accepte hu hb hfu hfb now
        · by_cases hopens : Opens t form u.id b.id
          · have hroom := hcond _ _ hopens
            rw [hopens.2.2.1]
            exact (rules_edition_iff h ht).mpr hroom
          · refine rules_edition_of_kept h ht ?_
            intro hopen
            by_contra hnot
            exact hopens ⟨hfu, hfb, hopen, hnot⟩

end Rules

/-- The loan of book 1 becomes one of book 2, which nobody else has or wants. -/
theorem rules_autreLivre :
    let form : EmpruntForm := ⟨some 2, some 2, some 0, none⟩
    Opens ⟨1, 0, none, 2, 1⟩ form 2 2 ∧ LendingRules (updateEntity 1 form premierPret).2 := by
  intro form
  have ht : (⟨1, 0, none, 2, 1⟩ : Emprunt) ∈ premierPret.emprunts.rows := by decide
  have hopens : Opens ⟨1, 0, none, 2, 1⟩ form 2 2 := ⟨rfl, rfl, rfl, by decide⟩
  refine ⟨hopens, ((updateEntity_rules_iff 5 form inv_premierPret.loanInvariant ht).mpr ?_).2⟩
  rintro - user livre ⟨hu, hl, -, -⟩
  obtain rfl := Option.some.inj hu
  obtain rfl := Option.some.inj hl
  exact ⟨by decide, by decide, by decide⟩

/-- Book 1 has been returned and lent again, to member 3. -/
def repris : Db :=
  let rendu := (updateEntity 1 ⟨some 2, some 1, some 0, some 10⟩ premierPret).2
  (persistEntity 20 ⟨some 3, some 1, none, none⟩ rendu).commit rendu

theorem inv_repris : Inv repris := by
  have hkeeps : Inv.KeepsLoan premierPret 1 ⟨some 2, some 1, some 0, some 10⟩ := by
    unfold Inv.KeepsLoan
    decide
  have hrendu : Inv (updateEntity 1 ⟨some 2, some 1, some 0, some 10⟩ premierPret).2 :=
    inv_premierPret.updateEntity hkeeps (updateEntity_effect _ _ _)
  exact hrendu.persistEntity (persistEntity_effect 20 ⟨some 3, some 1, none, none⟩ _)

/-- Clearing the return date of the old loan lends the book twice, where `persistEntity` refuses. -/
theorem edition_sans_controle :
    let form : EmpruntForm := ⟨some 2, some 1, some 0, none⟩
    LoanInvariant repris ∧ (⟨1, 0, some 10, 2, 1⟩ : Emprunt) ∈ repris.emprunts.rows ∧
    Opens ⟨1, 0, some 10, 2, 1⟩ form 2 1 ∧ (updateEntity 1 form repris).1 = none ∧
    (¬ ∃ w, persistEntity 30 form (repris.deleteEmprunt 1) = .accepte w) ∧
    ¬ LendingRules (updateEntity 1 form repris).2 := by
  intro form
  refine ⟨inv_repris.loanInvariant, by decide, ⟨rfl, rfl, rfl, by decide⟩, by decide, ?_, ?_⟩
  · rintro ⟨w, hw⟩
    have hrefus : (persistEntity 30 form (repris.deleteEmprunt 1)).motif? ≠ none := by decide
    rw [hw] at hrefus
    exact hrefus rfl
  · intro h
    exact absurd (h.unParLivre 1) (by decide)

end Bibliotheque
