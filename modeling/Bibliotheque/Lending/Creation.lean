import Bibliotheque.Emprunt
import Bibliotheque.Fixtures

/-! # Creating a loan is all or nothing

`persistEntity` has six exits, and by the fourth of them it has already passed a reservation to
`remove`. Whichever exit it takes, the database changes as a whole or not at all
(`persistEntity_atomic`), whatever the tables hold: no invariant is assumed here. -/

namespace Bibliotheque

open Lib EmpruntCrudController

/-- Why a loan is refused. -/
inductive RefusedFor (form : EmpruntForm) (db : Db) : Refus → Prop
  /-- the book is reserved by somebody else -/
  | reserve (livre : Livre) (r : Reservations) :
      form.livre.bind db.livres.find? = some livre →
      findReservation (some livre.id) db = some r →
      some r.utilisateur ≠ (form.utilisateur.bind db.utilisateurs.find?).map (·.id) →
      RefusedFor form db reserveParUnAutre
  /-- the member has five open loans -/
  | limite (user : Utilisateur) : form.utilisateur.bind db.utilisateurs.find? = some user →
      5 ≤ countEmpruntsActifs user.id db → RefusedFor form db limiteDeCinq
  /-- the book has an open loan -/
  | emprunte (livre : Livre) (e : Emprunt) : form.livre.bind db.livres.find? = some livre →
      e ∈ db.emprunts.rows → e.livre = livre.id → e.dateRetour = none →
      RefusedFor form db (dejaEmprunte (some livre) e db)
  /-- no member, or no book -/
  | manque : form.utilisateur.bind db.utilisateurs.find? = none ∨
      form.livre.bind db.livres.find? = none → RefusedFor form db .erreur

/-- The checks on a member and a book. -/
structure Pretable (user livre : Nat) (db : Db) : Prop where
  /-- the reservation row that is found, if any, is the member's own -/
  reservation : ∀ r, findReservation (some livre) db = some r → r.utilisateur = user
  membre : countEmpruntsActifs user db < 5
  libre : ∀ e ∈ db.emprunts.rows, e.livre = livre → e.dateRetour ≠ none

/-- `db'` is `db` with one loan more, the reservation `found` gone, and the pointer of the book set to
the loan if that is open. Nothing else differs. -/
structure LoanAdded (now : Int) (form : EmpruntForm) (user livre : Nat)
    (found : Option Reservations) (db db' : Db) : Prop where
  emprunts : db'.emprunts.rows = db.emprunts.rows ++
    [⟨db.emprunts.next, form.dateEmprunt.getD now, form.dateRetour, user, livre⟩]
  reservations : db'.reservations.rows =
    db.reservations.rows.filter (fun r => decide (some r ≠ found))
  livres : db'.livres.rows = db.livres.rows.map fun l =>
    if form.dateRetour = none ∧ l.id = livre then { l with emprunt := some db.emprunts.next } else l
  auteurs : db'.auteurs = db.auteurs
  categories : db'.categories = db.categories
  livreAuteur : db'.livreAuteur = db.livreAuteur
  livreCategorie : db'.livreCategorie = db.livreCategorie
  utilisateurs : db'.utilisateurs = db.utilisateurs

/-- The flush of an accepted loan does exactly that. Removing by key removes the row that was found
and no other, since keys are unique. -/
theorem loanAdded_flush (now : Int) (form : EmpruntForm) (user livre : Nat) (db : Db) :
    LoanAdded now form user livre (findReservation (some livre) db) db
      ((accepted now form ((findReservation (some livre) db).map (·.id)) user livre).flush db) where
  emprunts := rfl
  reservations := by
    apply List.filter_congr
    intro r hr
    cases hfind : findReservation (some livre) db with
    | none => simp [accepted]
    | some r₀ =>
        have hr₀ := (findReservation_eq_some hfind).1
        have hkey : r.id = r₀.id ↔ r = r₀ :=
          ⟨fun hid => db.reservations.eq_of_id hr hr₀ hid, fun h => h ▸ rfl⟩
        simp [accepted, hkey]
  livres := by
    apply List.map_congr_left
    intro l _
    simp only [accepted_pointed]
  auteurs := rfl
  categories := rfl
  livreAuteur := rfl
  livreCategorie := rfl
  utilisateurs := rfl

/-- A member and a book that pass the checks are not refused. -/
theorem accepte_of_pretable {now : Int} {form : EmpruntForm} {db : Db} {user : Utilisateur}
    {livre : Livre} (huser : form.utilisateur.bind db.utilisateurs.find? = some user)
    (hlivre : form.livre.bind db.livres.find? = some livre) (h : Pretable user.id livre.id db) :
    ∃ w, persistEntity now form db = .accepte w := by
  have hissue := persistEntity_issue now form db
  generalize persistEntity now form db = issue at hissue ⊢
  cases hissue with
  | reserve b r hb hr hother =>
      obtain rfl : livre = b := Option.some.inj (hlivre.symm.trans hb)
      rw [huser, h.reservation r hr] at hother
      exact absurd rfl hother
  | sansMembre hnone => simp [huser] at hnone
  | limite u hu hcount =>
      obtain rfl : user = u := Option.some.inj (huser.symm.trans hu)
      have := h.membre
      omega
  | emprunte b e removed hb hcours =>
      obtain rfl : livre = b := Option.some.inj (hlivre.symm.trans hb)
      rw [findEmpruntEnCours_eq_none.mpr h.libre] at hcours
      cases hcours
  | sansLivre removed hnone => simp [hlivre] at hnone
  | accepte => exact ⟨_, rfl⟩

/-- A member and a book are accepted exactly when they pass the checks. -/
theorem accepte_iff_pretable {now : Int} {form : EmpruntForm} {db : Db} {user : Utilisateur}
    {livre : Livre} (huser : form.utilisateur.bind db.utilisateurs.find? = some user)
    (hlivre : form.livre.bind db.livres.find? = some livre) :
    (∃ w, persistEntity now form db = .accepte w) ↔ Pretable user.id livre.id db := by
  constructor
  · rintro ⟨w, heq⟩
    have hissue := persistEntity_issue now form db
    rw [heq] at hissue
    cases hissue with
    | accepte u b hu hb hres hcount hcours =>
        obtain rfl : user = u := Option.some.inj (huser.symm.trans hu)
        obtain rfl : livre = b := Option.some.inj (hlivre.symm.trans hb)
        exact ⟨hres, hcount, findEmpruntEnCours_eq_none.mp hcours⟩
  · exact accepte_of_pretable huser hlivre

/-- A key chosen in the form is the key of the row it was chosen from. -/
theorem bind_find?_of_mem {α : Type} [Row α] {t : Table α} {field : Option Nat} {r : α}
    (hr : r ∈ t.rows) (hfield : field = some (Row.id r)) : field.bind t.find? = some r := by
  rw [hfield, Option.bind_some, t.find?_eq_some]
  exact ⟨hr, rfl⟩

/-- **Loan creation is all or nothing.** A refused request changes nothing, and it is refused for one
of four reasons. Given a member and a book, the request is accepted exactly when the checks pass; and
an accepted request adds the loan, deletes the reservation that was found, which is of that member and
that book, sets the pointer of the book, and does nothing else. -/
theorem persistEntity_atomic (now : Int) (form : EmpruntForm) (db : Db) :
    (∀ motif pending, persistEntity now form db = .refuse motif pending →
      (persistEntity now form db).commit db = db ∧ RefusedFor form db motif) ∧
    (∀ user ∈ db.utilisateurs.rows, ∀ livre ∈ db.livres.rows,
      form.utilisateur = some user.id → form.livre = some livre.id →
      ((∃ w, persistEntity now form db = .accepte w) ↔ Pretable user.id livre.id db)) ∧
    (∀ w, persistEntity now form db = .accepte w →
      ∃ user ∈ db.utilisateurs.rows, ∃ livre ∈ db.livres.rows,
        form.utilisateur = some user.id ∧ form.livre = some livre.id ∧
        (∀ r, findReservation (some livre.id) db = some r →
          r ∈ db.reservations.rows ∧ r.utilisateur = user.id ∧ r.livre = livre.id) ∧
        LoanAdded now form user.id livre.id (findReservation (some livre.id) db) db
          ((persistEntity now form db).commit db)) := by
  have hissue := persistEntity_issue now form db
  refine ⟨?_, ?_, ?_⟩
  · intro motif pending heq
    rw [heq] at hissue ⊢
    refine ⟨rfl, ?_⟩
    cases hissue with
    | reserve livre r hlivre hr hother => exact .reserve livre r hlivre hr hother
    | sansMembre hnone => exact .manque (Or.inl hnone)
    | limite user huser hcount => exact .limite user huser hcount
    | emprunte livre e removed hlivre hcours =>
        have hopen := List.find?_some hcours
        simp only [Bool.and_eq_true, decide_eq_true_eq, Option.some.injEq,
          Emprunt.ouvert_eq_true] at hopen
        exact .emprunte livre e hlivre (List.mem_of_find?_eq_some hcours) hopen.1 hopen.2
    | sansLivre removed hnone => exact .manque (Or.inr hnone)
  · intro user hu livre hl hform hform'
    exact accepte_iff_pretable (bind_find?_of_mem hu hform) (bind_find?_of_mem hl hform')
  · intro w heq
    rw [heq] at hissue ⊢
    cases hissue with
    | accepte user livre huser hlivre hres hcount hcours =>
        obtain ⟨u, hfu, hu⟩ := Option.bind_eq_some_iff.mp huser
        obtain ⟨b, hfb, hb⟩ := Option.bind_eq_some_iff.mp hlivre
        obtain ⟨humem, rfl⟩ := db.utilisateurs.find?_eq_some.mp hu
        obtain ⟨hbmem, rfl⟩ := db.livres.find?_eq_some.mp hb
        refine ⟨user, humem, livre, hbmem, hfu, hfb, ?_, loanAdded_flush now form _ _ db⟩
        intro r hr
        obtain ⟨hmem, hl⟩ := findReservation_eq_some hr
        exact ⟨hmem, hres r hr, hl⟩

/-- The fixtures with a reservation of book 1 at time 0, and these loans. -/
def reservePar (user : Nat) (emprunts : List Emprunt) : Db :=
  { AppFixtures.load .plain with
    emprunts := .ofList emprunts
    reservations := .ofList [⟨0, 0, user, 1⟩] }

/-- Member 2 takes the book he has reserved. Had it been lent to member 3 all the same, he would be
refused after the removal of his reservation was scheduled, and keep it. -/
theorem persistEntity_atomic_reservePar :
    let form : EmpruntForm := ⟨some 2, some 1, none, none⟩
    let prete := reservePar 2 [⟨0, 0, none, 3, 1⟩]
    (∃ user livre, LoanAdded 10 form user livre (some ⟨1, 0, 2, 1⟩) (reservePar 2 [])
      ((persistEntity 10 form (reservePar 2 [])).commit (reservePar 2 []))) ∧
    (∃ motif, persistEntity 10 form prete =
      .refuse motif { UnitOfWork.vide with removed := some 1 }) ∧
    (persistEntity 10 form prete).commit prete = prete := by
  intro form prete
  refine ⟨?_, ⟨_, rfl⟩, ((persistEntity_atomic 10 form prete).1 _ _ rfl).1⟩
  obtain ⟨user, -, livre, -, -, hlivre, -, hadded⟩ :=
    (persistEntity_atomic 10 form (reservePar 2 [])).2.2 _ rfl
  have hfound : findReservation (some livre.id) (reservePar 2 []) = some ⟨1, 0, 2, 1⟩ := by
    rw [← hlivre]
    rfl
  rw [hfound] at hadded
  exact ⟨_, _, hadded⟩

end Bibliotheque
