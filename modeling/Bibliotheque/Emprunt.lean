import Bibliotheque.Php
import Bibliotheque.Serialization

/-! # Loans

`EmpruntCrudController` is how a loan is created, edited and deleted. `persistEntity` checks the
reservation of the book, the member's open loans and the book's open loan, scheduling changes on the
entity manager in between; nothing reaches the database before the flush at its very end. A
`UnitOfWork` is what is scheduled at an exit, `Issue` the exit itself, and only an accepted one is
flushed.

`Livre::$emprunt` duplicates what the loan rows say: it points to the open loan of the book. The
functions here are the ones that write it. -/

namespace Bibliotheque

open Lib

/-- The loan entity as the back-office form fills it: any field may be left empty. -/
structure EmpruntForm where
  utilisateur : Option Nat
  livre : Option Nat
  dateEmprunt : Option Int
  dateRetour : Option Int
  deriving DecidableEq, Repr

/-- What is scheduled on the entity manager and not yet written. -/
structure UnitOfWork where
  /-- the reservation passed to `remove` -/
  removed : Option Nat
  /-- the book whose `setEmprunt` was called with the new loan -/
  pointed : Option Nat
  /-- the loan passed to `persist` -/
  persisted : Option Emprunt
  deriving DecidableEq, Repr

namespace UnitOfWork

def vide : UnitOfWork := ⟨none, none, none⟩

/-- One transaction: the scheduled reservation is deleted, the loan inserted under the next key and
the book made to point to it. Deleting a row that is gone already does nothing. -/
def flush (w : UnitOfWork) (db : Db) : Db :=
  { db with
    reservations := db.reservations.delete (fun r => decide (some r.id = w.removed))
    livres := db.livres.modify
      (fun l => if some l.id = w.pointed then { l with emprunt := some db.emprunts.next } else l)
      (by intro l; dsimp only [Livre.row_id]; split <;> rfl)
    emprunts := match w.persisted with
      | none => db.emprunts
      | some e => db.emprunts.insert e }

end UnitOfWork

/-- How a request is turned down. -/
inductive Refus where
  /-- `throw new \Exception(…)` -/
  | exception (message : String)
  /-- `addFlash('danger', …)` and `return` -/
  | flash (message : String)
  /-- a call on `null`, or a `NOT NULL` column left empty -/
  | erreur
  deriving DecidableEq, Repr

/-- How `persistEntity` ends, with what was scheduled by then. -/
inductive Issue where
  | refuse (motif : Refus) (pending : UnitOfWork)
  | accepte (pending : UnitOfWork)
  deriving DecidableEq, Repr

/-- Why the request was refused, if it was. -/
def Issue.motif? : Issue → Option Refus
  | .refuse motif _ => some motif
  | .accepte _ => none

/-- A refused request ends without a flush. -/
def Issue.commit : Issue → Db → Db
  | .refuse _ _, db => db
  | .accepte w, db => w.flush db

namespace EmpruntCrudController

/-- `findOneBy(['livre' => $livre])` on the reservations, expired ones included. -/
def findReservation (livre : Option Nat) (db : Db) : Option Reservations :=
  db.reservations.rows.find? (fun r => decide (some r.livre = livre))

/-- `count($user->getEmprunts()->filter(dateRetour === null))`. -/
def countEmpruntsActifs (user : Nat) (db : Db) : Nat :=
  db.emprunts.rows.countP (fun e => decide (e.utilisateur = user) && e.ouvert)

/-- `findOneBy(['livre' => $livre, 'dateRetour' => null])`. -/
def findEmpruntEnCours (livre : Option Nat) (db : Db) : Option Emprunt :=
  db.emprunts.rows.find? (fun e => decide (some e.livre = livre) && e.ouvert)

def reserveParUnAutre : Refus := .exception "Ce livre est reserve par un autre adherent !"

def limiteDeCinq : Refus :=
  .flash "Action impossible : cet adherent a deja atteint la limite de 5 emprunts en cours !"

def dejaEmprunte (livre : Option Livre) (e : Emprunt) (db : Db) : Refus :=
  let emprunteur := db.utilisateurs.find? e.utilisateur
  .flash ("Action impossible : le livre \"" ++ (livre.map (·.titre)).getD "" ++
    "\" est deja emprunte par " ++ (emprunteur.map (·.prenom)).getD "" ++ " " ++
    (emprunteur.map (·.nom)).getD "" ++ " !")

/-- The row `parent::persistEntity` inserts. -/
def nouvelEmprunt (now : Int) (form : EmpruntForm) (user livre : Nat) : Emprunt where
  id := 0
  dateEmprunt := form.dateEmprunt.getD now
  dateRetour := form.dateRetour
  utilisateur := user
  livre := livre

/-- What an accepted request has scheduled. -/
def accepted (now : Int) (form : EmpruntForm) (removed : Option Nat) (user livre : Nat) :
    UnitOfWork where
  removed := removed
  pointed := if form.dateRetour.isNone then some livre else none
  persisted := some (nouvelEmprunt now form user livre)

/-- `EmpruntCrudController::persistEntity`. -/
def persistEntity (now : Int) (form : EmpruntForm) (db : Db) : Issue :=
  let livre := form.livre.bind db.livres.find?
  let user := form.utilisateur.bind db.utilisateurs.find?
  let reservation := findReservation (livre.map (·.id)) db
  if reservation.any (fun r => decide (some r.utilisateur ≠ user.map (·.id))) then
    .refuse reserveParUnAutre .vide
  else
    match user with
    -- `$user->getEmprunts()` on `null`
    | none => .refuse .erreur .vide
    | some user =>
        if 5 ≤ countEmpruntsActifs user.id db then
          .refuse limiteDeCinq .vide
        else
          let removed := reservation.map (·.id)
          match findEmpruntEnCours (livre.map (·.id)) db with
          | some e => .refuse (dejaEmprunte livre e db) { UnitOfWork.vide with removed := removed }
          | none =>
              match livre with
              -- `$livre->setEmprunt` on `null`, or an empty `livre_id` at the flush
              | none => .refuse .erreur { UnitOfWork.vide with removed := removed }
              | some livre => .accepte (accepted now form removed user.id livre.id)

/-- The loan row after the form has been bound to it. -/
def edited (e : Emprunt) (user livre : Nat) (dateEmprunt : Int) (dateRetour : Option Int) :
    Emprunt :=
  { e with dateEmprunt := dateEmprunt, dateRetour := dateRetour, utilisateur := user, livre := livre }

/-- The new value of the pointer of the book the edited loan is now for. -/
def pointeurApresEdition (e : Nat) (dateRetour : Option Int) (emprunt : Option Nat) : Option Nat :=
  if dateRetour.isNone then some e
  else if emprunt = some e then none
  else emprunt

/-- The database after the form has been bound to the loan `id` and flushed. -/
def edition (id user livre : Nat) (dateEmprunt : Int) (dateRetour : Option Int) (db : Db) : Db :=
  { db with
    emprunts := db.emprunts.updateAt id
      (fun e => edited e user livre dateEmprunt dateRetour) (fun _ => rfl)
    livres := db.livres.updateAt livre
      (fun l => { l with emprunt := pointeurApresEdition id dateRetour l.emprunt })
      (fun _ => rfl) }

/-- `EmpruntCrudController::updateEntity` on the loan with key `id`. An empty field ends in an error
(a call on `null`, a setter that does not take `null`, or a `NOT NULL` column), which writes
nothing. Only the book the loan is now for is touched. -/
def updateEntity (id : Nat) (form : EmpruntForm) (db : Db) : Option Refus × Db :=
  match db.emprunts.find? id, form.utilisateur.bind db.utilisateurs.find?,
      form.livre.bind db.livres.find?, form.dateEmprunt with
  | some e, some user, some livre, some dateEmprunt =>
      (none, edition e.id user.id livre.id dateEmprunt form.dateRetour db)
  | _, _, _, _ => (some .erreur, db)

end EmpruntCrudController

namespace Db

/-- Delete loans; `livre.emprunt_id` is `ON DELETE SET NULL`. -/
def removeEmprunts (p : Emprunt → Bool) (db : Db) : Db :=
  { db with
    emprunts := db.emprunts.delete p
    livres := db.livres.modify
      (fun l =>
        if db.emprunts.rows.any (fun e => p e && decide (l.emprunt = some e.id)) then
          { l with emprunt := none }
        else l)
      (by intro l; dsimp only [Livre.row_id]; split <;> rfl) }

/-- Deletion of a loan in the back office. -/
def deleteEmprunt (id : Nat) (db : Db) : Db := db.removeEmprunts (fun e => decide (e.id = id))

/-- Deletion of a member: `orphanRemoval` removes his reservations and loans first. -/
def deleteUtilisateur (id : Nat) (db : Db) : Db :=
  let db' := db.removeEmprunts (fun e => decide (e.utilisateur = id))
  { db' with
    reservations := db'.reservations.delete (fun r => decide (r.utilisateur = id))
    utilisateurs := db'.utilisateurs.delete (fun u => decide (u.id = id)) }

end Db

/-! ## What `persistEntity` and `updateEntity` do -/

namespace EmpruntCrudController

theorem findReservation_eq_none {livre : Nat} {db : Db} :
    findReservation (some livre) db = none ↔ ∀ r ∈ db.reservations.rows, r.livre ≠ livre := by
  simp [findReservation]

theorem findReservation_eq_some {livre : Nat} {db : Db} {r : Reservations}
    (h : findReservation (some livre) db = some r) : r ∈ db.reservations.rows ∧ r.livre = livre :=
  ⟨List.mem_of_find?_eq_some h, by simpa [findReservation] using List.find?_some h⟩

theorem findEmpruntEnCours_eq_none {livre : Nat} {db : Db} :
    findEmpruntEnCours (some livre) db = none ↔
      ∀ e ∈ db.emprunts.rows, e.livre = livre → e.dateRetour ≠ none := by
  simp [findEmpruntEnCours]

/-- **Every way `persistEntity` can end**, with what was found on the way there. The reservation is
looked at before the member, the member before the book. -/
inductive PersistIssue (now : Int) (form : EmpruntForm) (db : Db) : Issue → Prop
  | reserve (livre : Livre) (r : Reservations) :
      form.livre.bind db.livres.find? = some livre →
      findReservation (some livre.id) db = some r →
      some r.utilisateur ≠ (form.utilisateur.bind db.utilisateurs.find?).map (·.id) →
      PersistIssue now form db (.refuse reserveParUnAutre .vide)
  | sansMembre : form.utilisateur.bind db.utilisateurs.find? = none →
      PersistIssue now form db (.refuse .erreur .vide)
  | limite (user : Utilisateur) : form.utilisateur.bind db.utilisateurs.find? = some user →
      5 ≤ countEmpruntsActifs user.id db →
      PersistIssue now form db (.refuse limiteDeCinq .vide)
  | emprunte (livre : Livre) (e : Emprunt) (removed : Option Nat) :
      form.livre.bind db.livres.find? = some livre →
      findEmpruntEnCours (some livre.id) db = some e →
      PersistIssue now form db
        (.refuse (dejaEmprunte (some livre) e db) { UnitOfWork.vide with removed := removed })
  | sansLivre (removed : Option Nat) : form.livre.bind db.livres.find? = none →
      PersistIssue now form db (.refuse .erreur { UnitOfWork.vide with removed := removed })
  | accepte (user : Utilisateur) (livre : Livre) :
      form.utilisateur.bind db.utilisateurs.find? = some user →
      form.livre.bind db.livres.find? = some livre →
      (∀ r, findReservation (some livre.id) db = some r → r.utilisateur = user.id) →
      countEmpruntsActifs user.id db < 5 →
      findEmpruntEnCours (some livre.id) db = none →
      PersistIssue now form db (.accepte (accepted now form
        ((findReservation (some livre.id) db).map (·.id)) user.id livre.id))

theorem persistEntity_issue (now : Int) (form : EmpruntForm) (db : Db) :
    PersistIssue now form db (persistEntity now form db) := by
  simp only [persistEntity]
  cases hlivre : form.livre.bind db.livres.find? with
  | none =>
      -- without a book there is no reservation and no open loan to find
      have hres : findReservation none db = none := by simp [findReservation, List.find?_eq_none]
      have hcours : findEmpruntEnCours none db = none := by
        simp [findEmpruntEnCours, List.find?_eq_none]
      simp only [Option.map_none, hres, hcours, Option.any_none, Bool.false_eq_true, if_false]
      split
      · next huser => exact .sansMembre huser
      · next user huser =>
        split
        · next hcount => exact .limite user huser hcount
        · exact .sansLivre _ hlivre
  | some livre =>
      simp only [Option.map_some]
      split
      · next hres =>
        obtain ⟨r, hr, hother⟩ := (Option.any_eq_true _ _).mp hres
        exact .reserve livre r hlivre hr (by simpa using hother)
      · next hres =>
        split
        · next huser => exact .sansMembre huser
        · next user huser =>
          rw [huser] at hres
          split
          · next hcount => exact .limite user huser hcount
          · next hcount =>
            split
            · next e hcours => exact .emprunte livre e _ hlivre hcours
            · next hcours =>
              refine .accepte user livre huser hlivre ?_ (by omega) hcours
              intro r hr
              rw [hr] at hres
              simpa using hres

/-- **Everything `persistEntity` can do** to the database: nothing, or one flush after all three
checks have passed for an existing member and an existing book. -/
inductive PersistEffect (now : Int) (form : EmpruntForm) (db : Db) : Db → Prop
  | rien : PersistEffect now form db db
  | pret (user : Utilisateur) (livre : Livre) (removed : Option Nat) :
      user ∈ db.utilisateurs.rows → livre ∈ db.livres.rows →
      (∀ r, findReservation (some livre.id) db = some r →
        r.utilisateur = user.id ∧ removed = some r.id) →
      countEmpruntsActifs user.id db < 5 →
      findEmpruntEnCours (some livre.id) db = none →
      PersistEffect now form db ((accepted now form removed user.id livre.id).flush db)

theorem persistEntity_effect (now : Int) (form : EmpruntForm) (db : Db) :
    PersistEffect now form db ((persistEntity now form db).commit db) := by
  have hissue := persistEntity_issue now form db
  generalize persistEntity now form db = issue at hissue ⊢
  cases hissue with
  | accepte user livre huser hlivre hres hcount hcours =>
      obtain ⟨u, -, hu⟩ := Option.bind_eq_some_iff.mp huser
      obtain ⟨b, -, hb⟩ := Option.bind_eq_some_iff.mp hlivre
      refine .pret user livre _ (db.utilisateurs.find?_eq_some.mp hu).1
        (db.livres.find?_eq_some.mp hb).1 ?_ hcount hcours
      intro r hr
      exact ⟨hres r hr, by rw [hr, Option.map_some]⟩
  | _ => exact .rien

theorem accepted_pointed {now : Int} {form : EmpruntForm} {removed : Option Nat}
    {user livre id : Nat} :
    some id = (accepted now form removed user livre).pointed ↔
      form.dateRetour = none ∧ id = livre := by
  cases h : form.dateRetour <;> simp [accepted, h]

/-- A book after the flush: the lent one points to the new loan, the others are as before. -/
theorem mem_livres_flush {now : Int} {form : EmpruntForm} {removed : Option Nat}
    {user livre : Nat} {db : Db} {b' : Livre}
    (h : b' ∈ ((accepted now form removed user livre).flush db).livres.rows) :
    ∃ b ∈ db.livres.rows, b'.id = b.id ∧
      b'.emprunt =
        if form.dateRetour = none ∧ b.id = livre then some db.emprunts.next else b.emprunt := by
  obtain ⟨b, hb, rfl⟩ := List.mem_map.mp h
  refine ⟨b, hb, ?_⟩
  simp only [accepted_pointed]
  split <;> exact ⟨rfl, rfl⟩

/-- A loan after the flush is an earlier one or the new one. -/
theorem mem_emprunts_flush {now : Int} {form : EmpruntForm} {removed : Option Nat}
    {user livre : Nat} {db : Db} {e : Emprunt}
    (h : e ∈ ((accepted now form removed user livre).flush db).emprunts.rows) :
    e ∈ db.emprunts.rows ∨ e = { nouvelEmprunt now form user livre with id := db.emprunts.next } := by
  rcases List.mem_append.mp h with hold | hnew
  · exact Or.inl hold
  · exact Or.inr (List.mem_singleton.mp hnew)

/-- **Everything `updateEntity` can do**: nothing, or bind the form to an existing loan and set the
pointer of the book the loan is now for. -/
inductive UpdateEffect (id : Nat) (form : EmpruntForm) (db : Db) : Db → Prop
  | rien : UpdateEffect id form db db
  | edition (e : Emprunt) (user livre : Nat) (dateEmprunt : Int) :
      e ∈ db.emprunts.rows → e.id = id → form.utilisateur = some user → form.livre = some livre →
      UpdateEffect id form db (edition id user livre dateEmprunt form.dateRetour db)

theorem updateEntity_effect (id : Nat) (form : EmpruntForm) (db : Db) :
    UpdateEffect id form db (updateEntity id form db).2 := by
  unfold updateEntity
  split
  · next e user livre dateEmprunt he huser hlivre hdate =>
    obtain ⟨hmem, rfl⟩ := db.emprunts.find?_eq_some.mp he
    obtain ⟨u, hfu, hu⟩ := Option.bind_eq_some_iff.mp huser
    obtain ⟨b, hfb, hb⟩ := Option.bind_eq_some_iff.mp hlivre
    obtain ⟨-, rfl⟩ := db.utilisateurs.find?_eq_some.mp hu
    obtain ⟨-, rfl⟩ := db.livres.find?_eq_some.mp hb
    exact .edition e user.id livre.id dateEmprunt hmem rfl hfu hfb
  · exact .rien

/-- A loan after the edit is the edited one or another, unchanged one. -/
theorem mem_emprunts_edition {t : Emprunt} {user livre : Nat} {dateEmprunt : Int}
    {dateRetour : Option Int} {db : Db} (ht : t ∈ db.emprunts.rows) {e : Emprunt}
    (he : e ∈ (edition t.id user livre dateEmprunt dateRetour db).emprunts.rows) :
    e = edited t user livre dateEmprunt dateRetour ∨ (e ∈ db.emprunts.rows ∧ e.id ≠ t.id) := by
  obtain ⟨e₀, he₀, rfl⟩ := List.mem_map.mp he
  split
  · next heq => exact Or.inl (by rw [db.emprunts.eq_of_id he₀ ht heq])
  · next hne => exact Or.inr ⟨he₀, hne⟩

/-- A book after the edit: only the pointer of the loan's new book may differ. -/
theorem mem_livres_edition {id user livre : Nat} {dateEmprunt : Int} {dateRetour : Option Int}
    {db : Db} {b' : Livre}
    (h : b' ∈ (edition id user livre dateEmprunt dateRetour db).livres.rows) :
    ∃ b ∈ db.livres.rows, b'.id = b.id ∧
      b'.emprunt =
        if b.id = livre then pointeurApresEdition id dateRetour b.emprunt else b.emprunt := by
  obtain ⟨b, hb, rfl⟩ := List.mem_map.mp h
  refine ⟨b, hb, ?_⟩
  simp only [Livre.row_id]
  split <;> exact ⟨rfl, rfl⟩

/-- The edit keeps the keys of the loans. -/
theorem exists_id_edition {id user livre : Nat} {dateEmprunt : Int} {dateRetour : Option Int}
    {db : Db} {e : Emprunt} (he : e ∈ db.emprunts.rows) :
    ∃ e' ∈ (edition id user livre dateEmprunt dateRetour db).emprunts.rows, e'.id = e.id := by
  refine ⟨_, List.mem_map.mpr ⟨e, he, rfl⟩, ?_⟩
  split <;> rfl

end EmpruntCrudController

end Bibliotheque
