import Bibliotheque.Lib.Interleave
import Bibliotheque.Reservation
import Bibliotheque.Emprunt

/-! # Concurrent requests, statement by statement

`ReservationController::create` and `EmpruntCrudController::persistEntity` as processes whose atomic
actions are their database statements: nothing encloses them in a transaction, takes a lock, or
relies on a constraint of the schema. Between two statements any other request may run and the
clock, which all requests share, may advance; it never goes back.

A statement is taken together with the PHP that follows it, up to the next one: the cutoff of a
reservation request is computed when the book has been loaded, the date of its row when the last
query has answered. `create_alone` and `persistEntity_alone` say that a request nobody interrupts
does exactly what the sequential model does. -/

namespace Bibliotheque

open Lib ReservationsRepository EmpruntCrudController

/-- What the requests share. -/
structure Monde where
  db : Db
  now : Int

/-- Time passes. -/
def Monde.tick (m : Monde) (δ : Nat) : Monde := { m with now := m.now + δ }

/-- Where a `POST /api/reservation` stands: the statement it executes next, with the book as it was
loaded, the cutoff `c` of the request and the date `d` of the new row. -/
inductive ResaPc where
  | load
  | purge (livre : Livre) (c : Int)
  | count (livre : Livre) (c : Int)
  | select (livre : Livre) (c : Int)
  | insert (livre : Livre) (c d : Int)
  | fini (r : Response)
  deriving DecidableEq, Repr

/-- Where a loan creation stands: the reservation scheduled for removal, the default loan date. -/
inductive PretPc where
  | reservation
  | emprunts (removed : Option Nat)
  | enCours (removed : Option Nat) (d : Int)
  | flush (removed : Option Nat) (d : Int)
  | fini (r : Option Refus)
  deriving DecidableEq, Repr

/-- A request in progress: for a reservation the member and the requested book, for a loan the form
with the member and the book bound to it. -/
inductive Proc where
  | resa (user livre : Nat) (pc : ResaPc)
  | pret (form : EmpruntForm) (user livre : Nat) (pc : PretPc)
  deriving DecidableEq, Repr

namespace ResaPc

/-- The next statement of `ReservationController::create`. -/
def exec (user livreId : Nat) (m : Monde) : ResaPc → Monde × ResaPc
  | load =>
      match m.db.livres.find? livreId with
      | none => (m, fini (.message 404 "Livre non trouve"))
      | some livre => (m, purge livre (cutoff m.now))
  | purge livre c => ({ m with db := (purgeExpired c m.db).2 }, count livre c)
  | count livre c =>
      if 3 ≤ countActiveForUser user c m.db then
        (m, fini (.message 409 "Limite de 3 reservations atteinte"))
      -- no statement: the pointer is the one of the entity loaded at the start
      else if livre.emprunt.isSome then
        (m, fini (.message 409 "Livre deja emprunte"))
      else
        (m, select livre c)
  | select livre c =>
      if (findActiveByLivre livre.id c m.db).isSome then
        (m, fini (.message 409 "Livre deja reserve"))
      else
        (m, insert livre c m.now)
  | insert livre _ d =>
      ({ m with db := ReservationController.inserer d user livre.id m.db },
        fini ⟨201, .reservation ⟨m.db.reservations.next, d, some ⟨livre.id, livre.titre⟩⟩⟩)
  | fini r => (m, fini r)

end ResaPc

namespace PretPc

/-- The next statement of `EmpruntCrudController::persistEntity`. -/
def exec (form : EmpruntForm) (user livre : Nat) (m : Monde) : PretPc → Monde × PretPc
  | reservation =>
      let r := findReservation (some livre) m.db
      if r.any (fun r => decide (some r.utilisateur ≠ some user)) then
        (m, fini (some reserveParUnAutre))
      else
        (m, emprunts (r.map (·.id)))
  | emprunts removed =>
      if 5 ≤ countEmpruntsActifs user m.db then
        (m, fini (some limiteDeCinq))
      else
        (m, enCours removed m.now)
  | enCours removed d =>
      match findEmpruntEnCours (some livre) m.db with
      | some e => (m, fini (some (dejaEmprunte (m.db.livres.find? livre) e m.db)))
      | none => (m, flush removed d)
  -- `removed` may be gone by now: the transaction then deletes nothing
  | flush removed d =>
      ({ m with db := (accepted d form removed user livre).flush m.db }, fini none)
  | fini r => (m, fini r)

end PretPc

namespace Proc

/-- The next statement of a request. -/
def exec (m : Monde) : Proc → Monde × Proc
  | resa user livre pc => ((pc.exec user livre m).1, .resa user livre (pc.exec user livre m).2)
  | pret form user livre pc =>
      ((pc.exec form user livre m).1, .pret form user livre (pc.exec form user livre m).2)

def membre : Proc → Nat
  | resa user _ _ => user
  | pret _ user _ _ => user

def livre : Proc → Nat
  | resa _ livre _ => livre
  | pret _ _ livre _ => livre

/-- No statement executed yet. -/
def Neuf : Proc → Prop
  | resa _ _ pc => pc = .load
  | pret _ _ _ pc => pc = .reservation

/-- The answer has been sent. -/
def Fini : Proc → Prop
  | resa _ _ pc => ∃ r, pc = .fini r
  | pret _ _ _ pc => ∃ r, pc = .fini r

end Proc

/-- The requests and the world. -/
abbrev Etat (ι : Type) := Conf ι Monde Proc

/-- One statement of one request, or some seconds. -/
def Etat.step {ι : Type} [DecidableEq ι] (c : Etat ι) (e : Event ι Nat) : Etat ι :=
  Conf.step Proc.exec Monde.tick c e

namespace Proc

/-- The request is about to write: the `INSERT` of a reservation or the flush of a loan. -/
def Ecrit : Proc → Prop
  | resa _ _ (.insert _ _ _) => True
  | pret _ _ _ (.flush _ _) => True
  | _ => False

/-- **Everything a statement can do to the world**: read it, delete the expired reservations,
insert a reservation, or flush a loan. -/
inductive Effet (m : Monde) : Proc → Monde → Prop
  | lecture (p : Proc) : ¬ p.Ecrit → Effet m p m
  | purge (user livre : Nat) (l : Livre) (c : Int) :
      Effet m (.resa user livre (.purge l c)) { m with db := (purgeExpired c m.db).2 }
  | insertion (user livre : Nat) (l : Livre) (c d : Int) :
      Effet m (.resa user livre (.insert l c d))
        { m with db := ReservationController.inserer d user l.id m.db }
  | flush (form : EmpruntForm) (user livre : Nat) (removed : Option Nat) (d : Int) :
      Effet m (.pret form user livre (.flush removed d))
        { m with db := (accepted d form removed user livre).flush m.db }

theorem exec_effet (m : Monde) (p : Proc) : Effet m p (p.exec m).1 := by
  cases p with
  | resa user livre pc =>
      cases pc with
      | load =>
          simp only [exec, ResaPc.exec]
          split <;> exact .lecture _ id
      | purge l c => exact .purge user livre l c
      | count l c =>
          simp only [exec, ResaPc.exec]
          split
          · exact .lecture _ id
          · split <;> exact .lecture _ id
      | select l c =>
          simp only [exec, ResaPc.exec]
          split <;> exact .lecture _ id
      | insert l c d => exact .insertion user livre l c d
      | fini r => exact .lecture _ id
  | pret form user livre pc =>
      cases pc with
      | reservation =>
          simp only [exec, PretPc.exec]
          split <;> exact .lecture _ id
      | emprunts removed =>
          simp only [exec, PretPc.exec]
          split <;> exact .lecture _ id
      | enCours removed d =>
          simp only [exec, PretPc.exec]
          split <;> exact .lecture _ id
      | flush removed d => exact .flush form user livre removed d
      | fini r => exact .lecture _ id

end Proc

/-! ## A request alone -/

section Alone

variable (db : Db)

/-- A reservation request that nobody interrupts: the book is loaded at `now` and the last query
answers at `now'`. -/
def ResaPc.alone (user livreId : Nat) (now now' : Int) : Monde × ResaPc :=
  let s₁ := ResaPc.load.exec user livreId ⟨db, now⟩
  let s₂ := s₁.2.exec user livreId s₁.1
  let s₃ := s₂.2.exec user livreId s₂.1
  let s₄ := s₃.2.exec user livreId { s₃.1 with now := now' }
  s₄.2.exec user livreId s₄.1

/-- **Uninterrupted, a reservation request is the sequential `create`.** -/
theorem create_alone (env : Env) (now now' : Int) (user : Utilisateur) (data : Json) (id : Nat)
    (htruthy : (data.key "livreId").truthy = true)
    (hid : env.entityId (data.key "livreId") = some id) :
    (ReservationController.create env now now' user data db).2 =
        (ResaPc.alone db user.id id now now').1.db ∧
      (ResaPc.alone db user.id id now now').2 =
        .fini (ReservationController.create env now now' user data db).1 := by
  simp only [ReservationController.create, htruthy, hid]
  cases hfind : db.livres.find? id with
  | none => simp [ResaPc.alone, ResaPc.exec, hfind]
  | some livre =>
      simp only [ResaPc.alone, ResaPc.exec, hfind, ReservationController.createForLivre]
      by_cases hcount :
          3 ≤ countActiveForUser user.id (cutoff now) (purgeExpired (cutoff now) db).2
      · simp [hcount]
      · by_cases hemprunt : livre.emprunt.isSome
        · simp [hcount, hemprunt]
        · by_cases hactive :
            (findActiveByLivre livre.id (cutoff now) (purgeExpired (cutoff now) db).2).isSome
          · simp [hcount, hemprunt, hactive]
          · simp [hcount, hemprunt, hactive]

/-- A loan creation that nobody interrupts. -/
def PretPc.alone (form : EmpruntForm) (user livre : Nat) (now : Int) : Monde × PretPc :=
  let s₁ := PretPc.reservation.exec form user livre ⟨db, now⟩
  let s₂ := s₁.2.exec form user livre s₁.1
  let s₃ := s₂.2.exec form user livre s₂.1
  s₃.2.exec form user livre s₃.1

/-- **Uninterrupted, a loan creation is the sequential `persistEntity`.** -/
theorem persistEntity_alone (now : Int) (form : EmpruntForm) (user : Utilisateur) (livre : Livre)
    (huser : form.utilisateur.bind db.utilisateurs.find? = some user)
    (hlivre : form.livre.bind db.livres.find? = some livre) :
    (persistEntity now form db).commit db = (PretPc.alone db form user.id livre.id now).1.db ∧
      (PretPc.alone db form user.id livre.id now).2 = .fini (persistEntity now form db).motif? := by
  have hfind : db.livres.find? livre.id = some livre := by
    obtain ⟨b, -, hb⟩ := Option.bind_eq_some_iff.mp hlivre
    exact db.livres.find?_eq_some.mpr ⟨(db.livres.find?_eq_some.mp hb).1, rfl⟩
  by_cases hres : (findReservation (some livre.id) db).any
      (fun r => decide (some r.utilisateur ≠ some user.id))
  · simp only [persistEntity, huser, hlivre, Option.map_some, hres, if_true, Issue.commit,
      Issue.motif?, PretPc.alone, PretPc.exec, and_self]
  · by_cases hcount : 5 ≤ countEmpruntsActifs user.id db
    · simp only [persistEntity, huser, hlivre, Option.map_some, hres, hcount, if_true, if_false,
        Issue.commit, Issue.motif?, PretPc.alone, PretPc.exec, Bool.false_eq_true, and_self]
    · cases hcours : findEmpruntEnCours (some livre.id) db with
      | some e =>
          simp only [persistEntity, huser, hlivre, Option.map_some, hres, hcount, hcours, hfind,
            if_false, Issue.commit, Issue.motif?, PretPc.alone, PretPc.exec, Bool.false_eq_true,
            and_self]
      | none =>
          simp only [persistEntity, huser, hlivre, Option.map_some, hres, hcount, hcours,
            if_false, Issue.commit, Issue.motif?, PretPc.alone, PretPc.exec, Bool.false_eq_true,
            and_self]

end Alone

end Bibliotheque
