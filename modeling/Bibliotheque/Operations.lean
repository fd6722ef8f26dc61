import Bibliotheque.Lib.Run
import Bibliotheque.Reservation
import Bibliotheque.Emprunt

/-! # The lending desk as a transition system

An `Op` is one request, or one run of the expire command, handled from start to end. The members
of the API are the ones who have an account: a request in the name of anybody else does not get
past the firewall and changes nothing. -/

namespace Bibliotheque

open Lib

inductive Op where
  | persistEmprunt (now : Int) (form : EmpruntForm)
  | updateEmprunt (id : Nat) (form : EmpruntForm)
  | deleteEmprunt (id : Nat)
  | deleteUtilisateur (id : Nat)
  | reservationCreate (now now' : Int) (user : Nat) (data : Json)
  | reservationDelete (user id : Nat)
  | reservationIndex (now : Int) (user : Nat)
  | expire (now : Int)
  /-- `ReservationsCrudController`: the default form edits the date only. -/
  | editDateResa (id : Nat) (date : Int)

namespace Db

/-- The back-office edit of a reservation. -/
def editDateResa (id : Nat) (date : Int) (db : Db) : Db :=
  { db with
    reservations := db.reservations.updateAt id (fun r => { r with dateResa := date })
      (fun _ => rfl) }

/-- Run `f` as the member with key `user`, if there is one. -/
def asMember (user : Nat) (f : Utilisateur → Db → Db) (db : Db) : Db :=
  match db.utilisateurs.find? user with
  | none => db
  | some u => f u db

end Db

/-- The database after an operation. -/
def Op.apply (env : Env) (db : Db) : Op → Db
  | .persistEmprunt now form => (EmpruntCrudController.persistEntity now form db).commit db
  | .updateEmprunt id form => (EmpruntCrudController.updateEntity id form db).2
  | .deleteEmprunt id => db.deleteEmprunt id
  | .deleteUtilisateur id => db.deleteUtilisateur id
  | .reservationCreate now now' user data =>
      db.asMember user fun u db => (ReservationController.create env now now' u data db).2
  | .reservationDelete user id =>
      db.asMember user fun u db => (ReservationController.delete u id db).2
  | .reservationIndex now user =>
      db.asMember user fun u db => (ReservationController.index now u db).2
  | .expire now => (ExpireReservationsCommand.execute now db).2
  | .editDateResa id date => db.editDateResa id date

/-- What holds before and after every call of `f` holds around `asMember`. -/
theorem Db.asMember_ind {motive : Db → Prop} {user : Nat} {f : Utilisateur → Db → Db} {db : Db}
    (hnone : motive db) (hsome : ∀ u, u ∈ db.utilisateurs.rows → motive (f u db)) :
    motive (db.asMember user f) := by
  unfold Db.asMember
  split
  · exact hnone
  · next u hu => exact hsome u (db.utilisateurs.find?_eq_some.mp hu).1

end Bibliotheque
