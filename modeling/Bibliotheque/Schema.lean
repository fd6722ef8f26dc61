import Bibliotheque.Lib.Table

/-! # The database

One structure per table of `migrations/Version20260311191308.php`, under the property names of the
entities in `src/Entity`, and `Db`, the tables together.

Keys are `Nat`. `DATETIME` columns keep one second of precision, so a date is an `Int`, a number of
seconds on the server's wall clock. A table (`Lib.Table`) already carries what the engine enforces on primary
keys; foreign keys and the unique index on `email` are enforced by the operations that write. -/

namespace Bibliotheque

open Lib

/-- The number of seconds in `n` days. -/
def days (n : Int) : Int := n * 86400

/-- The roles that occur in the code; any other string of the JSON column is `autre`. -/
inductive Role where
  | admin
  | responsable
  | bibliothecaire
  | adherent
  | user
  | autre (nom : String)
  deriving DecidableEq, Repr

/-- A row of `livre`. `emprunt` is the nullable `emprunt_id` (`ON DELETE SET NULL`). -/
structure Livre where
  id : Nat
  titre : String
  dateSortie : Int
  langue : String
  photoCouverture : Option String
  emprunt : Option Nat
  deriving DecidableEq, Repr

/-- `Livre::isDisponible`. -/
def Livre.isDisponible (l : Livre) : Bool := l.emprunt.isNone

structure Auteur where
  id : Nat
  nom : String
  prenom : String
  dateNaissance : Int
  dateDeces : Option Int
  nationalite : Option String
  photo : Option String
  description : Option String
  deriving DecidableEq, Repr

structure Categorie where
  id : Nat
  nom : String
  description : Option String
  deriving DecidableEq, Repr

/-- A row of `utilisateur`. `roles` is the stored column; see `Utilisateur.getRoles`. -/
structure Utilisateur where
  id : Nat
  dateAdhesion : Int
  nom : String
  prenom : String
  dateNaiss : Int
  email : String
  adressePostale : String
  numTel : String
  photo : Option String
  enabled : Bool
  roles : List Role
  password : String
  deriving DecidableEq, Repr

/-- `Utilisateur::getUserIdentifier`. -/
def Utilisateur.getUserIdentifier (u : Utilisateur) : String := u.email

/-- `Utilisateur::getRoles`: the stored roles and `ROLE_USER`, without repetition. -/
def Utilisateur.getRoles (u : Utilisateur) : List Role := (u.roles ++ [Role.user]).eraseDups

structure Emprunt where
  id : Nat
  dateEmprunt : Int
  dateRetour : Option Int
  utilisateur : Nat
  livre : Nat
  deriving DecidableEq, Repr

/-- A loan is open until its return date is set. -/
def Emprunt.ouvert (e : Emprunt) : Bool := e.dateRetour.isNone

@[simp] theorem Emprunt.ouvert_eq_true (e : Emprunt) : e.ouvert = true ↔ e.dateRetour = none :=
  Option.isNone_iff_eq_none

@[simp] theorem Livre.isDisponible_eq_true (l : Livre) : l.isDisponible = true ↔ l.emprunt = none :=
  Option.isNone_iff_eq_none

structure Reservations where
  id : Nat
  dateResa : Int
  utilisateur : Nat
  livre : Nat
  deriving DecidableEq, Repr

instance : Row Livre := ⟨Livre.id, fun n r => { r with id := n }, fun _ _ => rfl⟩
instance : Row Auteur := ⟨Auteur.id, fun n r => { r with id := n }, fun _ _ => rfl⟩
instance : Row Categorie := ⟨Categorie.id, fun n r => { r with id := n }, fun _ _ => rfl⟩
instance : Row Utilisateur := ⟨Utilisateur.id, fun n r => { r with id := n }, fun _ _ => rfl⟩
instance : Row Emprunt := ⟨Emprunt.id, fun n r => { r with id := n }, fun _ _ => rfl⟩
instance : Row Reservations := ⟨Reservations.id, fun n r => { r with id := n }, fun _ _ => rfl⟩

@[simp] theorem Livre.row_id (r : Livre) : Row.id r = r.id := rfl
@[simp] theorem Auteur.row_id (r : Auteur) : Row.id r = r.id := rfl
@[simp] theorem Categorie.row_id (r : Categorie) : Row.id r = r.id := rfl
@[simp] theorem Utilisateur.row_id (r : Utilisateur) : Row.id r = r.id := rfl
@[simp] theorem Emprunt.row_id (r : Emprunt) : Row.id r = r.id := rfl
@[simp] theorem Reservations.row_id (r : Reservations) : Row.id r = r.id := rfl

@[simp] theorem Emprunt.row_setId (n : Nat) (r : Emprunt) : Row.setId n r = { r with id := n } := rfl
@[simp] theorem Reservations.row_setId (n : Nat) (r : Reservations) :
    Row.setId n r = { r with id := n } := rfl

/-- The tables; the two join tables are lists of pairs, book first. -/
structure Db where
  livres : Table Livre
  auteurs : Table Auteur
  categories : Table Categorie
  livreAuteur : List (Nat × Nat)
  livreCategorie : List (Nat × Nat)
  utilisateurs : Table Utilisateur
  emprunts : Table Emprunt
  reservations : Table Reservations

end Bibliotheque
