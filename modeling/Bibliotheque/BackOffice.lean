import Bibliotheque.Api
import Bibliotheque.Operations

/-! # The back office

The CRUD controllers behind `^/admin`, with the fields of their forms. `none` is a request that ends
in an error or a rejected form: nothing is written then. Empty text fields, keys that name no entity
and texts longer than their column are such.

`DashboardController::configureMenuItems` shows the links to the catalogue to a responsable only; the
routes themselves ask for no more than the access rule of `^/admin` does. -/

namespace Bibliotheque

open Lib

/-- A required text field of a `VARCHAR(n)` column. -/
def texte (n : Nat) (v : Option String) : Option String := v.filter (fits n)

/-- An optional text field. -/
def texteFacultatif (n : Nat) (v : Option String) : Option (Option String) :=
  if v.all (fits n) then some v else none

/-! ## The catalogue -/

structure CategorieForm where
  nom : Option String
  description : Option String
  deriving DecidableEq, Repr

namespace CategorieCrudController

/-- The entity the form describes. -/
def entite (id : Nat) (f : CategorieForm) : Option Categorie := do
  let nom ← texte 255 f.nom
  let description ← texteFacultatif 255 f.description
  return ⟨id, nom, description⟩

def persistEntity (f : CategorieForm) (db : Db) : Option Db :=
  (entite 0 f).map fun c => { db with categories := db.categories.insert c }

def updateEntity (id : Nat) (f : CategorieForm) (db : Db) : Option Db := do
  let c ← db.categories.find? id
  let c' ← entite c.id f
  return { db with
    categories := db.categories.updateAt c.id
      (fun x => { x with nom := c'.nom, description := c'.description }) (fun _ => rfl) }

/-- `livre_categorie` is `ON DELETE CASCADE`. -/
def deleteEntity (id : Nat) (db : Db) : Option Db := do
  let c ← db.categories.find? id
  return { db with
    categories := db.categories.delete fun x => decide (x.id = c.id)
    livreCategorie := db.livreCategorie.filter fun p => !decide (p.2 = c.id) }

end CategorieCrudController

structure AuteurForm where
  nom : Option String
  prenom : Option String
  dateNaissance : Option Int
  dateDeces : Option Int
  nationalite : Option String
  description : Option String
  photo : Option String
  deriving DecidableEq, Repr

namespace AuteurCrudController

def entite (id : Nat) (f : AuteurForm) : Option Auteur := do
  let nom ← texte 255 f.nom
  let prenom ← texte 255 f.prenom
  let dateNaissance ← f.dateNaissance
  let nationalite ← texteFacultatif 255 f.nationalite
  let description ← texteFacultatif 255 f.description
  let photo ← texteFacultatif 255 f.photo
  return ⟨id, nom, prenom, dateNaissance, f.dateDeces, nationalite, photo, description⟩

def persistEntity (f : AuteurForm) (db : Db) : Option Db :=
  (entite 0 f).map fun a => { db with auteurs := db.auteurs.insert a }

def updateEntity (id : Nat) (f : AuteurForm) (db : Db) : Option Db := do
  let a ← db.auteurs.find? id
  let a' ← entite a.id f
  return { db with
    auteurs := db.auteurs.updateAt a.id (fun x => { a' with id := x.id }) (fun _ => rfl) }

def deleteEntity (id : Nat) (db : Db) : Option Db := do
  let a ← db.auteurs.find? id
  return { db with
    auteurs := db.auteurs.delete fun x => decide (x.id = a.id)
    livreAuteur := db.livreAuteur.filter fun p => !decide (p.2 = a.id) }

end AuteurCrudController

structure LivreForm where
  titre : Option String
  dateSortie : Option Int
  langue : Option String
  photoCouverture : Option String
  auteurs : List Nat
  categories : List Nat
  deriving DecidableEq, Repr

namespace LivreCrudController

def entite (id : Nat) (f : LivreForm) (db : Db) : Option Livre := do
  let titre ← texte 255 f.titre
  let dateSortie ← f.dateSortie
  let langue ← texte 255 f.langue
  let photoCouverture ← texteFacultatif 255 f.photoCouverture
  -- a choice that is not in the list makes the form invalid
  if f.auteurs.all (fun a => (db.auteurs.find? a).isSome) &&
      f.categories.all (fun c => (db.categories.find? c).isSome) then
    some ⟨id, titre, dateSortie, langue, photoCouverture, none⟩
  else none

/-- The join rows of a book after the form: what is kept stays, what is new is added. -/
def associer (livre : Nat) (choix : List Nat) (join : List (Nat × Nat)) : List (Nat × Nat) :=
  join.filter (fun p => !decide (p.1 = livre) || decide (p.2 ∈ choix)) ++
    ((choix.eraseDups.map fun x => (livre, x)).filter fun p => !decide (p ∈ join))

def persistEntity (f : LivreForm) (db : Db) : Option Db :=
  (entite 0 f db).map fun l =>
    { db with
      livres := db.livres.insert l
      livreAuteur := associer db.livres.next f.auteurs db.livreAuteur
      livreCategorie := associer db.livres.next f.categories db.livreCategorie }

/-- The form has no field for the loan: the pointer stays. -/
def updateEntity (id : Nat) (f : LivreForm) (db : Db) : Option Db := do
  let l ← db.livres.find? id
  let l' ← entite l.id f db
  return { db with
    livres := db.livres.updateAt l.id
      (fun x => { l' with id := x.id, emprunt := x.emprunt }) (fun _ => rfl)
    livreAuteur := associer l.id f.auteurs db.livreAuteur
    livreCategorie := associer l.id f.categories db.livreCategorie }

/-- The foreign keys of loans and reservations do not cascade: a book that has some is kept. -/
def deleteEntity (id : Nat) (db : Db) : Option Db := do
  let l ← db.livres.find? id
  if db.emprunts.rows.any (fun e => decide (e.livre = l.id)) ||
      db.reservations.rows.any (fun r => decide (r.livre = l.id)) then
    none
  else
    some { db with
      livres := db.livres.delete fun x => decide (x.id = l.id)
      livreAuteur := db.livreAuteur.filter fun p => !decide (p.1 = l.id)
      livreCategorie := db.livreCategorie.filter fun p => !decide (p.1 = l.id) }

end LivreCrudController

/-! ## Accounts -/

structure UtilisateurForm where
  nom : Option String
  prenom : Option String
  email : Option String
  /-- not mapped to the entity; `empty` means unchanged -/
  password : String
  dateNaiss : Option Int
  adressePostale : Option String
  numTel : Option String
  photo : Option String
  roles : List Role
  enabled : Bool
  deriving DecidableEq, Repr

namespace UtilisateurCrudController

/-- The choices of the `roles` field. -/
def choixRoles : List Role := [.responsable, .bibliothecaire, .adherent]

/-- `hashUserPassword`: the stored password after the request; none where the hasher throws, and for a
new account that gets none. -/
def hashUserPassword (env : Env) (f : UtilisateurForm) (password : Option String) : Option String :=
  if emptyText f.password then password
  else if tooLong f.password then none
  else some (env.hashPassword f.password)

/-- The account the form describes, with the columns the form does not show. -/
def entite (env : Env) (id : Nat) (dateAdhesion : Int) (password : Option String)
    (f : UtilisateurForm) : Option Utilisateur := do
  let nom ← texte 255 f.nom
  let prenom ← texte 255 f.prenom
  let email ← texte 255 f.email
  let dateNaiss ← f.dateNaiss
  let adressePostale ← texte 255 f.adressePostale
  let numTel ← texte 20 f.numTel
  let photo ← texteFacultatif 255 f.photo
  -- a new account without a password fails on `NOT NULL`
  let password ← hashUserPassword env f password
  if f.roles.all (fun r => decide (r ∈ choixRoles)) then
    some ⟨id, dateAdhesion, nom, prenom, dateNaiss, email, adressePostale, numTel, photo, f.enabled,
      f.roles, password⟩
  else none

def persistEntity (env : Env) (now : Int) (f : UtilisateurForm) (db : Db) : Option Db := do
  let u ← entite env db.utilisateurs.next now none f
  if emailLibre env u.id u.email db then
    some { db with utilisateurs := db.utilisateurs.insert u }
  else none

def updateEntity (env : Env) (id : Nat) (f : UtilisateurForm) (db : Db) : Option Db := do
  let u ← db.utilisateurs.find? id
  let u' ← entite env u.id u.dateAdhesion (some u.password) f
  if emailLibre env u.id u'.email db then
    some { db with
      utilisateurs := db.utilisateurs.updateAt u.id (fun v => { u' with id := v.id })
        (fun _ => rfl) }
  else none

end UtilisateurCrudController

/-! ## Requests -/

/-- A request to the back office. `page` is any page that only shows data. -/
inductive AdminRequest where
  | page
  | livreNew (f : LivreForm)
  | livreEdit (id : Nat) (f : LivreForm)
  | livreDelete (id : Nat)
  | auteurNew (f : AuteurForm)
  | auteurEdit (id : Nat) (f : AuteurForm)
  | auteurDelete (id : Nat)
  | categorieNew (f : CategorieForm)
  | categorieEdit (id : Nat) (f : CategorieForm)
  | categorieDelete (id : Nat)
  | utilisateurNew (f : UtilisateurForm)
  | utilisateurEdit (id : Nat) (f : UtilisateurForm)
  | utilisateurDelete (id : Nat)
  | empruntNew (f : EmpruntForm)
  | empruntEdit (id : Nat) (f : EmpruntForm)
  | empruntDelete (id : Nat)
  /-- the default form of a reservation holds its date only, so the two keys stay `NULL` -/
  | reservationNew (date : Int)
  | reservationEdit (id : Nat) (date : Int)
  | reservationDelete (id : Nat)

/-- The path of the route below the dashboard's `/admin`. -/
def AdminRequest.route : AdminRequest → String
  | page => ""
  | livreNew _ => "/livre/new"
  | livreEdit id _ => "/livre/" ++ toString id ++ "/edit"
  | livreDelete id => "/livre/" ++ toString id ++ "/delete"
  | auteurNew _ => "/auteur/new"
  | auteurEdit id _ => "/auteur/" ++ toString id ++ "/edit"
  | auteurDelete id => "/auteur/" ++ toString id ++ "/delete"
  | categorieNew _ => "/categorie/new"
  | categorieEdit id _ => "/categorie/" ++ toString id ++ "/edit"
  | categorieDelete id => "/categorie/" ++ toString id ++ "/delete"
  | utilisateurNew _ => "/utilisateur/new"
  | utilisateurEdit id _ => "/utilisateur/" ++ toString id ++ "/edit"
  | utilisateurDelete id => "/utilisateur/" ++ toString id ++ "/delete"
  | empruntNew _ => "/emprunt/new"
  | empruntEdit id _ => "/emprunt/" ++ toString id ++ "/edit"
  | empruntDelete id => "/emprunt/" ++ toString id ++ "/delete"
  | reservationNew _ => "/reservations/new"
  | reservationEdit id _ => "/reservations/" ++ toString id ++ "/edit"
  | reservationDelete id => "/reservations/" ++ toString id ++ "/delete"

/-- The controller of a request. -/
def adminDispatch (env : Env) (now : Int) (db : Db) : AdminRequest → Option Db
  | .page => none
  | .livreNew f => LivreCrudController.persistEntity f db
  | .livreEdit id f => LivreCrudController.updateEntity id f db
  | .livreDelete id => LivreCrudController.deleteEntity id db
  | .auteurNew f => AuteurCrudController.persistEntity f db
  | .auteurEdit id f => AuteurCrudController.updateEntity id f db
  | .auteurDelete id => AuteurCrudController.deleteEntity id db
  | .categorieNew f => CategorieCrudController.persistEntity f db
  | .categorieEdit id f => CategorieCrudController.updateEntity id f db
  | .categorieDelete id => CategorieCrudController.deleteEntity id db
  | .utilisateurNew f => UtilisateurCrudController.persistEntity env now f db
  | .utilisateurEdit id f => UtilisateurCrudController.updateEntity env id f db
  | .utilisateurDelete id => some (db.deleteUtilisateur id)
  | .empruntNew f => some ((EmpruntCrudController.persistEntity now f db).commit db)
  | .empruntEdit id f => some (EmpruntCrudController.updateEntity id f db).2
  | .empruntDelete id => some (db.deleteEmprunt id)
  -- `NOT NULL` on both keys
  | .reservationNew _ => none
  | .reservationEdit id date => some (db.editDateResa id date)
  | .reservationDelete id =>
      some { db with reservations := db.reservations.delete fun r => decide (r.id = id) }

/-- The database after a back-office request of an anonymous or authenticated requester. -/
def adminHandle (env : Env) (now : Int) (user : Option Utilisateur) (req : AdminRequest) (db : Db) :
    Db :=
  if accessGranted user ("/admin" ++ req.route) then (adminDispatch env now db req).getD db else db

/-- Only a bibliothécaire or a responsable gets to a controller. -/
theorem adminHandle_eq (env : Env) (now : Int) (user : Option Utilisateur) (req : AdminRequest)
    (db : Db) :
    adminHandle env now user req db =
      if user.any (·.atteint .bibliothecaire) then (adminDispatch env now db req).getD db else db := by
  have hpath : "/admin".toList.isPrefixOf ("/admin" ++ req.route).toList = true := by
    rw [String.toList_append, List.isPrefixOf_iff_prefix]
    exact List.prefix_append _ _
  rw [adminHandle, accessGranted_admin user hpath]

end Bibliotheque
