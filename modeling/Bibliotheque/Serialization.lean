import Bibliotheque.Schema

/-! # Responses and serialization groups

What an API route answers: a status and a JSON body. The bodies follow the `#[Groups]` attributes
of the entities, one structure per group and entity. An association whose target has no property in
the group is serialized as an empty object; it carries no information and is left out, except
`Livre::$emprunt` in `livre:read`, where an empty object and `null` differ. -/

namespace Bibliotheque

/-- `Livre` in `reservation:read` and `categorie:read`. -/
structure LivreResume where
  id : Nat
  titre : String
  deriving DecidableEq, Repr

/-- `Livre` in `emprunt:read`. -/
structure LivreEmprunte where
  id : Nat
  titre : String
  langue : String
  photoCouverture : Option String
  deriving DecidableEq, Repr

/-- `Livre` in `auteur:read`. -/
structure LivreDate where
  id : Nat
  titre : String
  dateSortie : Int
  deriving DecidableEq, Repr

/-- `Auteur` in `livre:read`. -/
structure AuteurResume where
  id : Nat
  nom : String
  photo : Option String
  description : Option String
  deriving DecidableEq, Repr

/-- `Categorie` in `livre:read`. -/
structure CategorieResume where
  id : Nat
  nom : String
  description : Option String
  deriving DecidableEq, Repr

/-- `Reservations` in `reservation:read`. -/
structure ReservationVue where
  id : Nat
  dateResa : Int
  livre : Option LivreResume
  deriving DecidableEq, Repr

/-- `Emprunt` in `emprunt:read`. The group does not hold the borrower. -/
structure EmpruntVue where
  id : Nat
  dateEmprunt : Int
  dateRetour : Option Int
  livre : Option LivreEmprunte
  deriving DecidableEq, Repr

/-- `Livre` in `livre:read`. `emprunt` tells an empty object from `null`. -/
structure LivreVue where
  id : Nat
  titre : String
  dateSortie : Int
  langue : String
  photoCouverture : Option String
  auteurs : List AuteurResume
  emprunt : Option Unit
  categories : List CategorieResume
  disponible : Bool
  deriving DecidableEq, Repr

/-- `Auteur` in `auteur:read`. -/
structure AuteurVue where
  id : Nat
  nom : String
  prenom : String
  dateNaissance : Int
  dateDeces : Option Int
  nationalite : Option String
  photo : Option String
  description : Option String
  livre : List LivreDate
  deriving DecidableEq, Repr

/-- `Categorie` in `categorie:read`. -/
structure CategorieVue where
  id : Nat
  nom : String
  description : Option String
  livres : List LivreResume
  deriving DecidableEq, Repr

/-- `AuthController::serializeUser`. -/
structure UtilisateurVue where
  id : Nat
  email : String
  nom : String
  prenom : String
  dateNaiss : Int
  numTel : String
  adressePostale : String
  dateAdhesion : Int
  photo : Option String
  roles : List Role
  deriving DecidableEq, Repr

/-- The body of a response. `erreur` is the page of an exception the controller does not catch. -/
inductive Body where
  | message (texte : String)
  | erreur (texte : String)
  | livres (vs : List LivreVue)
  | livre (v : LivreVue)
  | auteurs (vs : List AuteurVue)
  | auteur (v : AuteurVue)
  | categories (vs : List CategorieVue)
  | categorie (v : CategorieVue)
  | emprunts (vs : List EmpruntVue)
  | emprunt (v : EmpruntVue)
  | reservations (vs : List ReservationVue)
  | reservation (v : ReservationVue)
  | utilisateur (v : UtilisateurVue)
  deriving DecidableEq, Repr

structure Response where
  status : Nat
  body : Body
  deriving DecidableEq, Repr

namespace Response

/-- `new JsonResponse(['message' => …], status)`. -/
def message (status : Nat) (texte : String) : Response := ⟨status, .message texte⟩

/-- An exception that reaches the kernel. -/
def serverError (texte : String) : Response := ⟨500, .erreur texte⟩

/-- The route parameter names no entity. -/
def notFound : Response := ⟨404, .erreur "Not Found"⟩

end Response

namespace Db

/-- The book a reservation or a loan points to, in the shape of a group. -/
def livreResume (db : Db) (id : Nat) : Option LivreResume :=
  (db.livres.find? id).map fun l => ⟨l.id, l.titre⟩

def livreEmprunte (db : Db) (id : Nat) : Option LivreEmprunte :=
  (db.livres.find? id).map fun l => ⟨l.id, l.titre, l.langue, l.photoCouverture⟩

def reservationVue (db : Db) (r : Reservations) : ReservationVue :=
  ⟨r.id, r.dateResa, db.livreResume r.livre⟩

def empruntVue (db : Db) (e : Emprunt) : EmpruntVue :=
  ⟨e.id, e.dateEmprunt, e.dateRetour, db.livreEmprunte e.livre⟩

/-- The authors of a book, in the order of the join table. -/
def auteursDe (db : Db) (livre : Nat) : List Auteur :=
  (db.livreAuteur.filter (fun p => decide (p.1 = livre))).filterMap fun p => db.auteurs.find? p.2

def categoriesDe (db : Db) (livre : Nat) : List Categorie :=
  (db.livreCategorie.filter (fun p => decide (p.1 = livre))).filterMap fun p =>
    db.categories.find? p.2

/-- Both collections hold rows of their tables. -/
theorem mem_auteurs_of_mem_auteursDe {db : Db} {livre : Nat} :
    ∀ a ∈ db.auteursDe livre, a ∈ db.auteurs.rows := by
  intro a ha
  obtain ⟨p, -, hfind⟩ := List.mem_filterMap.mp ha
  exact (db.auteurs.find?_eq_some.mp hfind).1

theorem mem_categories_of_mem_categoriesDe {db : Db} {livre : Nat} :
    ∀ c ∈ db.categoriesDe livre, c ∈ db.categories.rows := by
  intro c hc
  obtain ⟨p, -, hfind⟩ := List.mem_filterMap.mp hc
  exact (db.categories.find?_eq_some.mp hfind).1

def auteurResume (a : Auteur) : AuteurResume := ⟨a.id, a.nom, a.photo, a.description⟩

def categorieResume (c : Categorie) : CategorieResume := ⟨c.id, c.nom, c.description⟩

/-- A book with the authors and categories its collections hold. -/
def livreVueAvec (l : Livre) (auteurs : List Auteur) (categories : List Categorie) : LivreVue where
  id := l.id
  titre := l.titre
  dateSortie := l.dateSortie
  langue := l.langue
  photoCouverture := l.photoCouverture
  auteurs := auteurs.map auteurResume
  emprunt := l.emprunt.map fun _ => ()
  categories := categories.map categorieResume
  disponible := l.isDisponible

def livreVue (db : Db) (l : Livre) : LivreVue :=
  livreVueAvec l (db.auteursDe l.id) (db.categoriesDe l.id)

def auteurVue (db : Db) (a : Auteur) : AuteurVue where
  id := a.id
  nom := a.nom
  prenom := a.prenom
  dateNaissance := a.dateNaissance
  dateDeces := a.dateDeces
  nationalite := a.nationalite
  photo := a.photo
  description := a.description
  livre := (db.livreAuteur.filter (fun p => decide (p.2 = a.id))).filterMap fun p =>
    (db.livres.find? p.1).map fun l => ⟨l.id, l.titre, l.dateSortie⟩

def categorieVue (db : Db) (c : Categorie) : CategorieVue where
  id := c.id
  nom := c.nom
  description := c.description
  livres := (db.livreCategorie.filter (fun p => decide (p.2 = c.id))).filterMap fun p =>
    (db.livres.find? p.1).map fun l => ⟨l.id, l.titre⟩

end Db

/-- `AuthController::serializeUser`. -/
def serializeUser (u : Utilisateur) : UtilisateurVue where
  id := u.id
  email := u.email
  nom := u.nom
  prenom := u.prenom
  dateNaiss := u.dateNaiss
  numTel := u.numTel
  adressePostale := u.adressePostale
  dateAdhesion := u.dateAdhesion
  photo := u.photo
  roles := u.getRoles

end Bibliotheque
