import Bibliotheque.Security
import Bibliotheque.Recherche
import Bibliotheque.Reservation

/-! # The API

All routes of `Controller/Api`, the login apart, and what happens to a request on its way to one: the
first matching access rule, the entity of the route parameter, `IsGranted`, the controller. `handle`
gives the response and the database it leaves.

`ApiEffect` lists everything a request can do to the database (`handle_effect`). The results about
whole runs of the API use this list and not the controllers. -/

namespace Bibliotheque

open Lib ReservationsRepository

/-- A value that fits a `VARCHAR(n)` column. -/
def fits (n : Nat) (s : String) : Bool := decide (s.length ≤ n)

namespace AuthController

/-- The entity after the setters of `update`. -/
def bind (user : Utilisateur) (data : Json) : Utilisateur :=
  { user with
    email := ((data.key "email").asString?).getD user.email
    numTel := ((data.key "numTel").asString?).getD user.numTel
    adressePostale := ((data.key "adressePostale").asString?).getD user.adressePostale }

/-- Does the database take the row `user'` in place of `user`? The lengths of the columns are
checked, and the unique index when the e-mail changes. -/
def flushable (env : Env) (user user' : Utilisateur) (db : Db) : Bool :=
  fits 255 user'.email && fits 20 user'.numTel && fits 255 user'.adressePostale &&
    (decide (user'.email = user.email) || emailLibre env user.id user'.email db)

/-- The row of `user` becomes `user'`. -/
def ecrire (user user' : Utilisateur) (db : Db) : Db :=
  { db with
    utilisateurs := db.utilisateurs.updateAt user.id
      (fun v => { v with
        email := user'.email, numTel := user'.numTel, adressePostale := user'.adressePostale })
      (fun _ => rfl) }

/-- `GET /api/user/me`. -/
def me : Option Utilisateur → Response
  | none => .message 401 "Not authenticated"
  | some user => ⟨200, .utilisateur (serializeUser user)⟩

/-- `PUT /api/user/me`. -/
def update (env : Env) (user : Option Utilisateur) (data : Json) (db : Db) : Response × Db :=
  match user with
  | none => (.message 401 "Not authenticated", db)
  | some user =>
      if !data.isArray then (.message 400 "Invalid payload", db)
      else if flushable env user (bind user data) db then
        (⟨200, .utilisateur (serializeUser (bind user data))⟩, ecrire user (bind user data) db)
      else (.serverError "An exception occurred while executing a query", db)

end AuthController

namespace AuteurController

/-- `GET /api/auteurs`. -/
def index (db : Db) : Response := ⟨200, .auteurs (db.auteurs.rows.map db.auteurVue)⟩

/-- `GET /api/auteurs/{id}` (the source's `show`). -/
def showAction (id : Nat) (db : Db) : Response :=
  match db.auteurs.find? id with
  | none => .notFound
  | some a => ⟨200, .auteur (db.auteurVue a)⟩

end AuteurController

namespace CategorieController

/-- `GET /api/categories`. -/
def index (db : Db) : Response := ⟨200, .categories (db.categories.rows.map db.categorieVue)⟩

/-- `GET /api/categories/{id}` (the source's `show`). -/
def showAction (id : Nat) (db : Db) : Response :=
  match db.categories.find? id with
  | none => .notFound
  | some c => ⟨200, .categorie (db.categorieVue c)⟩

/-- The name `create` gets past `setNom` and the column. -/
def nomAccepte (env : Env) (data : Json) : Option String :=
  ((data.key "nom").toStringParam env).filter (fits 255)

/-- `POST /api/categorie`. -/
def create (env : Env) (data : Json) (db : Db) : Response × Db :=
  match (data.key "nom").toStringParam env with
  | none => (.serverError "Categorie::setNom(): Argument #1 ($nom) must be of type string", db)
  | some nom =>
      if fits 255 nom then
        (⟨201, .categorie ⟨db.categories.next, nom, none, []⟩⟩,
          { db with categories := db.categories.insert ⟨0, nom, none⟩ })
      else (.serverError "An exception occurred while executing a query", db)

end CategorieController

namespace EmpruntController

/-- `GET /api/emprunts`. -/
def index (db : Db) : Response := ⟨200, .emprunts (db.emprunts.rows.map db.empruntVue)⟩

/-- `GET /api/emprunt/{id}` (the source's `show`). -/
def showAction (id : Nat) (db : Db) : Response :=
  match db.emprunts.find? id with
  | none => .notFound
  | some e => ⟨200, .emprunt (db.empruntVue e)⟩

/-- `POST /api/emprunt`. `setLivre` and `setUtilisateur` take entities or `null`, and a decoded body
holds no entity: any other value is a `TypeError`, and `null` fails at the flush, where both columns
are `NOT NULL`. -/
def create (data : Json) : Response :=
  match data.key "livre", data.key "utilisateur" with
  | .null, .null => .serverError "An exception occurred while executing a query"
  | .null, _ => .serverError "Emprunt::setUtilisateur(): Argument #1 must be of type ?Utilisateur"
  | _, _ => .serverError "Emprunt::setLivre(): Argument #1 must be of type ?Livre"

end EmpruntController

namespace LivreController

/-- `GET /api/livres`. -/
def index (db : Db) : Response := ⟨200, .livres (db.livres.rows.map db.livreVue)⟩

/-- `GET /api/livres/{id}` (the source's `show`). -/
def showAction (id : Nat) (db : Db) : Response :=
  match db.livres.find? id with
  | none => .notFound
  | some l => ⟨200, .livre (db.livreVue l)⟩

end LivreController

/-! ## Routes -/

/-- A request to a route of `Controller/Api`. A parameter `{id}` is the key it is read as; one that is
no number finds no entity, like an unknown key. -/
inductive ApiRequest where
  | auteurIndex
  | auteurShow (id : Nat)
  | userMe
  | userUpdate (data : Json)
  | categorieIndex
  | categorieShow (id : Nat)
  | categorieCreate (data : Json)
  | empruntIndex
  | empruntShow (id : Nat)
  | empruntCreate (data : Json)
  | livreSearch (q : Query)
  | livreIndex
  | livreShow (id : Nat)
  | reservationIndex
  | reservationShow (id : Nat)
  | reservationCreate (data : Json)
  | reservationDelete (id : Nat)

/-- The path of the route below the prefix `/api` that every controller declares. -/
def ApiRequest.route : ApiRequest → String
  | auteurIndex => "/auteurs"
  | auteurShow id => "/auteurs/" ++ toString id
  | userMe => "/user/me"
  | userUpdate _ => "/user/me"
  | categorieIndex => "/categories"
  | categorieShow id => "/categories/" ++ toString id
  | categorieCreate _ => "/categorie"
  | empruntIndex => "/emprunts"
  | empruntShow id => "/emprunt/" ++ toString id
  | empruntCreate _ => "/emprunt"
  | livreSearch _ => "/livres/recherche"
  | livreIndex => "/livres"
  | livreShow id => "/livres/" ++ toString id
  | reservationIndex => "/reservations"
  | reservationShow id => "/reservation/" ++ toString id
  | reservationCreate _ => "/reservation"
  | reservationDelete id => "/reservation/" ++ toString id

def ApiRequest.path (req : ApiRequest) : String := "/api" ++ req.route

/-- How a requester who lacks an attribute is turned away. -/
def accesRefuse : Option Utilisateur → Response
  | none => .message 401 "JWT Token not found"
  | some _ => ⟨403, .erreur "Access Denied."⟩

/-- `#[IsGranted('ROLE_ADHERENT')]` in front of an action. -/
def asAdherent (user : Option Utilisateur) (db : Db) (action : Utilisateur → Response × Db) :
    Response × Db :=
  match user with
  | none => (accesRefuse none, db)
  | some u => if u.atteint .adherent then action u else (accesRefuse (some u), db)

/-- An action on an entity: the route parameter is resolved before `IsGranted` is looked at. -/
def onReservation (id : Nat) (db : Db) (action : Response × Db) : Response × Db :=
  match db.reservations.find? id with
  | none => (.notFound, db)
  | some _ => action

/-- The controller of a route. -/
def dispatch (env : Env) (now now' : Int) (user : Option Utilisateur) (db : Db) :
    ApiRequest → Response × Db
  -- the routes without `IsGranted` are open to everybody
  | .auteurIndex => (AuteurController.index db, db)
  | .auteurShow id => (AuteurController.showAction id db, db)
  | .userMe => (AuthController.me user, db)
  | .userUpdate data => AuthController.update env user data db
  | .categorieIndex => (CategorieController.index db, db)
  | .categorieShow id => (CategorieController.showAction id db, db)
  | .categorieCreate data => CategorieController.create env data db
  | .empruntIndex => (EmpruntController.index db, db)
  | .empruntShow id => (EmpruntController.showAction id db, db)
  | .empruntCreate data => asAdherent user db fun _ => (EmpruntController.create data, db)
  | .livreSearch q => (LivreController.search env q db, db)
  | .livreIndex => (LivreController.index db, db)
  | .livreShow id => (LivreController.showAction id db, db)
  -- a `GET` that writes: it purges
  | .reservationIndex => asAdherent user db fun u => ReservationController.index now u db
  | .reservationShow id =>
      onReservation id db (asAdherent user db fun u => (ReservationController.showAction u id db, db))
  | .reservationCreate data =>
      asAdherent user db fun u => ReservationController.create env now now' u data db
  | .reservationDelete id =>
      onReservation id db (asAdherent user db fun u => ReservationController.delete u id db)

/-- An API request of an anonymous or authenticated requester. -/
def handle (env : Env) (now now' : Int) (user : Option Utilisateur) (req : ApiRequest) (db : Db) :
    Response × Db :=
  if accessGranted user req.path then dispatch env now now' user db req
  else (accesRefuse user, db)

/-- The access rules let every API request through to its controller. -/
theorem handle_eq_dispatch (env : Env) (now now' : Int) (user : Option Utilisateur)
    (req : ApiRequest) (db : Db) :
    handle env now now' user req db = dispatch env now now' user db req := by
  have hpath : "/api".toList.isPrefixOf req.path.toList = true := by
    rw [ApiRequest.path, String.toList_append, List.isPrefixOf_iff_prefix]
    exact List.prefix_append _ _
  rw [handle, if_pos (accessGranted_api user hpath)]

/-! ## What a request can write -/

theorem CategorieController.create_snd (env : Env) (data : Json) (db : Db) :
    (create env data db).2 =
      match nomAccepte env data with
      | none => db
      | some nom => { db with categories := db.categories.insert ⟨0, nom, none⟩ } := by
  unfold create nomAccepte
  cases (data.key "nom").toStringParam env with
  | none => rfl
  | some nom =>
      rw [Option.filter_some]
      by_cases hfit : fits 255 nom = true
      · simp [hfit]
      · simp [hfit]

theorem AuthController.update_snd (env : Env) (user : Utilisateur) (data : Json) (db : Db) :
    (update env (some user) data db).2 =
      if data.isArray && flushable env user (bind user data) db then
        ecrire user (bind user data) db
      else db := by
  simp only [update]
  cases hdata : data.isArray
  · rfl
  · by_cases hflush : flushable env user (bind user data) db = true
    · simp [hflush]
    · simp [hflush]

/-- **Everything an API request can do to the database.** -/
inductive ApiEffect (env : Env) (now now' : Int) (user : Option Utilisateur) (db : Db) :
    ApiRequest → Db → Prop
  | rien (req : ApiRequest) : ApiEffect env now now' user db req db
  | profil (u : Utilisateur) (data : Json) : user = some u →
      AuthController.flushable env u (AuthController.bind u data) db = true →
      ApiEffect env now now' user db (.userUpdate data)
        (AuthController.ecrire u (AuthController.bind u data) db)
  | categorie (data : Json) (nom : String) : CategorieController.nomAccepte env data = some nom →
      ApiEffect env now now' user db (.categorieCreate data)
        { db with categories := db.categories.insert ⟨0, nom, none⟩ }
  | purge (u : Utilisateur) : user = some u → u.atteint .adherent = true →
      ApiEffect env now now' user db .reservationIndex (purgeExpired (cutoff now) db).2
  | reservation (u : Utilisateur) (data : Json) (db' : Db) : user = some u →
      u.atteint .adherent = true →
      ReservationController.CreateEffect now now' u.id (env.entityId (data.key "livreId")) db db' →
      ApiEffect env now now' user db (.reservationCreate data) db'
  | suppression (u : Utilisateur) (id : Nat) (db' : Db) : user = some u →
      u.atteint .adherent = true →
      ReservationController.DeleteEffect u.id id db db' →
      ApiEffect env now now' user db (.reservationDelete id) db'

/-- A guarded action has the effect of the action for the member, or none. -/
theorem asAdherent_ind {motive : Db → Prop} {user : Option Utilisateur} {db : Db}
    {action : Utilisateur → Response × Db} (hnone : motive db)
    (hsome : ∀ u, user = some u → u.atteint .adherent = true → motive (action u).2) :
    motive (asAdherent user db action).2 := by
  unfold asAdherent
  split
  · exact hnone
  · split
    · next hadherent => exact hsome _ rfl hadherent
    · exact hnone

theorem onReservation_ind {motive : Db → Prop} {id : Nat} {db : Db} {action : Response × Db}
    (hnone : motive db) (hsome : motive action.2) : motive (onReservation id db action).2 := by
  unfold onReservation
  split
  · exact hnone
  · exact hsome

theorem handle_effect (env : Env) (now now' : Int) (user : Option Utilisateur) (req : ApiRequest)
    (db : Db) : ApiEffect env now now' user db req (handle env now now' user req db).2 := by
  rw [handle_eq_dispatch]
  cases req with
  | userUpdate data =>
      rw [dispatch]
      cases user with
      | none => exact .rien _
      | some u =>
          rw [AuthController.update_snd]
          split
          · next hok => exact .profil u data rfl (Bool.and_eq_true _ _ ▸ hok).2
          · exact .rien _
  | categorieCreate data =>
      rw [dispatch, CategorieController.create_snd]
      split
      · exact .rien _
      · next nom hnom => exact .categorie data nom hnom
  | reservationIndex =>
      exact asAdherent_ind (.rien _) fun u hu hadherent => .purge u hu hadherent
  | reservationCreate data =>
      refine asAdherent_ind (.rien _) fun u hu hadherent => ?_
      exact .reservation u data _ hu hadherent
        (ReservationController.create_effect env now now' u data db)
  | reservationDelete id =>
      refine onReservation_ind (.rien _) (asAdherent_ind (.rien _) fun u hu hadherent => ?_)
      exact .suppression u id _ hu hadherent (ReservationController.delete_effect u id db)
  | reservationShow id =>
      exact onReservation_ind (.rien _) (asAdherent_ind (.rien _) fun _ _ _ => .rien _)
  | empruntCreate data => exact asAdherent_ind (.rien _) fun _ _ _ => .rien _
  | auteurIndex => exact .rien _
  | auteurShow id => exact .rien _
  | userMe => exact .rien _
  | categorieIndex => exact .rien _
  | categorieShow id => exact .rien _
  | empruntIndex => exact .rien _
  | empruntShow id => exact .rien _
  | livreSearch q => exact .rien _
  | livreIndex => exact .rien _
  | livreShow id => exact .rien _

/-! ## Requesters -/

/-- A request of the account with this key, or an anonymous one. Nobody is served as an account that
is not there. -/
def Db.asRequester (user : Option Nat) (f : Option Utilisateur → Db) (db : Db) : Db :=
  match user with
  | none => f none
  | some id =>
      match db.utilisateurs.find? id with
      | none => db
      | some u => f (some u)

theorem Db.asRequester_ind {motive : Db → Prop} {user : Option Nat} {f : Option Utilisateur → Db}
    {db : Db} (hnobody : motive db)
    (hsome : ∀ w, user = w.map (·.id) → user.bind db.utilisateurs.find? = w → motive (f w)) :
    motive (db.asRequester user f) := by
  unfold Db.asRequester
  split
  · exact hsome none rfl rfl
  · next id =>
    split
    · exact hnobody
    · next u hu =>
      exact hsome (some u) (congrArg some (db.utilisateurs.find?_eq_some.mp hu).2.symm) hu

end Bibliotheque
