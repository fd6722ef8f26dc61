import Bibliotheque.Api
import Bibliotheque.Lib.Network

/-! # Requests of the front end

The methods of `ApiService` that the catalogue pages use. Each is a request to one route of the API,
together with what its callbacks have captured; `HttpClient` calls `next` on a status 2xx and `error`
otherwise. The server is the API of this development, `handle`, whoever is logged in and whatever the
time is when it takes the request up. -/

namespace Bibliotheque.Client

open Lib

/-- A request and the variables its callbacks use. -/
inductive Requete where
  | getLivres
  | getLivre (id : Nat)
  | rechercherLivres (query : Query)
  | getCategories
  /-- `livre` is the book on whose behalf the author is fetched -/
  | getAuteur (id : Nat) (livre : LivreVue)
  | getMesReservations
  | reserverLivre (livreId : Nat)
  deriving DecidableEq, Repr

/-- The route a request is sent to. -/
def Requete.api : Requete → ApiRequest
  | getLivres => .livreIndex
  | getLivre id => .livreShow id
  | rechercherLivres query => .livreSearch query
  | getCategories => .categorieIndex
  | getAuteur id _ => .auteurShow id
  | getMesReservations => .reservationIndex
  | reserverLivre livreId => .reservationCreate (.obj [("livreId", .int livreId)])

/-- The clock of the server, read twice, and whom it recognises, when it takes a request up. -/
structure Instant where
  now : Int
  now' : Int
  user : Option Utilisateur
  deriving DecidableEq, Repr

def serveur (env : Env) (t : Instant) (q : Requete) (db : Db) : Response × Db :=
  handle env t.now t.now' t.user q.api db

end Bibliotheque.Client

namespace Bibliotheque.Response

/-- `HttpClient` takes the response for a success. -/
def ok (r : Response) : Bool := decide (200 ≤ r.status) && decide (r.status < 300)

/-- The list of books a successful response carries. -/
def livres? (r : Response) : Option (List LivreVue) :=
  match r.body with
  | .livres vs => if r.ok then some vs else none
  | _ => none

def livre? (r : Response) : Option LivreVue :=
  match r.body with
  | .livre v => if r.ok then some v else none
  | _ => none

def auteur? (r : Response) : Option AuteurVue :=
  match r.body with
  | .auteur v => if r.ok then some v else none
  | _ => none

def categories? (r : Response) : Option (List CategorieVue) :=
  match r.body with
  | .categories vs => if r.ok then some vs else none
  | _ => none

def reservations? (r : Response) : Option (List ReservationVue) :=
  match r.body with
  | .reservations vs => if r.ok then some vs else none
  | _ => none

end Bibliotheque.Response
