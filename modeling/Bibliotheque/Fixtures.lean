import Bibliotheque.Php
import Bibliotheque.Schema

/-! # The initial catalogue

`AppFixtures::load`: ten categories, ten authors, thirteen books, six accounts. No loan and no
reservation is loaded and no book points to a loan. -/

namespace Bibliotheque

open Lib

/-- Midnight of a calendar day, in seconds: the usual count of days from 1970-01-01. -/
def date (y m d : Int) : Int :=
  let y' := if m ≤ 2 then y - 1 else y
  let era := y' / 400
  let yoe := y' - era * 400
  let doy := (153 * (if m ≤ 2 then m + 9 else m - 3) + 2) / 5 + d - 1
  let doe := yoe * 365 + yoe / 4 - yoe / 100 + doy
  days (era * 146097 + doe - 719468)

example : date 1970 1 1 = 0 ∧ date 2000 3 1 = 951868800 ∧ date 1969 12 31 = -86400 := by decide

namespace AppFixtures

def categories : List Categorie :=
  [("Roman", "Fiction et grands classiques."),
    ("Science-fiction", "Technologies, futur et voyages spatiaux."),
    ("Policier", "Enquetes et suspense."),
    ("Histoire", "Recits historiques et biographies."),
    ("Philosophie", "Idees, essais et pensee critique."),
    ("Jeunesse", "Lectures pour les plus jeunes."),
    ("Fantastique", "Imaginaire et surnaturel."),
    ("Aventure", "Voyages et exploration."),
    ("Dystopie", "Societes oppressives et futurs sombres."),
    ("Informatique", "Developpement et qualite logicielle.")].map
  fun (nom, description) => ⟨0, nom, some description⟩

def auteur (nom prenom : String) (naissance : Int) (deces : Option Int) (nationalite : String) :
    Auteur :=
  ⟨0, nom, prenom, naissance, deces, some nationalite, none, none⟩

def auteurs : List Auteur :=
  [auteur "Hugo" "Victor" (date 1802 2 26) (some (date 1885 5 22)) "Francaise",
    auteur "Orwell" "George" (date 1903 6 25) (some (date 1950 1 21)) "Britannique",
    auteur "Asimov" "Isaac" (date 1920 1 2) (some (date 1992 4 6)) "Americaine",
    auteur "Verne" "Jules" (date 1828 2 8) (some (date 1905 3 24)) "Francaise",
    auteur "Christie" "Agatha" (date 1890 9 15) (some (date 1976 1 12)) "Britannique",
    auteur "Shelley" "Mary" (date 1797 8 30) (some (date 1851 2 1)) "Britannique",
    auteur "Saint-Exupery" "Antoine" (date 1900 6 29) (some (date 1944 7 31)) "Francaise",
    auteur "Herbert" "Frank" (date 1920 10 8) (some (date 1986 2 11)) "Americaine",
    auteur "Harari" "Yuval" (date 1976 2 24) none "Israelienne",
    auteur "Martin" "Robert" (date 1952 12 5) none "Americaine"]

/-- A book with the positions of its authors and categories in the lists above, from 1. -/
structure Fiche where
  titre : String
  dateSortie : Int
  langue : String
  auteurs : List Nat
  categories : List Nat

def livres : List Fiche :=
  [⟨"Les Miserables", date 1862 1 1, "Francais", [1], [1, 4]⟩,
    ⟨"Notre-Dame de Paris", date 1831 1 1, "Francais", [1], [1, 4]⟩,
    ⟨"1984", date 1949 6 8, "English", [2], [1, 9]⟩,
    ⟨"Animal Farm", date 1945 8 17, "English", [2], [1, 9]⟩,
    ⟨"Foundation", date 1951 6 1, "English", [3], [2]⟩,
    ⟨"I, Robot", date 1950 12 2, "English", [3], [2]⟩,
    ⟨"Frankenstein", date 1818 1 1, "English", [6], [7, 2]⟩,
    ⟨"Murder on the Orient Express", date 1934 1 1, "English", [5], [3]⟩,
    ⟨"Le Petit Prince", date 1943 4 6, "Francais", [7], [6, 7]⟩,
    ⟨"Voyage au centre de la Terre", date 1864 11 25, "Francais", [4], [8, 2]⟩,
    ⟨"Dune", date 1965 8 1, "English", [8], [2]⟩,
    ⟨"Sapiens", date 2011 1 1, "English", [9], [4]⟩,
    ⟨"Clean Code", date 2008 8 1, "English", [10], [10]⟩]

/-- The rows of `livre`: no pointer is set. -/
def tableLivres : Table Livre :=
  .ofList (livres.map fun f => ⟨0, f.titre, f.dateSortie, f.langue, none, none⟩)

def compte (env : Env) (email nom prenom : String) (roles : List Role) (adhesion naissance : Int)
    (adresse numTel password : String) : Utilisateur where
  id := 0
  dateAdhesion := adhesion
  nom := nom
  prenom := prenom
  dateNaiss := naissance
  email := email
  adressePostale := adresse
  numTel := numTel
  photo := none
  enabled := true
  roles := roles
  password := env.hashPassword password

def utilisateurs (env : Env) : List Utilisateur :=
  [compte env "admin@biblio.fr" "Admin" "Principal"
      [.admin, .responsable, .bibliothecaire, .adherent] (date 2024 9 1) (date 1985 3 10)
      "10 rue de l Administration, 31000 Toulouse" "0102030405" "admin",
    compte env "alice.dupont@biblio.fr" "Dupont" "Alice" [.adherent] (date 2025 1 15)
      (date 1998 5 12) "12 rue Victor Hugo, 31000 Toulouse" "0612345678" "password",
    compte env "anthony.durand@biblio.fr" "Durand" "Anthony" [.adherent] (date 2025 2 10)
      (date 1996 1 20) "5 rue des Lilas, 31000 Toulouse" "0612340001" "password",
    compte env "andre.lefevre@biblio.fr" "Lefevre" "Andre" [.adherent] (date 2025 2 12)
      (date 1994 9 2) "18 avenue des Arts, 31000 Toulouse" "0612340002" "password",
    compte env "bruno.martin@biblio.fr" "Martin" "Bruno" [.bibliothecaire] (date 2024 11 2)
      (date 1988 6 14) "2 place du Capitole, 31000 Toulouse" "0612340003" "password",
    compte env "robert.bertrand@biblio.fr" "Bertrand" "Robert" [.responsable] (date 2024 10 10)
      (date 1980 3 22) "40 boulevard Gambetta, 31000 Toulouse" "0612340004" "password"]

/-- `AppFixtures::load` on an empty database. -/
def load (env : Env) : Db where
  livres := tableLivres
  auteurs := .ofList auteurs
  categories := .ofList categories
  livreAuteur := (livres.zipIdx 1).flatMap fun (f, n) => f.auteurs.map fun a => (n, a)
  livreCategorie := (livres.zipIdx 1).flatMap fun (f, n) => f.categories.map fun c => (n, c)
  utilisateurs := .ofList (utilisateurs env)
  emprunts := .empty
  reservations := .empty

/-- The second account. -/
def alice : Utilisateur := (load .plain).utilisateurs.rows.get ⟨1, by decide⟩

theorem alice_mem : alice ∈ (load .plain).utilisateurs.rows := List.get_mem _ _

/-- The first book. -/
def lesMiserables : Livre := tableLivres.rows.get ⟨0, by decide⟩

theorem lesMiserables_mem : lesMiserables ∈ tableLivres.rows := List.get_mem _ _

end AppFixtures

end Bibliotheque
