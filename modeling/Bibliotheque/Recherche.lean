import Bibliotheque.Php
import Bibliotheque.Serialization

/-! # Searching the catalogue

`RechercheRepository::searchLivres` filters the rows of a double `LEFT JOIN` — book, author or
`NULL`, category or `NULL` — and Doctrine folds the rows that are left back into books, each with the
authors and categories of its own rows. `LivreController::search` prepares the criteria. -/

namespace Bibliotheque

/-- PHP's truthiness of a string. -/
def truthyText (s : String) : Bool := s != "" && s != "0"

/-- A row of the join. -/
structure LigneRecherche where
  livre : Livre
  auteur : Option Auteur
  categorie : Option Categorie
  deriving DecidableEq, Repr

/-- The criteria of `searchLivres`. -/
structure Criteres where
  titre : Option String
  auteur : Option String
  categorie : Option String
  langue : Option String
  dateMin : Option Int
  dateMax : Option Int
  deriving DecidableEq, Repr

namespace RechercheRepository

/-- The right side of a `LEFT JOIN`: one `NULL` when there is nothing. -/
def leftJoin {α : Type} (xs : List α) : List (Option α) :=
  if xs.isEmpty then [none] else xs.map some

/-- `FROM livre l LEFT JOIN l.auteurs a LEFT JOIN l.categories c`. -/
def jointure (db : Db) : List LigneRecherche :=
  db.livres.rows.flatMap fun l =>
    (leftJoin (db.auteursDe l.id)).flatMap fun a =>
      (leftJoin (db.categoriesDe l.id)).map fun c => ⟨l, a, c⟩

/-- `LOWER(column) LIKE '%' . strtolower($critere) . '%'`; a `NULL` column is not kept. -/
def likeCritere (env : Env) (critere : String) (column : Option String) : Bool :=
  column.any fun s => env.like (env.lower s) ("%" ++ critere.toLower ++ "%")

/-- `if ($critere) andWhere(…)`. -/
def andWhere (critere : Option String) (cond : String → Bool) : Bool :=
  match critere with
  | none => true
  | some s => !truthyText s || cond s

/-- The `WHERE` clause. -/
def retenue (env : Env) (k : Criteres) (x : LigneRecherche) : Bool :=
  andWhere k.titre (fun s => likeCritere env s (some x.livre.titre)) &&
  andWhere k.auteur (fun s =>
    likeCritere env s (x.auteur.map (·.nom)) || likeCritere env s (x.auteur.map (·.prenom))) &&
  andWhere k.categorie (fun s => likeCritere env s (x.categorie.map (·.nom))) &&
  andWhere k.langue (fun s => likeCritere env s (some x.livre.langue)) &&
  k.dateMin.all (fun d => decide (d ≤ x.livre.dateSortie)) &&
  k.dateMax.all (fun d => decide (x.livre.dateSortie ≤ d))

/-- `searchLivres`: the books in the order of their first row, with the authors and the categories
of their rows. -/
def searchLivres (env : Env) (k : Criteres) (db : Db) :
    List (Livre × List Auteur × List Categorie) :=
  let lignes := ((jointure db).filter (retenue env k)).eraseDups
  (lignes.map (·.livre)).eraseDups.map fun l =>
    let siennes := lignes.filter fun x => decide (x.livre.id = l.id)
    (l, (siennes.filterMap (·.auteur)).eraseDups, (siennes.filterMap (·.categorie)).eraseDups)

end RechercheRepository

/-- The query string of `GET /api/livres/recherche`. -/
structure Query where
  titre : Option String
  auteur : Option String
  categorie : Option String
  langue : Option String
  dateMin : Option String
  dateMax : Option String
  deriving DecidableEq, Repr

namespace LivreController

/-- The characters `trim` removes at both ends. -/
def estBlanc (c : Char) : Bool :=
  c == ' ' || c == '\t' || c == '\n' || c == '\r' || c == '\x00' || c == '\x0b'

def trim (s : String) : String :=
  .ofList ((s.toList.dropWhile estBlanc).reverse.dropWhile estBlanc).reverse

/-- `trim((string) $request->query->get(…, '')) ?: null`. -/
def critereTexte (v : Option String) : Option String :=
  let s := trim (v.getD "")
  if truthyText s then some s else none

/-- `LivreController::parseDate`. -/
def parseDate (env : Env) : Option String → Option Int
  | none => none
  | some s => if s = "" then none else env.parseDateTime s

/-- `GET /api/livres/recherche`. -/
def search (env : Env) (q : Query) (db : Db) : Response :=
  let dateMin := parseDate env q.dateMin
  let dateMax := parseDate env q.dateMax
  if q.dateMin.isSome && dateMin.isNone then .message 400 "Invalid dateMin"
  else if q.dateMax.isSome && dateMax.isNone then .message 400 "Invalid dateMax"
  else
    let livres := RechercheRepository.searchLivres env
      ⟨critereTexte q.titre, critereTexte q.auteur, critereTexte q.categorie, critereTexte q.langue,
        dateMin, dateMax⟩ db
    ⟨200, .livres (livres.map fun (l, auteurs, categories) =>
      Db.livreVueAvec l auteurs categories)⟩

end LivreController

end Bibliotheque
