import Bibliotheque.Lib.Relational

/-! # The migration

`migrations/Version20260311191308.php`, statement by statement. The character set of the tables is left
out. The foreign keys are added when all tables are there, since books and loans refer to each other;
`down` takes them away before the tables for the same reason.

`migration_reversible`: on any schema, `up` is carried out exactly if none of its names is taken, and
then `down` gives the schema back. -/

namespace Bibliotheque.Version20260311191308

open Lib.Relational

/-- `NOT NULL`. -/
def requis (name : String) (type : SqlType) : Column String := ⟨name, type, false, false⟩

/-- `DEFAULT NULL`. -/
def facultatif (name : String) (type : SqlType) : Column String := ⟨name, type, true, false⟩

/-- `id INT AUTO_INCREMENT NOT NULL`. -/
def cle : Column String := ⟨"id", .int, false, true⟩

def auteur : TableDef String String where
  name := "auteur"
  columns := [cle, requis "nom" (.varchar 255), requis "prenom" (.varchar 255),
    requis "date_naissance" .datetime, facultatif "date_deces" .datetime,
    facultatif "nationalite" (.varchar 255), facultatif "photo" (.varchar 255),
    facultatif "description" (.varchar 255)]
  indexes := []
  uniques := []
  primaryKey := ["id"]

def categorie : TableDef String String where
  name := "categorie"
  columns := [cle, requis "nom" (.varchar 255), facultatif "description" (.varchar 255)]
  indexes := []
  uniques := []
  primaryKey := ["id"]

def emprunt : TableDef String String where
  name := "emprunt"
  columns := [cle, requis "date_emprunt" .datetime, facultatif "date_retour" .datetime,
    requis "utilisateur_id" .int, requis "livre_id" .int]
  indexes := [("IDX_364071D7FB88E14F", "utilisateur_id"), ("IDX_364071D737D925CB", "livre_id")]
  uniques := []
  primaryKey := ["id"]

def livre : TableDef String String where
  name := "livre"
  columns := [cle, requis "titre" (.varchar 255), requis "date_sortie" .datetime,
    requis "langue" (.varchar 255), facultatif "photo_couverture" (.varchar 255),
    facultatif "emprunt_id" .int]
  indexes := [("IDX_AC634F99AE7FEF94", "emprunt_id")]
  uniques := []
  primaryKey := ["id"]

def livreAuteur : TableDef String String where
  name := "livre_auteur"
  columns := [requis "livre_id" .int, requis "auteur_id" .int]
  indexes := [("IDX_A11876B537D925CB", "livre_id"), ("IDX_A11876B560BB6FE6", "auteur_id")]
  uniques := []
  primaryKey := ["livre_id", "auteur_id"]

def livreCategorie : TableDef String String where
  name := "livre_categorie"
  columns := [requis "livre_id" .int, requis "categorie_id" .int]
  indexes := [("IDX_E61B069E37D925CB", "livre_id"), ("IDX_E61B069EBCF5E72D", "categorie_id")]
  uniques := []
  primaryKey := ["livre_id", "categorie_id"]

def reservations : TableDef String String where
  name := "reservations"
  columns := [cle, requis "date_resa" .datetime, requis "utilisateur_id" .int,
    requis "livre_id" .int]
  indexes := [("IDX_4DA239FB88E14F", "utilisateur_id"), ("IDX_4DA23937D925CB", "livre_id")]
  uniques := []
  primaryKey := ["id"]

def utilisateur : TableDef String String where
  name := "utilisateur"
  columns := [cle, requis "date_adhesion" .datetime, requis "nom" (.varchar 255),
    requis "prenom" (.varchar 255), requis "date_naiss" .datetime, requis "email" (.varchar 255),
    requis "adresse_postale" (.varchar 255), requis "num_tel" (.varchar 20),
    facultatif "photo" (.varchar 255), requis "enabled" .tinyint, requis "roles" .json,
    requis "password" (.varchar 255)]
  indexes := []
  uniques := [("UNIQ_IDENTIFIER_EMAIL", "email")]
  primaryKey := ["id"]

/-- The foreign keys; what is not said otherwise is `RESTRICT`. -/
def foreignKeys : List (ForeignKey String String) :=
  [⟨"FK_364071D7FB88E14F", "emprunt", "utilisateur_id", "utilisateur", "id", .restrict⟩,
    ⟨"FK_364071D737D925CB", "emprunt", "livre_id", "livre", "id", .restrict⟩,
    ⟨"FK_AC634F99AE7FEF94", "livre", "emprunt_id", "emprunt", "id", .setNull⟩,
    ⟨"FK_A11876B537D925CB", "livre_auteur", "livre_id", "livre", "id", .cascade⟩,
    ⟨"FK_A11876B560BB6FE6", "livre_auteur", "auteur_id", "auteur", "id", .cascade⟩,
    ⟨"FK_E61B069E37D925CB", "livre_categorie", "livre_id", "livre", "id", .cascade⟩,
    ⟨"FK_E61B069EBCF5E72D", "livre_categorie", "categorie_id", "categorie", "id", .cascade⟩,
    ⟨"FK_4DA239FB88E14F", "reservations", "utilisateur_id", "utilisateur", "id", .restrict⟩,
    ⟨"FK_4DA23937D925CB", "reservations", "livre_id", "livre", "id", .restrict⟩]

def up : List (Ddl String String) :=
  [.createTable auteur, .createTable categorie, .createTable emprunt, .createTable livre,
    .createTable livreAuteur, .createTable livreCategorie, .createTable reservations,
    .createTable utilisateur] ++ foreignKeys.map .addForeignKey

def down : List (Ddl String String) :=
  [.dropForeignKey "emprunt" "FK_364071D7FB88E14F", .dropForeignKey "emprunt" "FK_364071D737D925CB",
    .dropForeignKey "livre" "FK_AC634F99AE7FEF94",
    .dropForeignKey "livre_auteur" "FK_A11876B537D925CB",
    .dropForeignKey "livre_auteur" "FK_A11876B560BB6FE6",
    .dropForeignKey "livre_categorie" "FK_E61B069E37D925CB",
    .dropForeignKey "livre_categorie" "FK_E61B069EBCF5E72D",
    .dropForeignKey "reservations" "FK_4DA239FB88E14F",
    .dropForeignKey "reservations" "FK_4DA23937D925CB",
    .dropTable "auteur", .dropTable "categorie", .dropTable "emprunt", .dropTable "livre",
    .dropTable "livre_auteur", .dropTable "livre_categorie", .dropTable "reservations",
    .dropTable "utilisateur"]

/-- The tables of the application. -/
def tables : List (TableDef String String) :=
  [auteur, categorie, emprunt, livre, livreAuteur, livreCategorie, reservations, utilisateur]

theorem up_eq : up = Lib.Relational.up tables foreignKeys := rfl

theorem down_eq : down = Lib.Relational.down tables foreignKeys := rfl

/-- **The migration can be undone.** On any schema, whatever other tables it has, `up` is carried out
exactly if none of the tables and constraints it creates is there by name, and `down` then leads back
to that schema, every foreign key in its place and no table refused. -/
theorem migration_reversible (s : Schema String String) :
    ((s.script up).isSome = true ↔
      (∀ t ∈ tables, t.name ∉ s.names) ∧ ∀ f ∈ foreignKeys, f.name ∉ s.foreignNames) ∧
    ∀ s', s.script up = some s' → s'.script down = some s := by
  rw [up_eq, down_eq]
  refine ⟨Schema.up_isSome_iff ?_ ?_ ?_ ?_, fun s' => Schema.down_up⟩
  all_goals decide

end Bibliotheque.Version20260311191308
