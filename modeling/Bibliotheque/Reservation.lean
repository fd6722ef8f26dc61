import Bibliotheque.Php
import Bibliotheque.Serialization
import Mathlib.Data.List.Sort

/-! # Reservations

`ReservationsRepository`, `ReservationController` and the `app:reservations:expire` command. A
reservation is *active* at a cutoff when its date is not before it; the cutoff is seven days before
the clock. Every route that creates or lists reservations first deletes the expired ones, of all
members, and that deletion is committed even when the request is then refused.

A request reads the clock twice: `now` gives the cutoff, `now'` the date of the new row. -/

namespace Bibliotheque

open Lib

/-- `(new \DateTimeImmutable())->modify('-7 days')`. -/
def cutoff (now : Int) : Int := now - days 7

namespace ReservationsRepository

/-- The rows a query with `r.dateResa >= :cutoff` keeps. -/
def actif (c : Int) (r : Reservations) : Bool := decide (c ≤ r.dateResa)

/-- `DELETE … WHERE r.dateResa < :cutoff`, with the number of rows deleted. -/
def purgeExpired (c : Int) (db : Db) : Nat × Db :=
  (db.reservations.rows.countP (fun r => decide (r.dateResa < c)),
    { db with reservations := db.reservations.delete (fun r => decide (r.dateResa < c)) })

/-- `SELECT COUNT(r.id) … WHERE r.utilisateur = :user AND r.dateResa >= :cutoff`. -/
def countActiveForUser (user : Nat) (c : Int) (db : Db) : Nat :=
  db.reservations.rows.countP (fun r => decide (r.utilisateur = user) && actif c r)

/-- `… WHERE r.livre = :livre AND r.dateResa >= :cutoff`, at most one row. -/
def findActiveByLivre (livre : Nat) (c : Int) (db : Db) : Option Reservations :=
  db.reservations.rows.find? (fun r => decide (r.livre = livre) && actif c r)

/-- `… WHERE r.utilisateur = :user AND r.dateResa >= :cutoff ORDER BY r.dateResa DESC`. -/
def findActiveByUser (user : Nat) (c : Int) (db : Db) : List Reservations :=
  (db.reservations.rows.filter (fun r => decide (r.utilisateur = user) && actif c r)).insertionSort
    (fun r r' => r'.dateResa ≤ r.dateResa)

end ReservationsRepository

open ReservationsRepository

namespace ReservationController

/-- `GET /api/reservations`. -/
def index (now : Int) (user : Utilisateur) (db : Db) : Response × Db :=
  let purged := (purgeExpired (cutoff now) db).2
  (⟨200, .reservations ((findActiveByUser user.id (cutoff now) purged).map purged.reservationVue)⟩,
    purged)

/-- `GET /api/reservation/{id}` (the source's `show`). -/
def showAction (user : Utilisateur) (id : Nat) (db : Db) : Response :=
  match db.reservations.find? id with
  | none => .notFound
  | some reservation =>
      if reservation.utilisateur ≠ user.id then .message 403 "Acces refuse"
      else ⟨200, .reservation (db.reservationVue reservation)⟩

/-- The row `create` persists; the database gives it its key. -/
def nouvelle (now' : Int) (user livre : Nat) : Reservations where
  id := 0
  dateResa := now'
  utilisateur := user
  livre := livre

/-- `INSERT INTO reservations`. -/
def inserer (now' : Int) (user livre : Nat) (db : Db) : Db :=
  { db with reservations := db.reservations.insert (nouvelle now' user livre) }

/-- The part of `create` that follows `$livreRepository->find`: `livre` is the entity as it was
loaded, before the purge. -/
def createForLivre (now now' : Int) (user : Utilisateur) (livre : Livre) (db : Db) :
    Response × Db :=
  let c := cutoff now
  let purged := (purgeExpired c db).2
  if 3 ≤ countActiveForUser user.id c purged then
    (.message 409 "Limite de 3 reservations atteinte", purged)
  else if livre.emprunt.isSome then
    (.message 409 "Livre deja emprunte", purged)
  else if (findActiveByLivre livre.id c purged).isSome then
    (.message 409 "Livre deja reserve", purged)
  else
    (⟨201, .reservation ⟨purged.reservations.next, now', some ⟨livre.id, livre.titre⟩⟩⟩,
      inserer now' user.id livre.id purged)

/-- `POST /api/reservation`. -/
def create (env : Env) (now now' : Int) (user : Utilisateur) (data : Json) (db : Db) :
    Response × Db :=
  let idDuLivre := data.key "livreId"
  if !idDuLivre.truthy then
    (.message 400 "ID du livre manquant", db)
  else
    -- the value is used as a key as it stands in the body
    match env.entityId idDuLivre with
    | none => (.serverError "identifiant invalide", db)
    | some id =>
        match db.livres.find? id with
        | none => (.message 404 "Livre non trouve", db)
        | some livre => createForLivre now now' user livre db

/-- `DELETE /api/reservation/{id}`. -/
def delete (user : Utilisateur) (id : Nat) (db : Db) : Response × Db :=
  match db.reservations.find? id with
  | none => (.notFound, db)
  | some reservation =>
      if reservation.utilisateur ≠ user.id then
        (.message 403 "Vous ne pouvez pas supprimer cette reservation", db)
      else
        (.message 200 "Reservation supprimee avec succes",
          { db with reservations := db.reservations.delete (fun r => decide (r.id = reservation.id)) })

end ReservationController

/-- `ExpireReservationsCommand::execute`: the line it prints and the database it leaves. -/
def ExpireReservationsCommand.execute (now : Int) (db : Db) : String × Db :=
  let purge := purgeExpired (cutoff now) db
  ("Reservations expirees supprimees: " ++ toString purge.1, purge.2)

/-! ## What the operations do to the table of reservations

The purge keeps exactly the active rows, so right after it "active at the cutoff" is no condition at
all: this is what lets limits checked on active rows bound the whole table. -/

theorem not_expired (c : Int) (r : Reservations) :
    (!decide (r.dateResa < c)) = actif c r := by
  simp only [actif, ← decide_not, Int.not_lt]

@[simp] theorem purgeExpired_rows (c : Int) (db : Db) :
    (purgeExpired c db).2.reservations.rows = db.reservations.rows.filter (actif c) := by
  simp only [purgeExpired, Table.rows_delete, not_expired]

theorem actif_of_mem_purgeExpired {c : Int} {db : Db} {r : Reservations}
    (hr : r ∈ (purgeExpired c db).2.reservations.rows) : actif c r = true := by
  rw [purgeExpired_rows] at hr
  exact (List.mem_filter.mp hr).2

theorem countActiveForUser_purgeExpired (user : Nat) (c : Int) (db : Db) :
    countActiveForUser user c (purgeExpired c db).2 =
      (purgeExpired c db).2.reservations.rows.countP (fun r => decide (r.utilisateur = user)) := by
  unfold countActiveForUser
  apply List.countP_congr
  intro r hr
  simp [actif_of_mem_purgeExpired hr]

theorem findActiveByLivre_eq_none {livre : Nat} {c : Int} {db : Db} :
    findActiveByLivre livre c db = none ↔
      ∀ r ∈ db.reservations.rows, r.livre = livre → actif c r = false := by
  unfold findActiveByLivre
  rw [List.find?_eq_none]
  constructor
  · intro h r hr hl
    have := h r hr
    simpa [hl] using this
  · intro h r hr
    by_cases hl : r.livre = livre
    · simp [h r hr hl]
    · simp [hl]

/-- After the purge, no active row of a book means no row of the book. -/
theorem findActiveByLivre_purgeExpired {livre : Nat} {c : Int} {db : Db}
    (h : findActiveByLivre livre c (purgeExpired c db).2 = none) :
    ∀ r ∈ (purgeExpired c db).2.reservations.rows, r.livre ≠ livre := by
  intro r hr hl
  have hfalse := findActiveByLivre_eq_none.mp h r hr hl
  rw [actif_of_mem_purgeExpired hr] at hfalse
  cases hfalse

theorem cutoff_mono {now now' : Int} (h : now ≤ now') : cutoff now ≤ cutoff now' := by
  unfold cutoff
  omega

/-- A later cutoff leaves fewer rows active. -/
theorem actif_anti {c c' : Int} (h : c ≤ c') {r : Reservations} (hr : actif c' r = true) :
    actif c r = true := by
  simp only [actif, decide_eq_true_eq] at hr ⊢
  omega

theorem countActiveForUser_anti {c c' : Int} (h : c ≤ c') (user : Nat) (db : Db) :
    countActiveForUser user c' db ≤ countActiveForUser user c db := by
  apply List.countP_mono_left
  intro r _ hr
  simp only [Bool.and_eq_true] at hr ⊢
  exact ⟨hr.1, actif_anti h hr.2⟩

theorem findActiveByLivre_anti {c c' : Int} (h : c ≤ c') {livre : Nat} {db : Db}
    (hnone : findActiveByLivre livre c db = none) : findActiveByLivre livre c' db = none := by
  rw [findActiveByLivre_eq_none] at hnone ⊢
  intro r hr hl
  cases hact : actif c' r with
  | false => rfl
  | true => rw [← hnone r hr hl, actif_anti h hact]

/-- Fewer rows, fewer active rows of a member … -/
theorem countActiveForUser_sublist {user : Nat} {c : Int} {db db' : Db}
    (h : db'.reservations.rows.Sublist db.reservations.rows) :
    countActiveForUser user c db' ≤ countActiveForUser user c db :=
  h.countP_le

/-- … and none of a book stays none. -/
theorem findActiveByLivre_sublist {livre : Nat} {c : Int} {db db' : Db}
    (h : db'.reservations.rows.Sublist db.reservations.rows)
    (hnone : findActiveByLivre livre c db = none) : findActiveByLivre livre c db' = none := by
  rw [findActiveByLivre_eq_none] at hnone ⊢
  exact fun r hr => hnone r (h.subset hr)

theorem countActiveForUser_inserer (user : Nat) (c now' : Int) (user' livre' : Nat) (db : Db) :
    countActiveForUser user c (ReservationController.inserer now' user' livre' db) =
      countActiveForUser user c db + if user' = user ∧ c ≤ now' then 1 else 0 := by
  unfold countActiveForUser
  rw [ReservationController.inserer, Table.countP_insert]
  congr 1
  show (if (decide (user' = user) && decide (c ≤ now')) = true then 1 else 0) = _
  simp only [Bool.and_eq_true, decide_eq_true_eq]

theorem findActiveByLivre_inserer_of_ne {livre livre' : Nat} (hne : livre' ≠ livre) {c now' : Int}
    {user' : Nat} {db : Db} (hnone : findActiveByLivre livre c db = none) :
    findActiveByLivre livre c (ReservationController.inserer now' user' livre' db) = none := by
  rw [findActiveByLivre_eq_none] at hnone ⊢
  intro r hr hl
  rcases List.mem_append.mp hr with hold | hnew
  · exact hnone r hold hl
  · rw [List.mem_singleton.mp hnew] at hl
    exact absurd hl hne

namespace ReservationController

/-- **Everything `create` can do** to the database when the body names the key `demande`: leave it
alone, purge it, or purge it and insert a row for the book that has this key — and then the book was
loaded without a loan and the two queries passed. -/
inductive CreateEffect (now now' : Int) (user : Nat) (demande : Option Nat) (db : Db) : Db → Prop
  | rien : CreateEffect now now' user demande db db
  | purge : CreateEffect now now' user demande db (purgeExpired (cutoff now) db).2
  | insertion (livre : Livre) : livre ∈ db.livres.rows → demande = some livre.id →
      livre.emprunt = none →
      countActiveForUser user (cutoff now) (purgeExpired (cutoff now) db).2 < 3 →
      findActiveByLivre livre.id (cutoff now) (purgeExpired (cutoff now) db).2 = none →
      CreateEffect now now' user demande db
        (inserer now' user livre.id (purgeExpired (cutoff now) db).2)

theorem createForLivre_effect (now now' : Int) (user : Utilisateur) (livre : Livre) (db : Db)
    (hmem : livre ∈ db.livres.rows) :
    CreateEffect now now' user.id (some livre.id) db
      (createForLivre now now' user livre db).2 := by
  simp only [createForLivre]
  split
  · exact .purge
  · next hcount =>
    split
    · exact .purge
    · next hemprunt =>
      split
      · exact .purge
      · next hactive =>
        exact .insertion livre hmem rfl (by simpa using hemprunt) (by omega) (by simpa using hactive)

theorem create_effect (env : Env) (now now' : Int) (user : Utilisateur) (data : Json) (db : Db) :
    CreateEffect now now' user.id (env.entityId (data.key "livreId")) db
      (create env now now' user data db).2 := by
  simp only [create]
  split
  · exact .rien
  · split
    · exact .rien
    · next id hid =>
      rw [hid]
      split
      · exact .rien
      · next livre hfind =>
        obtain ⟨hmem, rfl⟩ := db.livres.find?_eq_some.mp hfind
        exact createForLivre_effect now now' user livre db hmem

/-- `delete` leaves the database alone or removes the row with this key, of the requester. -/
inductive DeleteEffect (user id : Nat) (db : Db) : Db → Prop
  | rien : DeleteEffect user id db db
  | suppression (r : Reservations) : r ∈ db.reservations.rows → r.id = id → r.utilisateur = user →
      DeleteEffect user id db
        { db with reservations := db.reservations.delete (fun r' => decide (r'.id = r.id)) }

theorem delete_effect (user : Utilisateur) (id : Nat) (db : Db) :
    DeleteEffect user.id id db (delete user id db).2 := by
  unfold delete
  split
  · exact .rien
  · next r hfind =>
    split
    · exact .rien
    · next howner =>
      obtain ⟨hr, hid⟩ := db.reservations.find?_eq_some.mp hfind
      exact .suppression r hr hid (not_not.mp howner)

end ReservationController

end Bibliotheque
