import Bibliotheque.Lending.Creation
import Bibliotheque.Reservation

/-! # Expired reservations

Seven days after its date a reservation is expired, but its row stays until somebody purges it. The
API purges before it looks, so nobody can tell there through its answers whether an earlier purge took
place (`expiry_invisible`). The back office does not: `persistEntity` takes any row of the book for a
reservation, and whether a loan is refused may depend on a purge
(`persistEntity_purge_iff`, `reservation_perimee`). -/

namespace Bibliotheque

open Lib ReservationsRepository EmpruntCrudController

/-! ## The back office -/

section BackOffice

variable {user : Utilisateur} {livre : Livre} {db : Db}

/-- A loan of `livre` to `user`, as the form sends it. -/
def formulaire (user : Utilisateur) (livre : Livre) (dateEmprunt dateRetour : Option Int) :
    EmpruntForm :=
  ⟨some user.id, some livre.id, dateEmprunt, dateRetour⟩

/-- With one row per book, the row that is found is the row there is. -/
theorem findReservation_eq_some_iff
    (hun : ∀ l : Nat, db.reservations.rows.countP (fun r => decide (r.livre = l)) ≤ 1) {l : Nat}
    {r : Reservations} :
    findReservation (some l) db = some r ↔ r ∈ db.reservations.rows ∧ r.livre = l := by
  constructor
  · exact findReservation_eq_some
  · rintro ⟨hr, hl⟩
    cases hfind : findReservation (some l) db with
    | none => exact absurd hl (findReservation_eq_none.mp hfind r hr)
    | some r' =>
        obtain ⟨hr', hl'⟩ := findReservation_eq_some hfind
        rw [Table.eq_of_countP_le_one (hun l) hr' hr (by simpa using hl') (by simpa using hl)]

/-- The outcome for an existing member and an existing book. -/
theorem persistEntity_motif (hu : user ∈ db.utilisateurs.rows) (hl : livre ∈ db.livres.rows)
    (now : Int) (dateEmprunt dateRetour : Option Int) :
    (persistEntity now (formulaire user livre dateEmprunt dateRetour) db).motif? =
      if ∃ r, findReservation (some livre.id) db = some r ∧ r.utilisateur ≠ user.id then
        some reserveParUnAutre
      else if 5 ≤ countEmpruntsActifs user.id db then some limiteDeCinq
      else (findEmpruntEnCours (some livre.id) db).map (fun e => dejaEmprunte (some livre) e db) := by
  have huser : db.utilisateurs.find? user.id = some user := db.utilisateurs.find?_eq_some.mpr ⟨hu, rfl⟩
  have hlivre : db.livres.find? livre.id = some livre := db.livres.find?_eq_some.mpr ⟨hl, rfl⟩
  have hany : (findReservation (some livre.id) db).any (fun r => decide (some r.utilisateur ≠ some user.id))
      = true ↔ ∃ r, findReservation (some livre.id) db = some r ∧ r.utilisateur ≠ user.id := by
    simp [Option.any_eq_true]
  simp only [persistEntity, formulaire, Option.bind_some, huser, hlivre, Option.map_some, hany]
  split
  · rfl
  · split
    · rfl
    · cases findEmpruntEnCours (some livre.id) db <;> rfl

/-- The purge looks at nothing but the reservations. -/
theorem persistEntity_motif_purge (hu : user ∈ db.utilisateurs.rows) (hl : livre ∈ db.livres.rows)
    (now c : Int) (dateEmprunt dateRetour : Option Int) :
    (persistEntity now (formulaire user livre dateEmprunt dateRetour) (purgeExpired c db).2).motif? =
      if ∃ r, findReservation (some livre.id) (purgeExpired c db).2 = some r ∧
          r.utilisateur ≠ user.id then
        some reserveParUnAutre
      else if 5 ≤ countEmpruntsActifs user.id db then some limiteDeCinq
      else (findEmpruntEnCours (some livre.id) db).map (fun e => dejaEmprunte (some livre) e db) :=
  @persistEntity_motif user livre (purgeExpired c db).2 hu hl now dateEmprunt dateRetour

/-- Only the reservation of somebody else makes `persistEntity` throw. -/
theorem persistEntity_motif_eq_reserve (hu : user ∈ db.utilisateurs.rows)
    (hl : livre ∈ db.livres.rows) (now : Int) (dateEmprunt dateRetour : Option Int) :
    (persistEntity now (formulaire user livre dateEmprunt dateRetour) db).motif? =
        some reserveParUnAutre ↔
      ∃ r, findReservation (some livre.id) db = some r ∧ r.utilisateur ≠ user.id := by
  rw [persistEntity_motif hu hl]
  split
  · next h => exact iff_of_true rfl h
  · next h =>
    refine iff_of_false ?_ h
    split
    · decide
    · simp [dejaEmprunte, reserveParUnAutre]

/-- **When expired reservations do not affect lending.** With at most one reservation row per book, a
loan has the same outcome with and without a purge just before, and is refused for a reservation only
if that is still active, exactly when the book has no expired reservation of another member. -/
theorem persistEntity_purge_iff (now : Int) (dateEmprunt dateRetour : Option Int)
    (hu : user ∈ db.utilisateurs.rows) (hl : livre ∈ db.livres.rows)
    (hun : ∀ l : Nat, db.reservations.rows.countP (fun r => decide (r.livre = l)) ≤ 1) :
    ((persistEntity now (formulaire user livre dateEmprunt dateRetour)
          (purgeExpired (cutoff now) db).2).motif? =
        (persistEntity now (formulaire user livre dateEmprunt dateRetour) db).motif? ∧
      ((persistEntity now (formulaire user livre dateEmprunt dateRetour) db).motif? =
          some reserveParUnAutre →
        ∃ r ∈ db.reservations.rows, r.livre = livre.id ∧ r.utilisateur ≠ user.id ∧
          cutoff now ≤ r.dateResa)) ↔
      ∀ r ∈ db.reservations.rows, r.livre = livre.id → r.utilisateur ≠ user.id →
        cutoff now ≤ r.dateResa := by
  have hun' : ∀ l : Nat, (purgeExpired (cutoff now) db).2.reservations.rows.countP
      (fun r => decide (r.livre = l)) ≤ 1 :=
    fun l => (db.reservations.countP_delete_le _ _).trans (hun l)
  have hmem : ∀ r, r ∈ (purgeExpired (cutoff now) db).2.reservations.rows ↔
      r ∈ db.reservations.rows ∧ cutoff now ≤ r.dateResa := by
    intro r
    rw [purgeExpired_rows, List.mem_filter, actif, decide_eq_true_eq]
  constructor
  · -- an expired row of somebody else would be the reason for a refusal
    rintro ⟨-, hactive⟩ r hr hlivre hother
    have hrefus := (persistEntity_motif_eq_reserve hu hl now dateEmprunt dateRetour).mpr
      ⟨r, (findReservation_eq_some_iff hun).mpr ⟨hr, hlivre⟩, hother⟩
    obtain ⟨r', hr', hlivre', -, hc⟩ := hactive hrefus
    have heq : r = r' := Table.eq_of_countP_le_one (hun livre.id) hr hr' (by simpa using hlivre)
      (by simpa using hlivre')
    rw [heq]
    exact hc
  · intro hcond
    have hsame : (∃ r, findReservation (some livre.id) (purgeExpired (cutoff now) db).2 = some r ∧
        r.utilisateur ≠ user.id) ↔
        ∃ r, findReservation (some livre.id) db = some r ∧ r.utilisateur ≠ user.id := by
      simp only [findReservation_eq_some_iff hun, findReservation_eq_some_iff hun', hmem]
      constructor
      · rintro ⟨r, ⟨⟨hr, -⟩, hlivre⟩, hother⟩
        exact ⟨r, ⟨hr, hlivre⟩, hother⟩
      · rintro ⟨r, ⟨hr, hlivre⟩, hother⟩
        exact ⟨r, ⟨⟨hr, hcond r hr hlivre hother⟩, hlivre⟩, hother⟩
    refine ⟨?_, ?_⟩
    · rw [persistEntity_motif_purge hu hl, persistEntity_motif hu hl]
      simp only [hsame]
    · intro hrefus
      obtain ⟨r, hfind, hother⟩ := (persistEntity_motif_eq_reserve hu hl _ _ _).mp hrefus
      obtain ⟨hr, hlivre⟩ := findReservation_eq_some hfind
      exact ⟨r, hr, hlivre, hother, hcond r hr hlivre hother⟩

end BackOffice

theorem unParLivre_reservePar (user : Nat) (emprunts : List Emprunt) (l : Nat) :
    (reservePar user emprunts).reservations.rows.countP (fun r => decide (r.livre = l)) ≤ 1 :=
  List.countP_le_length

/-- Her own reservation, expired or not, does not keep Alice from borrowing the book. -/
theorem persistEntity_purge_alice :
    (persistEntity (days 8) (formulaire AppFixtures.alice AppFixtures.lesMiserables none none)
      (purgeExpired (cutoff (days 8)) (reservePar 2 [])).2).motif? =
    (persistEntity (days 8) (formulaire AppFixtures.alice AppFixtures.lesMiserables none none)
      (reservePar 2 [])).motif? := by
  have hu : AppFixtures.alice ∈ (reservePar 2 []).utilisateurs.rows := AppFixtures.alice_mem
  have hl : AppFixtures.lesMiserables ∈ (reservePar 2 []).livres.rows :=
    AppFixtures.lesMiserables_mem
  have hsienne : ∀ r ∈ (reservePar 2 []).reservations.rows, r.livre = AppFixtures.lesMiserables.id →
      r.utilisateur ≠ AppFixtures.alice.id → cutoff (days 8) ≤ r.dateResa := by
    decide
  exact ((persistEntity_purge_iff (days 8) none none hu hl (unParLivre_reservePar 2 [])).mpr
    hsienne).1

/-- The reservation another member made eight days ago does, until somebody purges it. -/
theorem reservation_perimee :
    let form := formulaire AppFixtures.alice AppFixtures.lesMiserables none none
    (persistEntity (days 8) form (reservePar 3 [])).motif? = some reserveParUnAutre ∧
    (persistEntity (days 8) form (purgeExpired (cutoff (days 8)) (reservePar 3 [])).2).motif? =
      none ∧
    (∀ r ∈ (reservePar 3 []).reservations.rows, r.dateResa < cutoff (days 8)) ∧
    ∀ l : Nat, (reservePar 3 []).reservations.rows.countP (fun r => decide (r.livre = l)) ≤ 1 := by
  refine ⟨?_, ?_, ?_, unParLivre_reservePar 3 []⟩
  · decide
  · decide
  · decide

/-! ## The API -/

section Api

variable {c c' : Int} {db : Db}

/-- The reservations that are active at a cutoff. -/
def actives (c : Int) (db : Db) : List Reservations := db.reservations.rows.filter (actif c)

/-- An earlier purge has done part of the work of a later one. -/
theorem actif_and_of_le (h : c' ≤ c) (r : Reservations) : (actif c r && actif c' r) = actif c r := by
  simp only [actif, ← Bool.decide_and, decide_eq_decide]
  omega

theorem actives_purgeExpired (h : c' ≤ c) : actives c (purgeExpired c' db).2 = actives c db := by
  unfold actives
  rw [purgeExpired_rows, List.filter_filter]
  apply List.filter_congr
  intro r _
  exact actif_and_of_le h r

/-- Two purges in a row are the later one. -/
theorem purgeExpired_purgeExpired (h : c' ≤ c) :
    (purgeExpired c (purgeExpired c' db).2).2 = (purgeExpired c db).2 := by
  have htable : (purgeExpired c (purgeExpired c' db).2).2.reservations =
      (purgeExpired c db).2.reservations := by
    refine Table.ext_rows ?_ rfl
    rw [purgeExpired_rows c, purgeExpired_rows c]
    exact @actives_purgeExpired c c' db h
  show { db with reservations := (purgeExpired c (purgeExpired c' db).2).2.reservations } =
    { db with reservations := (purgeExpired c db).2.reservations }
  rw [htable]

variable {now now' : Int} {user : Utilisateur} {livre : Livre}

/-- From the purge on, `create` sees nothing that an earlier purge could have changed. -/
theorem createForLivre_purgeExpired (h : c' ≤ cutoff now) :
    ReservationController.createForLivre now now' user livre (purgeExpired c' db).2 =
      ReservationController.createForLivre now now' user livre db := by
  simp only [ReservationController.createForLivre, purgeExpired_purgeExpired h]

theorem index_purgeExpired (h : c' ≤ cutoff now) :
    ReservationController.index now user (purgeExpired c' db).2 =
      ReservationController.index now user db := by
  simp only [ReservationController.index, purgeExpired_purgeExpired h]

/-- The answer to `POST` is the same after an earlier purge, and so are the active rows it leaves. -/
theorem create_purgeExpired (env : Env) (data : Json) (h : c' ≤ cutoff now) :
    (ReservationController.create env now now' user data (purgeExpired c' db).2).1 =
        (ReservationController.create env now now' user data db).1 ∧
      actives (cutoff now)
          (ReservationController.create env now now' user data (purgeExpired c' db).2).2 =
        actives (cutoff now) (ReservationController.create env now now' user data db).2 := by
  have hsame : ∀ id, (purgeExpired c' db).2.livres.find? id = db.livres.find? id := fun _ => rfl
  simp only [ReservationController.create, hsame]
  split
  · exact ⟨rfl, actives_purgeExpired h⟩
  · split
    · exact ⟨rfl, actives_purgeExpired h⟩
    · split
      · exact ⟨rfl, actives_purgeExpired h⟩
      · rw [createForLivre_purgeExpired h]
        exact ⟨rfl, rfl⟩

/-- What the two queries count and find right after the purge, said of the rows before it. -/
theorem countActiveForUser_eq (user : Nat) (c : Int) (db : Db) :
    countActiveForUser user c (purgeExpired c db).2 =
      (actives c db).countP (fun r => decide (r.utilisateur = user)) := by
  rw [countActiveForUser_purgeExpired, purgeExpired_rows]
  rfl

theorem findActiveByLivre_eq_none_iff (livre : Nat) (c : Int) (db : Db) :
    findActiveByLivre livre c (purgeExpired c db).2 = none ↔ ∀ r ∈ actives c db, r.livre ≠ livre := by
  constructor
  · intro h r hr
    refine findActiveByLivre_purgeExpired h r ?_
    rw [purgeExpired_rows]
    exact hr
  · intro h
    rw [findActiveByLivre_eq_none]
    intro r hr hl
    rw [purgeExpired_rows] at hr
    exact absurd hl (h r hr)

/-- **`POST` on an existing book**: `201` exactly when three conditions on the active rows and the
pointer hold, and then one row is added. -/
theorem createForLivre_spec (now now' : Int) (user : Utilisateur) (livre : Livre) (db : Db) :
    ((ReservationController.createForLivre now now' user livre db).1.status = 201 ↔
      (actives (cutoff now) db).countP (fun r => decide (r.utilisateur = user.id)) < 3 ∧
      (∀ r ∈ actives (cutoff now) db, r.livre ≠ livre.id) ∧ livre.emprunt = none) ∧
    ((ReservationController.createForLivre now now' user livre db).1.status = 201 →
      (ReservationController.createForLivre now now' user livre db).2.reservations.rows =
        actives (cutoff now) db ++ [⟨db.reservations.next, now', user.id, livre.id⟩]) ∧
    ((ReservationController.createForLivre now now' user livre db).1.status ≠ 201 →
      (ReservationController.createForLivre now now' user livre db).2.reservations.rows =
        actives (cutoff now) db) := by
  have hrows := purgeExpired_rows (cutoff now) db
  have hrefus : ∀ texte, (Response.message 409 texte).status ≠ 201 := by
    intro texte
    show 409 ≠ 201
    decide
  simp only [← countActiveForUser_eq, ← findActiveByLivre_eq_none_iff,
    ReservationController.createForLivre]
  split
  · next hcount =>
    refine ⟨iff_of_false (hrefus _) ?_, fun h => absurd h (hrefus _), fun _ => hrows⟩
    omega
  · next hcount =>
    split
    · next hemprunt =>
      refine ⟨iff_of_false (hrefus _) ?_, fun h => absurd h (hrefus _), fun _ => hrows⟩
      rintro ⟨-, -, hnull⟩
      simp [hnull] at hemprunt
    · next hemprunt =>
      split
      · next hactive =>
        refine ⟨iff_of_false (hrefus _) ?_, fun h => absurd h (hrefus _), fun _ => hrows⟩
        rintro ⟨-, hnone, -⟩
        simp [hnone] at hactive
      · next hactive =>
        refine ⟨iff_of_true rfl ⟨by omega, by simpa using hactive, by simpa using hemprunt⟩, ?_,
          fun h => absurd rfl h⟩
        intro _
        rw [ReservationController.inserer, Table.rows_insert, hrows]
        rfl

/-- **`GET`** lists the member's active rows, the newest first, each once. -/
theorem findActiveByUser_spec (user : Nat) (c : Int) (db : Db) :
    (∀ r, r ∈ findActiveByUser user c db ↔
      r ∈ db.reservations.rows ∧ r.utilisateur = user ∧ c ≤ r.dateResa) ∧
    (findActiveByUser user c db).Nodup ∧
    (findActiveByUser user c db).Pairwise (fun r r' => r'.dateResa ≤ r.dateResa) ∧
    (findActiveByUser user c db).length = countActiveForUser user c db := by
  unfold findActiveByUser countActiveForUser
  refine ⟨?_, ?_, ?_, ?_⟩
  · intro r
    simp [actif]
  · have hnodup : db.reservations.rows.Nodup := db.reservations.nodup.of_map
    exact ((List.perm_insertionSort _ _).nodup_iff).mpr (hnodup.filter _)
  · have htotal : Std.Total (fun r r' : Reservations => r'.dateResa ≤ r.dateResa) :=
      ⟨fun r r' => Int.le_total r'.dateResa r.dateResa⟩
    have htrans : IsTrans Reservations (fun r r' => r'.dateResa ≤ r.dateResa) :=
      ⟨fun _ _ _ h h' => Int.le_trans h' h⟩
    exact List.pairwise_insertionSort _ _
  · rw [List.length_insertionSort, List.countP_eq_length_filter]

/-- A request that does not end in `201` leaves the active rows as they are. -/
theorem actives_create_of_ne (env : Env) (data : Json)
    (h : (ReservationController.create env now now' user data db).1.status ≠ 201) :
    actives (cutoff now) (ReservationController.create env now now' user data db).2 =
      actives (cutoff now) db := by
  revert h
  simp only [ReservationController.create]
  split
  · exact fun _ => rfl
  · split
    · exact fun _ => rfl
    · split
      · exact fun _ => rfl
      · next livre _ =>
        intro h
        have hrows := (createForLivre_spec now now' user livre db).2.2 h
        rw [actives, hrows, actives, List.filter_filter]
        simp only [Bool.and_self]

/-- **Expiry is invisible through the reservation API.** Whether some expired rows have been purged
before makes no difference to `POST` and `GET`, neither for the answer nor for the active rows they
leave. `POST` on an existing book succeeds exactly when the member has fewer than three active
reservations, the book has none and no loan; it then adds one row, and otherwise leaves the active
rows alone. `GET` lists the member's active rows, as many as `POST` counts. -/
theorem expiry_invisible (env : Env) (now now' c' : Int) (user : Utilisateur) (data : Json) (db : Db)
    (h : c' ≤ cutoff now) :
    ((ReservationController.create env now now' user data (purgeExpired c' db).2).1 =
        (ReservationController.create env now now' user data db).1 ∧
      actives (cutoff now)
          (ReservationController.create env now now' user data (purgeExpired c' db).2).2 =
        actives (cutoff now) (ReservationController.create env now now' user data db).2) ∧
    ((ReservationController.index now user (purgeExpired c' db).2).1 =
        (ReservationController.index now user db).1 ∧
      actives (cutoff now) (ReservationController.index now user (purgeExpired c' db).2).2 =
        actives (cutoff now) (ReservationController.index now user db).2) ∧
    (∀ id livre, (data.key "livreId").truthy = true → env.entityId (data.key "livreId") = some id →
      db.livres.find? id = some livre →
      ((ReservationController.create env now now' user data db).1.status = 201 ↔
        (actives (cutoff now) db).countP (fun r => decide (r.utilisateur = user.id)) < 3 ∧
        (∀ r ∈ actives (cutoff now) db, r.livre ≠ livre.id) ∧ livre.emprunt = none) ∧
      ((ReservationController.create env now now' user data db).1.status = 201 →
        (ReservationController.create env now now' user data db).2.reservations.rows =
          actives (cutoff now) db ++ [⟨db.reservations.next, now', user.id, livre.id⟩])) ∧
    ((ReservationController.create env now now' user data db).1.status ≠ 201 →
      actives (cutoff now) (ReservationController.create env now now' user data db).2 =
        actives (cutoff now) db) ∧
    ∃ rs : List Reservations,
      (ReservationController.index now user db).1 =
        ⟨200, .reservations (rs.map db.reservationVue)⟩ ∧
      (∀ r, r ∈ rs ↔ r ∈ db.reservations.rows ∧ r.utilisateur = user.id ∧
        cutoff now ≤ r.dateResa) ∧
      rs.Nodup ∧ rs.Pairwise (fun r r' => r'.dateResa ≤ r.dateResa) ∧
      rs.length = countActiveForUser user.id (cutoff now) (purgeExpired (cutoff now) db).2 := by
  refine ⟨create_purgeExpired env data h, ?_, ?_, actives_create_of_ne env data, ?_⟩
  · rw [index_purgeExpired h]
    exact ⟨rfl, rfl⟩
  · intro id livre htruthy hid hfind
    have hcreate : ReservationController.create env now now' user data db =
        ReservationController.createForLivre now now' user livre db := by
      simp only [ReservationController.create, htruthy, hid, hfind, Bool.not_true,
        Bool.false_eq_true, if_false]
    rw [hcreate]
    obtain ⟨hiff, hadded, -⟩ := createForLivre_spec now now' user livre db
    exact ⟨hiff, hadded⟩
  · obtain ⟨hmem, hnodup, hsorted, hlength⟩ :=
      findActiveByUser_spec user.id (cutoff now) (purgeExpired (cutoff now) db).2
    refine ⟨_, rfl, ?_, hnodup, hsorted, hlength⟩
    intro r
    rw [hmem, purgeExpired_rows, List.mem_filter]
    simp only [actif, decide_eq_true_eq]
    constructor
    · rintro ⟨⟨hr, hc⟩, huser, -⟩
      exact ⟨hr, huser, hc⟩
    · rintro ⟨hr, huser, hc⟩
      exact ⟨⟨hr, hc⟩, huser, hc⟩

/-- An expired reservation of book 1 does not keep Alice from reserving it, purged or not. -/
theorem expiry_invisible_alice :
    let data : Json := .obj [("livreId", .int 1)]
    let avant := reservePar 3 []
    (ReservationController.create .plain (days 8) (days 8) AppFixtures.alice data avant).1.status =
      201 ∧
    (ReservationController.create .plain (days 8) (days 8) AppFixtures.alice data
      (purgeExpired (days 1) avant).2).1.status = 201 := by
  intro data avant
  have hpost : (ReservationController.create .plain (days 8) (days 8) AppFixtures.alice data
      avant).1.status = 201 := by decide
  have hsame := (expiry_invisible .plain (days 8) (days 8) (days 1) AppFixtures.alice data avant
    (by decide)).1.1
  rw [hsame]
  exact ⟨hpost, hpost⟩

end Api

end Bibliotheque
