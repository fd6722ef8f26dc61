import Bibliotheque.Lib.Run
import Bibliotheque.Api
import Bibliotheque.Fixtures

/-! # Members cannot touch each other through the API

Whatever the others send, a member keeps his account, his loans and his unexpired reservations. The
one thing others do to his rows is the purge that every reservation request performs, and it deletes
nothing that is still active later. -/

namespace Bibliotheque

open Lib ReservationsRepository

/-- A request to the API, by an account or anonymous, or a run of the expire command. -/
inductive ApiEvent where
  | request (now now' : Int) (user : Option Nat) (req : ApiRequest)
  | expire (now : Int)

namespace ApiEvent

def now : ApiEvent → Int
  | request now _ _ _ => now
  | expire now => now

def requester : ApiEvent → Option Nat
  | request _ _ user _ => user
  | expire _ => none

def apply (env : Env) (db : Db) : ApiEvent → Db
  | request now now' user req =>
      db.asRequester user fun w => (handle env now now' w req db).2
  | expire now => (ExpireReservationsCommand.execute now db).2

end ApiEvent

/-- What belongs to the member `u`: the account, the loans, and the reservations that are active at
the cutoff `c`. -/
def belongings (u : Nat) (c : Int) (db : Db) :
    Option Utilisateur × List Emprunt × List Reservations :=
  (db.utilisateurs.find? u, db.emprunts.rows.filter (fun e => decide (e.utilisateur = u)),
    db.reservations.rows.filter (fun r => decide (r.utilisateur = u) && actif c r))

/-- The rights of every account. -/
def rights (db : Db) : List (Nat × List Role × Bool) :=
  db.utilisateurs.rows.map fun v => (v.id, v.roles, v.enabled)

/-! ## One request -/

section Step

variable {u : Nat} {c : Int} {db : Db}

/-- Only the reservations differ, and not in those of the member. -/
theorem belongings_congr {db' : Db} (husers : db'.utilisateurs = db.utilisateurs)
    (hloans : db'.emprunts = db.emprunts)
    (hres : db'.reservations.rows.filter (fun r => decide (r.utilisateur = u) && actif c r) =
      db.reservations.rows.filter (fun r => decide (r.utilisateur = u) && actif c r)) :
    belongings u c db' = belongings u c db := by
  rw [belongings, belongings, husers, hloans, hres]

/-- A purge deletes nothing that is active at a later cutoff. -/
theorem belongings_purge {c' : Int} (hc : c' ≤ c) :
    belongings u c (purgeExpired c' db).2 = belongings u c db := by
  refine belongings_congr rfl rfl ?_
  rw [purgeExpired_rows, List.filter_filter]
  apply List.filter_congr
  intro r _
  cases hact : actif c r with
  | false => simp
  | true => simp [actif_anti hc hact]

/-- The reservation of another member. -/
theorem belongings_inserer {now' : Int} {user livre : Nat} (hne : user ≠ u) :
    belongings u c (ReservationController.inserer now' user livre db) = belongings u c db := by
  refine belongings_congr rfl rfl ?_
  rw [ReservationController.inserer, Table.rows_insert, List.filter_append]
  simp [ReservationController.nouvelle, hne]

theorem belongings_create {now now' : Int} {user : Nat} {demande : Option Nat} {db' : Db}
    (hc : cutoff now ≤ c) (hne : user ≠ u)
    (heff : ReservationController.CreateEffect now now' user demande db db') :
    belongings u c db' = belongings u c db := by
  cases heff with
  | rien => rfl
  | purge => exact belongings_purge hc
  | insertion livre hmem hdemande hemprunt hcount hactive =>
      rw [belongings_inserer hne, belongings_purge hc]

/-- A deleted reservation is the requester's. -/
theorem belongings_delete {user id : Nat} {db' : Db} (hne : user ≠ u)
    (heff : ReservationController.DeleteEffect user id db db') :
    belongings u c db' = belongings u c db := by
  cases heff with
  | rien => rfl
  | suppression r hr hid howner =>
      refine belongings_congr rfl rfl ?_
      rw [Table.rows_delete, List.filter_filter]
      apply List.filter_congr
      intro r' hr'
      by_cases hid : r'.id = r.id
      -- the deleted row is the requester's, not the member's
      · have hother : r'.utilisateur ≠ u := by
          rw [db.reservations.eq_of_id hr' hr hid, howner]
          exact hne
        simp [hother]
      · simp [hid]

/-- A profile is the requester's. -/
theorem belongings_ecrire {w w' : Utilisateur} (hne : w.id ≠ u) :
    belongings u c (AuthController.ecrire w w' db) = belongings u c db := by
  unfold belongings AuthController.ecrire
  rw [Table.find?_updateAt_of_ne _ _ _ hne.symm]

theorem belongings_effect {env : Env} {now now' : Int} {user : Option Utilisateur}
    {req : ApiRequest} {db' : Db} (hc : cutoff now ≤ c) (hne : user.map (·.id) ≠ some u)
    (heff : ApiEffect env now now' user db req db') : belongings u c db' = belongings u c db := by
  have hother : ∀ w, user = some w → w.id ≠ u := by
    rintro w rfl heq
    exact hne (congrArg some heq)
  cases heff with
  | rien => rfl
  | profil w data huser hflush => exact belongings_ecrire (hother w huser)
  | categorie data nom hnom => rfl
  | purge w huser hadherent => exact belongings_purge hc
  | reservation w data db' huser hadherent heff => exact belongings_create hc (hother w huser) heff
  | suppression w id db' huser hadherent heff => exact belongings_delete (hother w huser) heff

theorem belongings_apply {env : Env} {e : ApiEvent} (hc : cutoff e.now ≤ c)
    (hne : e.requester ≠ some u) : belongings u c (e.apply env db) = belongings u c db := by
  cases e with
  | request now now' user req =>
      rw [ApiEvent.apply]
      refine Db.asRequester_ind (motive := fun db' => belongings u c db' = belongings u c db) rfl ?_
      rintro w rfl -
      exact belongings_effect hc hne (handle_effect env now now' w req db)
  | expire now => exact belongings_purge hc

/-- No request, one's own included, gives or takes rights. -/
theorem rights_effect {env : Env} {now now' : Int} {user : Option Utilisateur}
    {req : ApiRequest} {db' : Db} (heff : ApiEffect env now now' user db req db') :
    rights db' = rights db := by
  cases heff with
  | rien => rfl
  | profil w data huser hflush =>
      unfold rights AuthController.ecrire
      rw [Table.rows_updateAt, List.map_map]
      apply List.map_congr_left
      intro v _
      simp only [Function.comp_apply]
      split <;> rfl
  | categorie data nom hnom => rfl
  | purge w huser hadherent => rfl
  | reservation w data db' huser hadherent heff => cases heff <;> rfl
  | suppression w id db' huser hadherent heff => cases heff <;> rfl

theorem rights_apply (env : Env) (db : Db) (e : ApiEvent) : rights (e.apply env db) = rights db := by
  cases e with
  | request now now' user req =>
      rw [ApiEvent.apply]
      refine Db.asRequester_ind (motive := fun db' => rights db' = rights db) rfl ?_
      intro w _ _
      exact rights_effect (handle_effect env now now' w req db)
  | expire now => rfl

end Step

/-! ## Whole runs -/

/-- **Integrity between members.** For any sequence of API requests and runs of the expire command:
if none of them is made as `u` and none happens after the time `fin`, then `u` has at the end the
account, the loans and the reservations unexpired at `fin` that he had at the start; and the rights of
all accounts are what they were, whoever made the requests. -/
theorem belongings_run (env : Env) (db : Db) (u : Nat) (fin : Int) (es : List ApiEvent) :
    ((∀ e ∈ es, e.now ≤ fin ∧ e.requester ≠ some u) →
      belongings u (cutoff fin) (run (ApiEvent.apply env) db es) =
        belongings u (cutoff fin) db) ∧
    rights (run (ApiEvent.apply env) db es) = rights db := by
  constructor
  · intro hes
    refine run_congr_of_along (P := fun _ e => e.now ≤ fin ∧ e.requester ≠ some u)
      (belongings u (cutoff fin)) ?_ (along_of_forall hes)
    rintro db e ⟨hnow, hne⟩
    exact belongings_apply (cutoff_mono hnow) hne
  · exact run_congr_of_along (P := fun _ _ => True) rights (fun db e _ => rights_apply env db e)
      (along_of_forall fun _ _ => trivial)

/-- Alice reserves a book; what Anthony, an anonymous visitor and the expire command then do changes
nothing of hers. -/
theorem belongings_run_fixtures :
    let db := run (ApiEvent.apply .plain) (AppFixtures.load .plain)
      [.request 0 0 (some 2) (.reservationCreate (.obj [("livreId", .int 1)]))]
    let es : List ApiEvent :=
      [.request 10 11 (some 3) (.userUpdate (.obj [("email", .str "a@b.fr")])),
        .request 20 20 (some 3) (.reservationDelete 1), .request 30 30 none .empruntIndex, .expire 40]
    (belongings 2 (cutoff 40) db).2.2 = [⟨1, 0, 2, 1⟩] ∧
    (∀ e ∈ es, e.now ≤ 40 ∧ e.requester ≠ some 2) ∧
    belongings 2 (cutoff 40) (run (ApiEvent.apply .plain) db es) = belongings 2 (cutoff 40) db := by
  intro db es
  have hes : ∀ e ∈ es, e.now ≤ 40 ∧ e.requester ≠ some 2 := by
    simp [es, ApiEvent.now, ApiEvent.requester]
  exact ⟨by decide +kernel, hes, (belongings_run .plain db 2 40 es).1 hes⟩

end Bibliotheque
