import Bibliotheque.Operations
import Bibliotheque.Fixtures

/-! # At most one reservation per book, at most three per member

Both limits hold of the whole table, expired rows included, although the code checks them on active
rows only: `purgeExpired` deletes exactly the complement of what the two queries look at, at the
same cutoff, so right after it every row is active. Nothing is assumed of the clock. -/

namespace Bibliotheque

open Lib ReservationsRepository

/-- The two limits, on all rows. -/
structure ReservationLimits (db : Db) : Prop where
  parLivre : ∀ livre : Nat,
    db.reservations.rows.countP (fun r => decide (r.livre = livre)) ≤ 1
  parMembre : ∀ user : Nat,
    db.reservations.rows.countP (fun r => decide (r.utilisateur = user)) ≤ 3

namespace ReservationLimits

variable {db : Db}

theorem congr {db' : Db} (h : ReservationLimits db)
    (heq : db'.reservations = db.reservations) : ReservationLimits db' := by
  constructor
  · rw [heq]; exact h.parLivre
  · rw [heq]; exact h.parMembre

/-- Deleting rows keeps both limits. -/
theorem delete (h : ReservationLimits db) (p : Reservations → Bool) {db' : Db}
    (heq : db'.reservations = db.reservations.delete p) : ReservationLimits db' := by
  constructor
  · intro livre
    rw [heq]
    exact (db.reservations.countP_delete_le p _).trans (h.parLivre livre)
  · intro user
    rw [heq]
    exact (db.reservations.countP_delete_le p _).trans (h.parMembre user)

/-- An edit that keeps the book and the member of a row keeps both limits. -/
theorem update (h : ReservationLimits db) (id : Nat) (f : Reservations → Reservations)
    (hf : ∀ r, Row.id (f r) = Row.id r) (hlivre : ∀ r, (f r).livre = r.livre)
    (huser : ∀ r, (f r).utilisateur = r.utilisateur) {db' : Db}
    (heq : db'.reservations = db.reservations.updateAt id f hf) : ReservationLimits db' := by
  constructor
  · intro livre
    rw [heq]
    refine (db.reservations.countP_updateAt_le id f hf _ _ ?_ (fun _ _ hp => hp)).trans
      (h.parLivre livre)
    intro r _ _ hp
    rwa [hlivre] at hp
  · intro user
    rw [heq]
    refine (db.reservations.countP_updateAt_le id f hf _ _ ?_ (fun _ _ hp => hp)).trans
      (h.parMembre user)
    intro r _ _ hp
    rwa [huser] at hp

theorem purge (h : ReservationLimits db) (c : Int) :
    ReservationLimits (purgeExpired c db).2 :=
  h.delete _ rfl

/-- A new row keeps the limits when its book has no row and its member fewer than three. -/
theorem inserer (h : ReservationLimits db) {now' : Int} {user livre : Nat}
    (hlivre : ∀ r ∈ db.reservations.rows, r.livre ≠ livre)
    (hcount : db.reservations.rows.countP (fun r => decide (r.utilisateur = user)) < 3) :
    ReservationLimits (ReservationController.inserer now' user livre db) := by
  constructor
  · intro livre'
    rw [ReservationController.inserer, Table.countP_insert]
    have hle := h.parLivre livre'
    by_cases heq : livre = livre'
    · subst heq
      have hzero : db.reservations.rows.countP (fun r => decide (r.livre = livre)) = 0 := by
        rw [List.countP_eq_zero]
        intro r hr
        simpa using hlivre r hr
      rw [hzero]
      split <;> omega
    · simpa [ReservationController.nouvelle, heq] using hle
  · intro user'
    rw [ReservationController.inserer, Table.countP_insert]
    have hle := h.parMembre user'
    by_cases heq : user = user'
    · subst heq
      split <;> omega
    · simpa [ReservationController.nouvelle, heq] using hle

/-- `create` keeps the limits at any clock values. -/
theorem create (h : ReservationLimits db) {now now' : Int} {user : Nat} {demande : Option Nat}
    {db' : Db} (heff : ReservationController.CreateEffect now now' user demande db db') :
    ReservationLimits db' := by
  cases heff with
  | rien => exact h
  | purge => exact h.purge _
  | insertion livre hmem hdemande hemprunt hcount hactive =>
      rw [countActiveForUser_purgeExpired] at hcount
      exact (h.purge _).inserer (findActiveByLivre_purgeExpired hactive) hcount

/-- **Every operation keeps the limits**, whatever its data. -/
theorem apply (env : Env) (h : ReservationLimits db) (op : Op) : ReservationLimits (op.apply env db) := by
  cases op with
  | persistEmprunt now form =>
      have heff := EmpruntCrudController.persistEntity_effect now form db
      simp only [Op.apply]
      generalize (EmpruntCrudController.persistEntity now form db).commit db = db' at heff
      cases heff with
      | rien => exact h
      | pret user livre removed => exact h.delete _ rfl
  | updateEmprunt id form =>
      have heff := EmpruntCrudController.updateEntity_effect id form db
      simp only [Op.apply]
      generalize (EmpruntCrudController.updateEntity id form db).2 = db' at heff
      cases heff with
      | rien => exact h
      | edition => exact h.congr rfl
  | deleteEmprunt id => exact h.congr rfl
  | deleteUtilisateur id => exact h.delete _ rfl
  | reservationCreate now now' user data =>
      rw [Op.apply]
      refine Db.asMember_ind h fun u _ => ?_
      exact h.create (ReservationController.create_effect env now now' u data db)
  | reservationDelete user id =>
      rw [Op.apply]
      refine Db.asMember_ind h fun u _ => ?_
      have heff := ReservationController.delete_effect u id db
      generalize (ReservationController.delete u id db).2 = db' at heff ⊢
      cases heff with
      | rien => exact h
      | suppression r => exact h.delete _ rfl
  | reservationIndex now user =>
      rw [Op.apply]
      exact Db.asMember_ind h fun u _ => h.purge _
  | expire now => exact h.purge _
  | editDateResa id date =>
      exact h.update id (fun r => { r with dateResa := date }) (fun _ => rfl) (fun _ => rfl)
        (fun _ => rfl) rfl

end ReservationLimits

theorem ReservationLimits.of_empty {db : Db} (h : db.reservations.rows = []) :
    ReservationLimits db := by
  constructor <;> intro _ <;> rw [h] <;> simp

/-- **The reservation table invariant.** From an empty table, any finite sequence of operations — at
any clock values, also decreasing ones — leaves at most one row per book and at most three rows per
member. -/
theorem reservationLimits_run (env : Env) (db : Db) (hempty : db.reservations.rows = [])
    (ops : List Op) : ReservationLimits (run (Op.apply env) db ops) :=
  Always.last (always_of_along (P := fun _ _ => True) (fun _ op h _ => h.apply env op)
    (ReservationLimits.of_empty hempty) (along_of_forall fun _ _ => trivial))

/-- Two members ask for the same book in turn, the clock going backwards in between. -/
theorem reservationLimits_run_fixtures :
    (AppFixtures.load .plain).reservations.rows = [] ∧
    ReservationLimits (run (Op.apply .plain) (AppFixtures.load .plain)
      [.reservationCreate 900000 900001 2 (.obj [("livreId", .int 1)]),
        .reservationCreate 5 6 3 (.obj [("livreId", .int 1)]), .expire 0]) :=
  ⟨rfl, reservationLimits_run .plain (AppFixtures.load .plain) rfl _⟩

end Bibliotheque
