import Bibliotheque.Api
import Bibliotheque.Invariant.Emprunts
import Bibliotheque.Lending.Creation

/-! # Two ways to create a loan

A loan is created in the back office by `EmpruntCrudController::persistEntity`, and there is a route
for it in the API, `EmpruntController::create`. The route hands the decoded values of the body to
setters that take entities, without looking the entities up as `ReservationController::create` does,
so it ends in an error whatever the body says.

The two ways therefore agree exactly where the back office turns the loan down as well
(`concordent_iff`). -/

namespace Bibliotheque

open Lib EmpruntCrudController

/-- The members `livre` and `utilisateur` of the body designate this book and this account. -/
structure Designe (env : Env) (data : Json) (user : Utilisateur) (livre : Livre) (db : Db) :
    Prop where
  livre_mem : livre ∈ db.livres.rows
  livre_key : env.entityId (data.key "livre") = some livre.id
  user_mem : user ∈ db.utilisateurs.rows
  user_key : env.entityId (data.key "utilisateur") = some user.id

/-- The form of an open loan, dated when it is saved. -/
def pretOuvert (user livre : Nat) : EmpruntForm := ⟨some user, some livre, none, none⟩

/-- The request of `membre` to the route and the form saved in the back office agree. -/
structure Concordent (env : Env) (now now' : Int) (membre : Utilisateur) (data : Json)
    (user livre : Nat) (db : Db) : Prop where
  accepte : (handle env now now' (some membre) (.empruntCreate data) db).1.status = 201 ↔
    ∃ w, persistEntity now (pretOuvert user livre) db = .accepte w
  effet : (handle env now now' (some membre) (.empruntCreate data) db).1.status = 201 →
    (handle env now now' (some membre) (.empruntCreate data) db).2.emprunts.rows =
        ((persistEntity now (pretOuvert user livre) db).commit db).emprunts.rows ∧
      (handle env now now' (some membre) (.empruntCreate data) db).2.reservations.rows =
        ((persistEntity now (pretOuvert user livre) db).commit db).reservations.rows ∧
      (handle env now now' (some membre) (.empruntCreate data) db).2.livres.rows =
        ((persistEntity now (pretOuvert user livre) db).commit db).livres.rows
  sansEffet : (handle env now now' (some membre) (.empruntCreate data) db).1.status ≠ 201 →
    (handle env now now' (some membre) (.empruntCreate data) db).2 = db
  refus : (∀ w, persistEntity now (pretOuvert user livre) db ≠ .accepte w) →
    (persistEntity now (pretOuvert user livre) db).commit db = db

theorem EmpruntController.create_status (data : Json) : (create data).status = 500 := by
  unfold create
  split <;> rfl

/-- The route creates no loan, for nobody and from no body. -/
theorem handle_empruntCreate (env : Env) (now now' : Int) (user : Option Utilisateur) (data : Json)
    (db : Db) :
    (handle env now now' user (.empruntCreate data) db).1.status ≠ 201 ∧
      (handle env now now' user (.empruntCreate data) db).2 = db := by
  rw [handle_eq_dispatch, dispatch]
  unfold asAdherent
  cases user with
  | none => simp [accesRefuse, Response.message]
  | some u =>
      simp only
      split
      · simp [EmpruntController.create_status]
      · simp [accesRefuse]

/-- In a state with the invariant, that the book has no open loan can be read off its pointer. -/
theorem pretable_iff {db : Db} (h : LoanInvariant db) {user : Nat} {livre : Livre}
    (hlivre : livre ∈ db.livres.rows) :
    Pretable user livre.id db ↔
      (∀ r, findReservation (some livre.id) db = some r → r.utilisateur = user) ∧
      countEmpruntsActifs user db < 5 ∧ livre.emprunt = none := by
  have hlibre := h.disponible livre hlivre
  rw [Livre.isDisponible_eq_true] at hlibre
  exact ⟨fun hp => ⟨hp.reservation, hp.membre, hlibre.mpr hp.libre⟩,
    fun ⟨hres, hcount, hnull⟩ => ⟨hres, hcount, hlibre.mp hnull⟩⟩

/-- Where the route never succeeds, agreeing is being refused in the back office. -/
theorem concordent_iff_refuse (env : Env) (now now' : Int) (membre : Utilisateur) (data : Json)
    (user livre : Nat) (db : Db) :
    Concordent env now now' membre data user livre db ↔
      ¬ ∃ w, persistEntity now (pretOuvert user livre) db = .accepte w := by
  obtain ⟨hstatus, hdb⟩ := handle_empruntCreate env now now' (some membre) data db
  constructor
  · intro h haccepte
    exact hstatus (h.accepte.mpr haccepte)
  · intro hrefuse
    refine ⟨?_, fun h => absurd h hstatus, fun _ => hdb, ?_⟩
    · exact ⟨fun h => absurd h hstatus, fun h => absurd h hrefuse⟩
    · intro hnot
      cases hissue : persistEntity now (pretOuvert user livre) db with
      | accepte w => exact absurd hissue (hnot w)
      | refuse motif pending => rfl

/-- **The two ways agree exactly on the loans the back office refuses**: the reservation it finds for
the book is another member's, the member has five open loans, or the book is lent. There may be several
reservations of the book; the one that is found is the first. -/
theorem concordent_iff (env : Env) (now now' : Int) {db : Db} (h : LoanInvariant db)
    (membre : Utilisateur) {data : Json} {user : Utilisateur} {livre : Livre}
    (hd : Designe env data user livre db) :
    Concordent env now now' membre data user.id livre.id db ↔
      (∃ r, findReservation (some livre.id) db = some r ∧ r.utilisateur ≠ user.id) ∨
        5 ≤ countEmpruntsActifs user.id db ∨ livre.emprunt ≠ none := by
  have haccepte : (∃ w, persistEntity now (pretOuvert user.id livre.id) db = .accepte w) ↔
      Pretable user.id livre.id db :=
    accepte_iff_pretable (bind_find?_of_mem hd.user_mem rfl) (bind_find?_of_mem hd.livre_mem rfl)
  rw [concordent_iff_refuse, haccepte, pretable_iff h hd.livre_mem]
  constructor
  · intro hnot
    by_contra hnone
    push Not at hnone
    exact hnot ⟨hnone.1, hnone.2.1, hnone.2.2⟩
  · rintro (⟨r, hr, hother⟩ | hcount | hpt) ⟨hres, hcount', hnull⟩
    · exact hother (hres r hr)
    · omega
    · exact hpt hnull

/-- The body with which a client asks for book 1 to be lent to member 2. -/
def corpsPret : Json := .obj [("livre", .int 1), ("utilisateur", .int 2)]

/-- The fixtures after member 3 has reserved book 1. -/
def reserveParAnthony : Db :=
  Op.apply .plain (AppFixtures.load .plain) (.reservationCreate 0 0 3 (.obj [("livreId", .int 1)]))

/-- On a book another member has reserved both ways refuse. -/
theorem concordent_reserveParAnthony :
    LoanInvariant reserveParAnthony ∧
    Designe .plain corpsPret AppFixtures.alice AppFixtures.lesMiserables reserveParAnthony ∧
    Concordent .plain 10 10 AppFixtures.alice corpsPret AppFixtures.alice.id
      AppFixtures.lesMiserables.id reserveParAnthony := by
  have hreachable : Inv reserveParAnthony := (noLoanYet_fixtures .plain).inv.apply .plain _ trivial
  have hinv := hreachable.loanInvariant
  have hd : Designe .plain corpsPret AppFixtures.alice AppFixtures.lesMiserables reserveParAnthony :=
    ⟨AppFixtures.lesMiserables_mem, rfl, AppFixtures.alice_mem, rfl⟩
  refine ⟨hinv, hd, (concordent_iff .plain 10 10 hinv AppFixtures.alice hd).mpr (Or.inl ?_)⟩
  exact ⟨⟨1, 0, 3, 1⟩, rfl, by decide⟩

/-- On a free book the back office lends and the route fails. -/
theorem not_concordent_fixtures :
    LoanInvariant (AppFixtures.load .plain) ∧
    Designe .plain corpsPret AppFixtures.alice AppFixtures.lesMiserables (AppFixtures.load .plain) ∧
    ¬ Concordent .plain 10 10 AppFixtures.alice corpsPret AppFixtures.alice.id
      AppFixtures.lesMiserables.id (AppFixtures.load .plain) := by
  refine ⟨(noLoanYet_fixtures .plain).inv.loanInvariant,
    ⟨AppFixtures.lesMiserables_mem, rfl, AppFixtures.alice_mem, rfl⟩, ?_⟩
  rw [concordent_iff_refuse]
  exact fun hrefuse => hrefuse ⟨_, rfl⟩

end Bibliotheque
