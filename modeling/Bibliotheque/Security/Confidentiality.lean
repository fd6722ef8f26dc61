import Bibliotheque.Api
import Bibliotheque.Fixtures

/-! # What a requester learns about other members

The statement compares two databases that look the same to the requester: same public catalogue,
same account, loans and reservations of his own. A route is confidential for him when its answers in
the two are the same whenever both are 200, and an anonymous requester gets no 200 at all.

The routes for reservations and for the account are confidential: each looks at the requester before
it looks at a row. The two routes for loans are not, for anybody: their controllers check nothing, and
the access rule `^/api/emprunts` that asks for authentication stands after `^/api`, which already
matches. -/

namespace Bibliotheque

open Lib ReservationsRepository

/-- The routes that show members' data. -/
inductive MemberRoute where
  | emprunts
  | emprunt (id : Nat)
  | reservations
  | reservation (id : Nat)
  | me
  deriving DecidableEq, Repr

def MemberRoute.request : MemberRoute → ApiRequest
  | emprunts => .empruntIndex
  | emprunt id => .empruntShow id
  | reservations => .reservationIndex
  | reservation id => .reservationShow id
  | me => .userMe

/-- The answer to `GET route` of an anonymous requester or of the account with a key. -/
def answer (env : Env) (now : Int) (r : Option Nat) (route : MemberRoute) (db : Db) : Response :=
  match r with
  | none => (handle env now now none route.request db).1
  | some id =>
      match db.utilisateurs.find? id with
      | none => accesRefuse none
      | some u => (handle env now now (some u) route.request db).1

/-- What the public catalogue says of a book. -/
structure FichePublique where
  id : Nat
  titre : String
  dateSortie : Int
  langue : String
  photoCouverture : Option String
  disponible : Bool
  deriving DecidableEq, Repr

def Livre.fichePublique (l : Livre) : FichePublique :=
  ⟨l.id, l.titre, l.dateSortie, l.langue, l.photoCouverture, l.isDisponible⟩

/-- The requester is anonymous, or an account without a staff role. -/
def NotStaff (r : Option Nat) (db : Db) : Prop :=
  ∀ id, r = some id → ∃ u, db.utilisateurs.find? id = some u ∧
    ∀ role ∈ [Role.admin, .responsable, .bibliothecaire], u.atteint role = false

/-- The two databases look the same to the requester. -/
structure Agree (r : Option Nat) (db₁ db₂ : Db) : Prop where
  livres : db₁.livres.rows.map Livre.fichePublique = db₂.livres.rows.map Livre.fichePublique
  auteurs : db₁.auteurs.rows = db₂.auteurs.rows
  categories : db₁.categories.rows = db₂.categories.rows
  livreAuteur : db₁.livreAuteur = db₂.livreAuteur
  livreCategorie : db₁.livreCategorie = db₂.livreCategorie
  compte : ∀ id, r = some id → db₁.utilisateurs.find? id = db₂.utilisateurs.find? id
  emprunts : ∀ id, r = some id →
    db₁.emprunts.rows.filter (fun e => decide (e.utilisateur = id)) =
      db₂.emprunts.rows.filter (fun e => decide (e.utilisateur = id))
  reservations : ∀ id, r = some id →
    db₁.reservations.rows.filter (fun x => decide (x.utilisateur = id)) =
      db₂.reservations.rows.filter (fun x => decide (x.utilisateur = id))

/-- The route tells the requester nothing that he does not see already, and an anonymous one gets
nothing. -/
def Confidential (env : Env) (now : Int) (r : Option Nat) (route : MemberRoute) : Prop :=
  (∀ db₁ db₂, NotStaff r db₁ → NotStaff r db₂ → Agree r db₁ db₂ →
    (answer env now r route db₁).status = 200 → (answer env now r route db₂).status = 200 →
      (answer env now r route db₁).body = (answer env now r route db₂).body) ∧
  (r = none → ∀ db, (answer env now r route db).status ≠ 200)

/-! ## The reservations and the account -/

section Agree

variable {r : Option Nat} {db₁ db₂ : Db}

/-- The view of a book in a reservation is read off the public catalogue. -/
theorem livreResume_eq_fichePublique (db : Db) (id : Nat) :
    db.livreResume id = ((db.livres.rows.map Livre.fichePublique).find?
      (fun f => decide (f.id = id))).map fun f => ⟨f.id, f.titre⟩ := by
  rw [List.find?_map, Option.map_map]
  rfl

theorem Agree.reservationVue (h : Agree r db₁ db₂) (x : Reservations) :
    db₁.reservationVue x = db₂.reservationVue x := by
  rw [Db.reservationVue, Db.reservationVue, livreResume_eq_fichePublique,
    livreResume_eq_fichePublique, h.livres]

/-- A purge is the same for both: what is left of the requester's reservations agrees. -/
theorem Agree.purge (h : Agree r db₁ db₂) (c : Int) :
    Agree r (purgeExpired c db₁).2 (purgeExpired c db₂).2 where
  livres := h.livres
  auteurs := h.auteurs
  categories := h.categories
  livreAuteur := h.livreAuteur
  livreCategorie := h.livreCategorie
  compte := h.compte
  emprunts := h.emprunts
  reservations := by
    intro id hid
    rw [purgeExpired_rows, purgeExpired_rows, List.filter_comm, h.reservations id hid,
      List.filter_comm]

theorem Agree.findActiveByUser {id : Nat} (h : Agree (some id) db₁ db₂) (c : Int) :
    findActiveByUser id c db₁ = findActiveByUser id c db₂ := by
  have hrows : ∀ db : Db,
      db.reservations.rows.filter (fun x => decide (x.utilisateur = id) && actif c x) =
        (db.reservations.rows.filter (fun x => decide (x.utilisateur = id))).filter (actif c) := by
    intro db
    rw [List.filter_filter]
    apply List.filter_congr
    intro x _
    rw [Bool.and_comm]
  unfold ReservationsRepository.findActiveByUser
  rw [hrows, hrows, h.reservations id rfl]

theorem Agree.index {now : Int} {u : Utilisateur} (h : Agree (some u.id) db₁ db₂) :
    (ReservationController.index now u db₁).1 = (ReservationController.index now u db₂).1 := by
  have hp := h.purge (cutoff now)
  simp only [ReservationController.index]
  rw [hp.findActiveByUser]
  congr 2
  exact List.map_congr_left fun x _ => hp.reservationVue x

/-- What `show` answers with 200 is a reservation of the requester. -/
theorem showAction_status {u : Utilisateur} {id : Nat} {db : Db}
    (h : (ReservationController.showAction u id db).status = 200) :
    ∃ x ∈ db.reservations.rows, x.id = id ∧ x.utilisateur = u.id ∧
      (ReservationController.showAction u id db).body = .reservation (db.reservationVue x) := by
  unfold ReservationController.showAction at h ⊢
  cases hfind : db.reservations.find? id with
  | none => simp [hfind, Response.notFound] at h
  | some x =>
      obtain ⟨hx, hid⟩ := db.reservations.find?_eq_some.mp hfind
      rw [hfind] at h
      by_cases howner : x.utilisateur = u.id
      · exact ⟨x, hx, hid, howner, by simp [howner]⟩
      · simp [howner, Response.message] at h

theorem Agree.showAction {u : Utilisateur} {id : Nat} (h : Agree (some u.id) db₁ db₂)
    (h₁ : (ReservationController.showAction u id db₁).status = 200)
    (h₂ : (ReservationController.showAction u id db₂).status = 200) :
    (ReservationController.showAction u id db₁).body =
      (ReservationController.showAction u id db₂).body := by
  obtain ⟨x₁, hx₁, hid₁, hu₁, hbody₁⟩ := showAction_status h₁
  obtain ⟨x₂, hx₂, hid₂, hu₂, hbody₂⟩ := showAction_status h₂
  -- the first reservation is the requester's, so the second database has it too
  have hmem : x₁ ∈ db₁.reservations.rows.filter (fun x => decide (x.utilisateur = u.id)) :=
    List.mem_filter.mpr ⟨hx₁, by simpa using hu₁⟩
  rw [h.reservations u.id rfl] at hmem
  have heq : x₁ = x₂ :=
    db₂.reservations.eq_of_id (List.mem_filter.mp hmem).1 hx₂ (hid₁.trans hid₂.symm)
  rw [hbody₁, hbody₂, heq, h.reservationVue]

end Agree

/-- The account of the requester, which both databases have, is how both answer. -/
theorem confidential_of {env : Env} {now : Int} {r : Option Nat} {route : MemberRoute}
    (hmember : ∀ (u : Utilisateur) (db₁ db₂ : Db), Agree (some u.id) db₁ db₂ →
      (handle env now now (some u) route.request db₁).1.status = 200 →
      (handle env now now (some u) route.request db₂).1.status = 200 →
      (handle env now now (some u) route.request db₁).1.body =
        (handle env now now (some u) route.request db₂).1.body)
    (hanonymous : ∀ db, (handle env now now none route.request db).1.status ≠ 200) :
    Confidential env now r route := by
  constructor
  · intro db₁ db₂ hstaff _ hagree h₁ h₂
    -- an anonymous requester gets no 200, so there is nothing to compare for him
    cases r with
    | none => exact absurd h₁ (hanonymous db₁)
    | some id =>
        obtain ⟨u, hu, -⟩ := hstaff id rfl
        have hu₂ : db₂.utilisateurs.find? id = some u := (hagree.compte id rfl).symm.trans hu
        obtain rfl : u.id = id := (db₁.utilisateurs.find?_eq_some.mp hu).2
        simp only [answer, hu, hu₂] at h₁ h₂ ⊢
        exact hmember u db₁ db₂ hagree h₁ h₂
  · rintro rfl db
    exact hanonymous db

theorem confidential_me (env : Env) (now : Int) (r : Option Nat) :
    Confidential env now r .me := by
  refine confidential_of ?_ ?_
  · intro u db₁ db₂ _ _ _
    rw [handle_eq_dispatch, handle_eq_dispatch]
    rfl
  · intro db
    rw [handle_eq_dispatch]
    exact of_decide_eq_true rfl

theorem confidential_reservations (env : Env) (now : Int) (r : Option Nat) :
    Confidential env now r .reservations := by
  refine confidential_of ?_ ?_
  · intro u db₁ db₂ hagree _ _
    rw [handle_eq_dispatch, handle_eq_dispatch]
    simp only [MemberRoute.request, dispatch, asAdherent]
    split
    · rw [hagree.index]
    · rfl
  · intro db
    rw [handle_eq_dispatch]
    exact of_decide_eq_true rfl

theorem confidential_reservation (env : Env) (now : Int) (r : Option Nat) (id : Nat) :
    Confidential env now r (.reservation id) := by
  refine confidential_of ?_ ?_
  · intro u db₁ db₂ hagree h₁ h₂
    rw [handle_eq_dispatch] at h₁ h₂ ⊢
    rw [handle_eq_dispatch]
    simp only [MemberRoute.request, dispatch, onReservation, asAdherent] at h₁ h₂ ⊢
    cases hf₁ : db₁.reservations.find? id with
    | none => simp [hf₁, Response.notFound] at h₁
    | some x₁ =>
        cases hf₂ : db₂.reservations.find? id with
        | none => simp [hf₂, Response.notFound] at h₂
        | some x₂ =>
            simp only [hf₁, hf₂] at h₁ h₂ ⊢
            split
            · next hrole =>
              rw [if_pos hrole] at h₁ h₂
              exact hagree.showAction h₁ h₂
            · rfl
  · intro db
    rw [handle_eq_dispatch]
    simp only [MemberRoute.request, dispatch, onReservation]
    split
    · exact of_decide_eq_true rfl
    · exact of_decide_eq_true rfl

/-! ## The loans -/

/-- A member with a given key. -/
def membre (id : Nat) : Utilisateur :=
  { AppFixtures.compte .plain (toString id) "" "" [.adherent] 0 0 "" "" "" with id := id }

/-- Two members, with the keys `n` and `n + 1`. -/
def deuxMembres (n : Nat) : Table Utilisateur where
  rows := [membre n, membre (n + 1)]
  next := n + 2
  nodup := by simp [membre]
  lt_next := by simp [membre]

/-- A single loan, returned the day it was made, of the member `user`. -/
def unPret (id user : Nat) (date : Int) : Table Emprunt where
  rows := [⟨id, date, some date, user, 1⟩]
  next := id + 1
  nodup := by simp
  lt_next := by simp

/-- The fixtures' catalogue, two members, and one past loan of the second one. -/
def unPretDunAutre (n id : Nat) (date : Int) : Db :=
  { AppFixtures.load .plain with
    utilisateurs := deuxMembres n
    emprunts := unPret id (n + 1) date }

/-- The requester, if he has an account, is the first of the two. -/
theorem notStaff_unPretDunAutre (r : Option Nat) (id : Nat) (date : Int) :
    NotStaff r (unPretDunAutre (r.getD 0) id date) := by
  rintro n rfl
  refine ⟨membre n, ?_, ?_⟩
  · exact (Table.find?_eq_some _).mpr ⟨List.mem_cons_self, rfl⟩
  · have hroles : ∀ role, (membre n).atteint role = (membre 0).atteint role := fun _ => rfl
    simp only [hroles]
    decide

theorem agree_unPretDunAutre (r : Option Nat) (id : Nat) (date date' : Int) :
    Agree r (unPretDunAutre (r.getD 0) id date) (unPretDunAutre (r.getD 0) id date') where
  livres := rfl
  auteurs := rfl
  categories := rfl
  livreAuteur := rfl
  livreCategorie := rfl
  compte := fun _ _ => rfl
  emprunts := by
    rintro n rfl
    simp [unPretDunAutre, unPret]
  reservations := fun _ _ => rfl

/-- Whoever asks, the answer is the one for an anonymous requester. -/
theorem answer_unPretDunAutre (env : Env) (now : Int) (r : Option Nat) (id : Nat) (date : Int) :
    answer env now r .emprunts (unPretDunAutre (r.getD 0) id date) =
        EmpruntController.index (unPretDunAutre (r.getD 0) id date) ∧
      answer env now r (.emprunt id) (unPretDunAutre (r.getD 0) id date) =
        EmpruntController.showAction id (unPretDunAutre (r.getD 0) id date) := by
  unfold answer
  split
  · simp only [handle_eq_dispatch, MemberRoute.request, dispatch, and_self]
  · next n =>
    have hfind : (unPretDunAutre n id date).utilisateurs.find? n = some (membre n) :=
      (Table.find?_eq_some _).mpr ⟨List.mem_cons_self, rfl⟩
    simp only [Option.getD_some, hfind, handle_eq_dispatch, MemberRoute.request, dispatch, and_self]

theorem showAction_unPret (n id : Nat) (date : Int) :
    EmpruntController.showAction id (unPretDunAutre n id date) =
      ⟨200, .emprunt ((unPretDunAutre n id date).empruntVue ⟨id, date, some date, n + 1, 1⟩)⟩ := by
  have hfind : (unPretDunAutre n id date).emprunts.find? id =
      some ⟨id, date, some date, n + 1, 1⟩ :=
    (Table.find?_eq_some _).mpr ⟨List.mem_cons_self, rfl⟩
  unfold EmpruntController.showAction
  rw [hfind]

/-- Anybody can tell the date of somebody else's loan from the list … -/
theorem not_confidential_emprunts (env : Env) (now : Int) (r : Option Nat) :
    ¬ Confidential env now r .emprunts := by
  intro h
  have hbody := h.1 _ _ (notStaff_unPretDunAutre r 1 0) (notStaff_unPretDunAutre r 1 1)
    (agree_unPretDunAutre r 1 0 1)
  rw [(answer_unPretDunAutre env now r 1 0).1, (answer_unPretDunAutre env now r 1 1).1] at hbody
  have heq := hbody rfl rfl
  simp [EmpruntController.index, unPretDunAutre, unPret, Db.empruntVue] at heq

/-- … and from its own route. -/
theorem not_confidential_emprunt (env : Env) (now : Int) (r : Option Nat) (id : Nat) :
    ¬ Confidential env now r (.emprunt id) := by
  intro h
  have hbody := h.1 _ _ (notStaff_unPretDunAutre r id 0) (notStaff_unPretDunAutre r id 1)
    (agree_unPretDunAutre r id 0 1)
  rw [(answer_unPretDunAutre env now r id 0).2, (answer_unPretDunAutre env now r id 1).2,
    showAction_unPret, showAction_unPret] at hbody
  have heq := hbody rfl rfl
  simp [Db.empruntVue] at heq

/-- **Which routes are confidential**: for every requester at every instant, all but the two for
loans. -/
theorem confidential_iff (env : Env) (now : Int) (r : Option Nat) (route : MemberRoute) :
    Confidential env now r route ↔ route ≠ .emprunts ∧ ∀ id, route ≠ .emprunt id := by
  cases route with
  | emprunts => exact iff_of_false (not_confidential_emprunts env now r) (fun h => h.1 rfl)
  | emprunt id => exact iff_of_false (not_confidential_emprunt env now r id) (fun h => h.2 id rfl)
  | reservations => simp [confidential_reservations]
  | reservation id => simp [confidential_reservation]
  | me => simp [confidential_me]

/-- An anonymous visitor reads the loan of the member 1. -/
theorem emprunts_anonymes :
    (answer .plain 0 none .emprunts (unPretDunAutre 0 7 0)).status = 200 ∧
    (answer .plain 0 none .emprunts (unPretDunAutre 0 7 0)).body ≠
      (answer .plain 0 none .emprunts (unPretDunAutre 0 7 1)).body ∧
    Agree none (unPretDunAutre 0 7 0) (unPretDunAutre 0 7 1) ∧
    ¬ Confidential .plain 0 none .emprunts := by
  refine ⟨?_, ?_, agree_unPretDunAutre none 7 0 1, not_confidential_emprunts .plain 0 none⟩
  · exact congrArg Response.status (answer_unPretDunAutre .plain 0 none 7 0).1
  · have h0 := (answer_unPretDunAutre .plain 0 none 7 0).1
    have h1 := (answer_unPretDunAutre .plain 0 none 7 1).1
    rw [Option.getD_none] at h0 h1
    rw [h0, h1]
    simp [EmpruntController.index, unPretDunAutre, unPret, Db.empruntVue]

end Bibliotheque
