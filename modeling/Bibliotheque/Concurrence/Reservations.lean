import Bibliotheque.Concurrence.Machine
import Bibliotheque.Fixtures

/-! # Concurrent reservation requests

Checking and then inserting in separate statements does not keep the two limits: `reservation_race`
shows a book reserved twice and a member with four active reservations.

When they are kept is known exactly. A step breaks the limits only if it is an `INSERT` of an active
row made at a moment when one of the request's own two queries would no longer pass
(`activeLimits_step`). And no
such `INSERT` happens as long as, whenever a request inserts, no other request of the same member is
past its `COUNT` and no other request for the same book is past its `SELECT`. -/

namespace Bibliotheque

open Lib ReservationsRepository

/-- At this instant no book has two active reservations and no member more than three. -/
structure ActiveLimits (m : Monde) : Prop where
  parLivre : ∀ livre : Nat, m.db.reservations.rows.countP
    (fun r => decide (r.livre = livre) && actif (cutoff m.now) r) ≤ 1
  parMembre : ∀ user : Nat, countActiveForUser user (cutoff m.now) m.db ≤ 3

variable {ι : Type} [DecidableEq ι]

/-- If the step is an `INSERT` — of a row that a request held up for a week has not let expire — the
two queries of the request would still pass. -/
def ChecksStillHold (c : Etat ι) : Event ι Nat → Prop
  | .turn i =>
      match c.procs i with
      | .resa user _ (.insert l _ d) => cutoff c.shared.now ≤ d →
          countActiveForUser user (cutoff c.shared.now) c.shared.db < 3 ∧
            findActiveByLivre l.id (cutoff c.shared.now) c.shared.db = none
      | _ => True
  | .env _ => True

namespace Proc

/-- The request has counted the member's reservations and may still insert one. -/
def PastCount : Proc → Prop
  | resa _ _ (.select _ _) => True
  | resa _ _ (.insert _ _ _) => True
  | _ => False

/-- The request has looked for a reservation of the book and may still insert one. -/
def PastSelect : Proc → Prop
  | resa _ _ (.insert _ _ _) => True
  | _ => False

end Proc

/-- If the step is an `INSERT`, it falls in no other request's window: between the `COUNT` and the
`INSERT` of one by the same member, or the `SELECT` and the `INSERT` of one for the same book. -/
def NoOverlap (c : Etat ι) : Event ι Nat → Prop
  | .turn i =>
      match c.procs i with
      | .resa user livre (.insert _ _ _) =>
          ∀ j, j ≠ i → ((c.procs j).PastCount → (c.procs j).membre ≠ user) ∧
            ((c.procs j).PastSelect → (c.procs j).livre ≠ livre)
      | _ => True
  | .env _ => True

/-! ## One step -/

/-- Reservations are only deleted and the clock does not go back: the limits are kept. -/
theorem ActiveLimits.sublist {m m' : Monde} (h : ActiveLimits m)
    (hrows : m'.db.reservations.rows.Sublist m.db.reservations.rows) (hnow : m.now ≤ m'.now) :
    ActiveLimits m' := by
  have hc := cutoff_mono hnow
  constructor
  · intro livre
    refine hrows.countP_le.trans (le_trans ?_ (h.parLivre livre))
    apply List.countP_mono_left
    intro r _ hr
    simp only [Bool.and_eq_true] at hr ⊢
    exact ⟨hr.1, actif_anti hc hr.2⟩
  · intro user
    exact (countActiveForUser_sublist hrows).trans
      ((countActiveForUser_anti hc user m.db).trans (h.parMembre user))

theorem countP_livre_eq_zero {livre : Nat} {c : Int} {db : Db} :
    db.reservations.rows.countP (fun r => decide (r.livre = livre) && actif c r) = 0 ↔
      findActiveByLivre livre c db = none := by
  unfold findActiveByLivre
  rw [List.countP_eq_zero, List.find?_eq_none]

/-- Inserting a row that is not active any more changes no active row. -/
theorem ActiveLimits.inserer_expired {m : Monde} (h : ActiveLimits m) {d : Int}
    (hd : ¬ cutoff m.now ≤ d) (user livre : Nat) :
    ActiveLimits { m with db := ReservationController.inserer d user livre m.db } := by
  constructor
  · intro livre'
    refine (m.db.reservations.countP_insert _ _).trans_le ?_
    rw [if_neg, Nat.add_zero]
    · exact h.parLivre livre'
    · intro hnew
      rw [Bool.and_eq_true] at hnew
      exact hd (of_decide_eq_true hnew.2)
  · intro user'
    show countActiveForUser user' (cutoff m.now)
      (ReservationController.inserer d user livre m.db) ≤ 3
    rw [countActiveForUser_inserer, if_neg (fun hnew => hd hnew.2), Nat.add_zero]
    exact h.parMembre user'

/-- Inserting an active row keeps the limits exactly when the two queries pass at that moment. -/
theorem activeLimits_inserer {m : Monde} (h : ActiveLimits m) {d : Int}
    (hactif : cutoff m.now ≤ d) (user livre : Nat) :
    ActiveLimits { m with db := ReservationController.inserer d user livre m.db } ↔
      countActiveForUser user (cutoff m.now) m.db < 3 ∧
        findActiveByLivre livre (cutoff m.now) m.db = none := by
  -- the count over a book after the insertion
  have hcount : ∀ livre' : Nat,
      (ReservationController.inserer d user livre m.db).reservations.rows.countP
          (fun r => decide (r.livre = livre') && actif (cutoff m.now) r) =
        m.db.reservations.rows.countP
          (fun r => decide (r.livre = livre') && actif (cutoff m.now) r) +
          if livre = livre' then 1 else 0 := by
    intro livre'
    rw [ReservationController.inserer, Table.countP_insert]
    congr 1
    show (if (decide (livre = livre') && decide (cutoff m.now ≤ d)) = true then 1 else 0) = _
    simp only [hactif, decide_true, Bool.and_true, decide_eq_true_eq]
  constructor
  · intro h'
    have hu : countActiveForUser user (cutoff m.now)
        (ReservationController.inserer d user livre m.db) ≤ 3 := h'.parMembre user
    have hl : (ReservationController.inserer d user livre m.db).reservations.rows.countP
        (fun r => decide (r.livre = livre) && actif (cutoff m.now) r) ≤ 1 := h'.parLivre livre
    rw [countActiveForUser_inserer, if_pos ⟨rfl, hactif⟩] at hu
    rw [hcount livre, if_pos rfl] at hl
    exact ⟨by omega, countP_livre_eq_zero.mp (by omega)⟩
  · rintro ⟨hu, hl⟩
    have hzero := countP_livre_eq_zero.mpr hl
    constructor
    · intro livre'
      show (ReservationController.inserer d user livre m.db).reservations.rows.countP _ ≤ 1
      rw [hcount livre']
      have hle := h.parLivre livre'
      split
      · next heq => rw [← heq, hzero]
      · omega
    · intro user'
      show countActiveForUser user' (cutoff m.now)
        (ReservationController.inserer d user livre m.db) ≤ 3
      rw [countActiveForUser_inserer]
      have hle := h.parMembre user'
      split
      · next heq => rw [← heq.1]; omega
      · omega

/-- A step keeps the limits exactly when it is no `INSERT` whose queries have become false. -/
theorem activeLimits_step (c : Etat ι) (e : Event ι Nat) (h : ActiveLimits c.shared) :
    ActiveLimits (c.step e).shared ↔ ChecksStillHold c e := by
  cases e with
  | env δ =>
      refine iff_of_true (h.sublist (List.Sublist.refl _) ?_) trivial
      show c.shared.now ≤ c.shared.now + δ
      omega
  | turn i =>
      have heff := Proc.exec_effet c.shared (c.procs i)
      show ActiveLimits ((c.procs i).exec c.shared).1 ↔ ChecksStillHold c (.turn i)
      -- only an `INSERT` can break the limits, and only it has a condition
      generalize ((c.procs i).exec c.shared).1 = m' at heff
      simp only [ChecksStillHold]
      generalize c.procs i = p at heff
      cases heff with
      | lecture hp hread =>
          refine iff_of_true h ?_
          split
          · exact absurd trivial hread
          · trivial
      | purge user livre l cut =>
          refine iff_of_true (h.sublist ?_ (le_refl _)) trivial
          rw [purgeExpired_rows]
          exact List.filter_sublist
      | insertion user livre l cut d =>
          by_cases hactif : cutoff c.shared.now ≤ d
          · rw [activeLimits_inserer h hactif]
            exact ⟨fun hchecks _ => hchecks, fun hchecks => hchecks hactif⟩
          · exact iff_of_true (h.inserer_expired hactif user l.id) fun hd => absurd hd hactif
      | flush form user livre removed d =>
          exact iff_of_true (h.sublist List.filter_sublist (le_refl _)) trivial

/-! ## What a request knows between its statements -/

/-- The local assertion of a request: the book it loaded is the requested one, its cutoff is not
ahead of the clock, and what its queries answered at that cutoff is still true. -/
def Knows (m : Monde) : Proc → Prop
  | .resa _ livre (.purge l c) => l.id = livre ∧ c ≤ cutoff m.now
  | .resa _ livre (.count l c) => l.id = livre ∧ c ≤ cutoff m.now
  | .resa user livre (.select l c) =>
      l.id = livre ∧ c ≤ cutoff m.now ∧ countActiveForUser user c m.db < 3
  | .resa user livre (.insert l c _) =>
      l.id = livre ∧ c ≤ cutoff m.now ∧ countActiveForUser user c m.db < 3 ∧
        findActiveByLivre l.id c m.db = none
  | _ => True

/-- Deleting reservations and letting time pass disturbs nobody. -/
theorem Knows.sublist {m m' : Monde} {p : Proc} (h : Knows m p)
    (hrows : m'.db.reservations.rows.Sublist m.db.reservations.rows) (hnow : m.now ≤ m'.now) :
    Knows m' p := by
  have hc := cutoff_mono hnow
  cases p with
  | pret form user livre pc => exact h
  | resa user livre pc =>
      cases pc with
      | load => exact h
      | purge l c => exact ⟨h.1, h.2.trans hc⟩
      | count l c => exact ⟨h.1, h.2.trans hc⟩
      | select l c =>
          exact ⟨h.1, h.2.1.trans hc, (countActiveForUser_sublist hrows).trans_lt h.2.2⟩
      | insert l c d =>
          exact ⟨h.1, h.2.1.trans hc, (countActiveForUser_sublist hrows).trans_lt h.2.2.1,
            findActiveByLivre_sublist hrows h.2.2.2⟩
      | fini r => exact h

/-- An `INSERT` outside its windows does not disturb a request. -/
theorem Knows.inserer {m : Monde} {p : Proc} (h : Knows m p) {d : Int} {user livre : Nat}
    (hmembre : p.PastCount → p.membre ≠ user) (hlivre : p.PastSelect → p.livre ≠ livre) :
    Knows { m with db := ReservationController.inserer d user livre m.db } p := by
  cases p with
  | pret form user' livre' pc => exact h
  | resa user' livre' pc =>
      have hcount : user' ≠ user → ∀ c, countActiveForUser user' c
          (ReservationController.inserer d user livre m.db) = countActiveForUser user' c m.db := by
        intro hne c
        rw [countActiveForUser_inserer, if_neg (fun hu => hne hu.1.symm), Nat.add_zero]
      cases pc with
      | load => exact h
      | purge l c => exact h
      | count l c => exact h
      | select l c =>
          refine ⟨h.1, h.2.1, ?_⟩
          rw [hcount (hmembre trivial)]
          exact h.2.2
      | insert l c d' =>
          refine ⟨h.1, h.2.1, ?_, ?_⟩
          · rw [hcount (hmembre trivial)]
            exact h.2.2.1
          · refine findActiveByLivre_inserer_of_ne ?_ h.2.2.2
            rw [h.1]
            exact (hlivre trivial).symm
      | fini r => exact h

/-- A request knows what it has just read. -/
theorem knows_own {m : Monde} {p : Proc} (h : Knows m p) : Knows (p.exec m).1 (p.exec m).2 := by
  cases p with
  | pret form user livre pc => trivial
  | resa user livre pc =>
      cases pc with
      | load =>
          simp only [Proc.exec, ResaPc.exec]
          split
          · trivial
          · next l hfind => exact ⟨(m.db.livres.find?_eq_some.mp hfind).2, le_refl _⟩
      | purge l c => exact h
      | count l c =>
          simp only [Proc.exec, ResaPc.exec]
          split
          · trivial
          · next hcount =>
            split
            · trivial
            · exact ⟨h.1, h.2, Nat.lt_of_not_le hcount⟩
      | select l c =>
          simp only [Proc.exec, ResaPc.exec]
          split
          · trivial
          · next hactive => exact ⟨h.1, h.2.1, h.2.2, by simpa using hactive⟩
      | insert l c d => trivial
      | fini r => trivial

theorem knows_step {c : Etat ι} (h : Conf.Holds (fun _ => True) Knows c) (e : Event ι Nat)
    (hno : NoOverlap c e) : Conf.Holds (fun _ => True) Knows (c.step e) := by
  refine Conf.Holds.step (P := NoOverlap) ?_ ?_ ?_ h e hno
  · intro c i h _
    exact ⟨trivial, knows_own (h.procs i)⟩
  · intro c i j hj h hno
    have hjk := h.procs j
    have hik := h.procs i
    have heff := Proc.exec_effet c.shared (c.procs i)
    generalize ((c.procs i).exec c.shared).1 = m' at heff
    simp only [NoOverlap] at hno
    generalize c.procs i = p at heff hno hik
    cases heff with
    | lecture hp hread => exact hjk
    | purge user livre l cut =>
        refine hjk.sublist ?_ (le_refl _)
        rw [purgeExpired_rows]
        exact List.filter_sublist
    | insertion user livre l cut d =>
        -- the row inserted is for the book that was asked for
        have hid : l.id = livre := hik.1
        rw [hid]
        exact hjk.inserer (hno j hj).1 (hno j hj).2
    | flush form user livre removed d => exact hjk.sublist List.filter_sublist (le_refl _)
  · intro c δ h
    refine ⟨trivial, fun j => (h.procs j).sublist (List.Sublist.refl _) ?_⟩
    show c.shared.now ≤ c.shared.now + δ
    omega

omit [DecidableEq ι] in
/-- What a request knows at its `INSERT` is that its queries still pass. -/
theorem checksStillHold_of_knows {c : Etat ι} (h : Conf.Holds (fun _ => True) Knows c)
    (e : Event ι Nat) : ChecksStillHold c e := by
  cases e with
  | env δ => trivial
  | turn i =>
      have hik := h.procs i
      simp only [ChecksStillHold]
      split
      · next user livre l cut d hp =>
        rw [hp] at hik
        intro _
        -- the cutoff of the request is at most the present one, so fewer rows are active now
        exact ⟨(countActiveForUser_anti hik.2.1 user _).trans_lt hik.2.2.1,
          findActiveByLivre_anti hik.2.1 hik.2.2.2⟩
      · trivial

theorem knows_neuf {m : Monde} {p : Proc} (h : p.Neuf) : Knows m p := by
  cases p with
  | pret form user livre pc => trivial
  | resa user livre pc =>
      obtain rfl : pc = .load := h
      trivial

/-! ## Whole runs -/

/-- **When concurrent requests keep the limits.** For any number of requests and any schedule, the
limits hold in every state when no `INSERT` falls in another request's window; and they hold in
every state exactly when each `INSERT` is made while the request's two queries would still pass. -/
theorem activeLimits_interleaved (c : Etat ι) (hneuf : ∀ i, (c.procs i).Neuf)
    (hok : ActiveLimits c.shared) (es : List (Event ι Nat)) :
    (Along Etat.step NoOverlap c es → Always Etat.step (fun c => ActiveLimits c.shared) c es) ∧
    (Always Etat.step (fun c => ActiveLimits c.shared) c es ↔
      Along Etat.step ChecksStillHold c es) := by
  have hexact : Always Etat.step (fun c : Etat ι => ActiveLimits c.shared) c es ↔
      Along Etat.step ChecksStillHold c es :=
    always_iff_along (J := fun _ => True) (fun _ _ _ _ _ => trivial)
      (fun c e _ h => activeLimits_step c e h) trivial hok
  refine ⟨fun hno => hexact.mpr ?_, hexact⟩
  have hstart : Conf.Holds (fun _ => True) Knows c := ⟨trivial, fun i => knows_neuf (hneuf i)⟩
  exact along_of_along (fun c e h hno => knows_step h e hno)
    (fun c e h _ => checksStillHold_of_knows h e) hstart hno

/-- New requests against the fixtures: the member and the book of each. -/
def demandes {n : Nat} (membre livre : Fin n → Nat) : Etat (Fin n) where
  shared := ⟨AppFixtures.load .plain, 0⟩
  procs := fun i => .resa (membre i) (livre i) .load

/-- Every request gets past its queries before the first `INSERT`. -/
def entrelacement (n : Nat) : List (Event (Fin n) Nat) :=
  (List.finRange n).flatMap (fun i => List.replicate 4 (.turn i)) ++ (List.finRange n).map .turn

/-- One request after the other. -/
def enSerie (n : Nat) : List (Event (Fin n) Nat) :=
  (List.finRange n).flatMap fun i => List.replicate 5 (.turn i)

theorem activeLimits_demandes {n : Nat} (membre livre : Fin n → Nat) :
    ActiveLimits (demandes membre livre).shared := by
  constructor
  · intro l
    exact Nat.zero_le 1
  · intro u
    exact Nat.zero_le 3

/-- Served in series, the second of two requests for one book is refused. -/
theorem activeLimits_enSerie :
    Along Etat.step NoOverlap (demandes (fun i : Fin 2 => 2 + i) (fun _ => 1)) (enSerie 2) ∧
    Always Etat.step (fun c => ActiveLimits c.shared)
      (demandes (fun i : Fin 2 => 2 + i) (fun _ => 1)) (enSerie 2) := by
  have hno : Along Etat.step NoOverlap (demandes (fun i : Fin 2 => 2 + i) (fun _ => 1))
      (enSerie 2) := by
    refine ⟨trivial, trivial, trivial, trivial, ?_, trivial, trivial, trivial, trivial, trivial,
      trivial⟩
    rintro ⟨_ | _ | j, hj⟩ hne
    · exact absurd rfl hne
    · exact ⟨False.elim, False.elim⟩
    · omega
  exact ⟨hno, (activeLimits_interleaved (demandes _ _) (fun _ => rfl)
    (activeLimits_demandes _ _) _).1 hno⟩

/-- Two members reserve the same book, and one member reserves four books: each request finds its
queries satisfied, and at the end, when all are answered, a limit is broken. -/
theorem reservation_race :
    (let c₀ := demandes (fun i : Fin 2 => 2 + i) (fun _ => 1)
     let c := run Etat.step c₀ (entrelacement 2)
     ActiveLimits c₀.shared ∧ (∀ i, (c.procs i).Fini) ∧ ¬ ActiveLimits c.shared) ∧
    (let c₀ := demandes (fun _ => 2) (fun i : Fin 4 => 1 + i)
     let c := run Etat.step c₀ (entrelacement 4)
     ActiveLimits c₀.shared ∧ (∀ i, (c.procs i).Fini) ∧ ¬ ActiveLimits c.shared) := by
  refine ⟨⟨activeLimits_demandes _ _, ?_, ?_⟩, activeLimits_demandes _ _, ?_, ?_⟩
  · rintro ⟨_ | _ | i, hi⟩
    · exact ⟨_, rfl⟩
    · exact ⟨_, rfl⟩
    · omega
  · intro h
    exact absurd (h.parLivre 1) (by decide)
  · rintro ⟨_ | _ | _ | _ | i, hi⟩
    · exact ⟨_, rfl⟩
    · exact ⟨_, rfl⟩
    · exact ⟨_, rfl⟩
    · exact ⟨_, rfl⟩
    · omega
  · intro h
    exact absurd (h.parMembre 2) (by decide)

end Bibliotheque
