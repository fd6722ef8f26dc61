import Bibliotheque.Lib.Simulation
import Bibliotheque.Circulation
import Bibliotheque.Systeme.Invariant
import Bibliotheque.Lending.Edition
import Bibliotheque.Lending.Expiration

/-! # The installation is a lending desk

`Db.situation` reads off the tables what a book is doing: lent when it has an open loan, held when it has a
reservation row. Under the invariant the rows and this reading say the same (`Decrit`), so each write
can be followed on the reading: an event of the installation amounts to a few movements of the abstract
desk, every one of them permitted (`circulation`). -/

namespace Bibliotheque

open Lib Table ReservationsRepository EmpruntCrudController Circulation

namespace Db

/-- What a book is doing. -/
def situation (db : Db) (b : Nat) : Situation Nat :=
  match db.emprunts.rows.find? (ouvertPourLivre b) with
  | some e => .prete e.utilisateur
  | none =>
      match db.reservations.rows.find? (fun r => decide (r.livre = b)) with
      | some r => .reserve r.utilisateur r.dateResa
      | none => .libre

/-- The book is with the member. -/
def Pret (db : Db) (b m : Nat) : Prop :=
  ∃ e ∈ db.emprunts.rows, e.livre = b ∧ e.dateRetour = none ∧ e.utilisateur = m

/-- The book is held for the member since the date. -/
def Resa (db : Db) (b m : Nat) (d : Int) : Prop :=
  ∃ r ∈ db.reservations.rows, r.livre = b ∧ r.utilisateur = m ∧ r.dateResa = d

end Db

/-- `g` says of every book what the rows say. -/
structure Decrit (db : Db) (g : Guichet Nat Nat) : Prop where
  prete : ∀ b m, g b = .prete m ↔ db.Pret b m
  reserve : ∀ b m d, g b = .reserve m d ↔ db.Resa b m d

/-- The rows leave no choice. -/
theorem Decrit.unique {db : Db} {g g' : Guichet Nat Nat} (h : Decrit db g) (h' : Decrit db g') :
    g = g' := by
  funext b
  cases hb : g b with
  | prete m => exact ((h'.prete b m).mpr ((h.prete b m).mp hb)).symm
  | reserve m d => exact ((h'.reserve b m d).mpr ((h.reserve b m d).mp hb)).symm
  | libre =>
      cases hb' : g' b with
      | libre => rfl
      | prete m => cases hb.symm.trans ((h.prete b m).mpr ((h'.prete b m).mp hb'))
      | reserve m d => cases hb.symm.trans ((h.reserve b m d).mpr ((h'.reserve b m d).mp hb'))

namespace Inv

variable {db : Db}

theorem situation_eq_prete (h : Inv db) {b m : Nat} : db.situation b = .prete m ↔ db.Pret b m := by
  unfold Db.situation
  split
  · next e hfind =>
    have hmem := List.mem_of_find?_eq_some hfind
    obtain ⟨hlivre, hopen⟩ := ouvertPourLivre_eq_true.mp (List.find?_some hfind)
    constructor
    · intro heq
      exact ⟨e, hmem, hlivre, hopen, Situation.prete.inj heq⟩
    · rintro ⟨e', hmem', hlivre', hopen', rfl⟩
      rw [h.ouvert_unique hmem hmem' hopen hopen' (hlivre.trans hlivre'.symm)]
  · next hnone =>
    have hother : ¬ db.Pret b m := by
      rintro ⟨e, hmem, hlivre, hopen, -⟩
      exact List.find?_eq_none.mp hnone e hmem (ouvertPourLivre_eq_true.mpr ⟨hlivre, hopen⟩)
    split <;> simpa using hother

theorem situation_eq_reserve (h : Inv db) {b m : Nat} {d : Int} :
    db.situation b = .reserve m d ↔ db.Resa b m d := by
  unfold Db.situation
  split
  · next e hfind =>
    -- a book that is lent has no reservation row
    have hmem := List.mem_of_find?_eq_some hfind
    obtain ⟨hlivre, hopen⟩ := ouvertPourLivre_eq_true.mp (List.find?_some hfind)
    constructor
    · intro heq
      cases heq
    · rintro ⟨r, hr, hl, -, -⟩
      exact absurd hopen (h.nonReserve r hr e hmem (hlivre.trans hl.symm))
  · split
    · next r hfind =>
      have hmem := List.mem_of_find?_eq_some hfind
      have hlivre : r.livre = b := by simpa using List.find?_some hfind
      constructor
      · intro heq
        obtain ⟨hm, hd⟩ := Situation.reserve.inj heq
        exact ⟨r, hmem, hlivre, hm, hd⟩
      · rintro ⟨r', hmem', hlivre', rfl, rfl⟩
        rw [h.reservation_unique hmem hmem' (hlivre.trans hlivre'.symm)]
    · next hnone =>
      constructor
      · intro heq
        cases heq
      · rintro ⟨r, hmem, hlivre, -, -⟩
        exact absurd hlivre (by simpa using List.find?_eq_none.mp hnone r hmem)

theorem decrit (h : Inv db) : Decrit db db.situation :=
  ⟨fun _ _ => h.situation_eq_prete, fun _ _ _ => h.situation_eq_reserve⟩

theorem situation_eq (h : Inv db) {g : Guichet Nat Nat} (hg : Decrit db g) : db.situation = g :=
  h.decrit.unique hg

end Inv

/-! ## The writes, as movements -/

namespace Decrit

variable {db db' : Db} {g : Guichet Nat Nat}

/-- Only loans and reservations count. -/
theorem congr (h : Decrit db g) (hemprunts : db'.emprunts.rows = db.emprunts.rows)
    (hreservations : db'.reservations.rows = db.reservations.rows) : Decrit db' g where
  prete := by
    unfold Db.Pret
    rw [hemprunts]
    exact h.prete
  reserve := by
    unfold Db.Resa
    rw [hreservations]
    exact h.reserve

/-- Whatever happens to one book only. -/
theorem update (h : Decrit db g) {b : Nat} {s : Situation Nat}
    (hprete : ∀ m, s = .prete m ↔ db'.Pret b m) (hreserve : ∀ m d, s = .reserve m d ↔ db'.Resa b m d)
    (hprete' : ∀ b' m, b' ≠ b → (db'.Pret b' m ↔ db.Pret b' m))
    (hreserve' : ∀ b' m d, b' ≠ b → (db'.Resa b' m d ↔ db.Resa b' m d)) :
    Decrit db' (Function.update g b s) where
  prete := by
    intro b' m
    by_cases heq : b' = b
    · subst heq
      rw [Function.update_self]
      exact hprete m
    · rw [Function.update_of_ne heq, h.prete, hprete' b' m heq]
  reserve := by
    intro b' m d
    by_cases heq : b' = b
    · subst heq
      rw [Function.update_self]
      exact hreserve m d
    · rw [Function.update_of_ne heq, h.reserve, hreserve' b' m d heq]

theorem expirer (h : Decrit db g) (c : Int) :
    Decrit (purgeExpired c db).2 ((Mouvement.expirer c).apply g) where
  prete := fun b m => Situation.expire_eq_prete.trans (h.prete b m)
  reserve := by
    intro b m d
    refine Situation.expire_eq_reserve.trans ?_
    rw [h.reserve]
    unfold Db.Resa
    rw [purgeExpired_rows]
    constructor
    · rintro ⟨⟨r, hr, hlivre, hm, hd⟩, hle⟩
      exact ⟨r, List.mem_filter.mpr ⟨hr, decide_eq_true (hd ▸ hle)⟩, hlivre, hm, hd⟩
    · rintro ⟨r, hr, hlivre, hm, hd⟩
      obtain ⟨hmem, hact⟩ := List.mem_filter.mp hr
      exact ⟨⟨r, hmem, hlivre, hm, hd⟩, hd ▸ of_decide_eq_true hact⟩

/-- The rows of a book that is held. -/
theorem not_pret (hinv : Inv db) {r : Reservations} (hr : r ∈ db.reservations.rows) (m : Nat) :
    ¬ db.Pret r.livre m := by
  rintro ⟨e, he, hlivre, hopen, -⟩
  exact hinv.nonReserve r hr e he hlivre hopen

theorem annuler (h : Decrit db g) (hinv : Inv db) {r : Reservations}
    (hr : r ∈ db.reservations.rows) :
    Decrit { db with reservations := db.reservations.delete fun r' => decide (r'.id = r.id) }
      ((Mouvement.annuler r.livre r.utilisateur).apply g) := by
  refine h.update ?_ ?_ (fun _ _ _ => Iff.rfl) ?_
  · intro m
    simp only [reduceCtorEq, false_iff]
    exact not_pret hinv hr m
  · intro m d
    simp only [reduceCtorEq, false_iff]
    -- the row of the book is the deleted one
    rintro ⟨r', hr', hlivre, -, -⟩
    obtain ⟨hmem, hne⟩ := List.mem_filter.mp hr'
    rw [hinv.reservation_unique hmem hr hlivre] at hne
    simp at hne
  · intro b m d hb
    constructor
    · rintro ⟨r', hr', hrest⟩
      exact ⟨r', (List.mem_filter.mp hr').1, hrest⟩
    · rintro ⟨r', hr', hlivre, hrest⟩
      refine ⟨r', List.mem_filter.mpr ⟨hr', ?_⟩, hlivre, hrest⟩
      have hne : r'.id ≠ r.id := by
        intro hid
        rw [db.reservations.eq_of_id hr' hr hid] at hlivre
        exact hb hlivre.symm
      simpa using hne

theorem reserver (h : Decrit db g) {now' : Int} {user livre : Nat}
    (hpret : ∀ m, ¬ db.Pret livre m) (hresa : ∀ r ∈ db.reservations.rows, r.livre ≠ livre) :
    Decrit (ReservationController.inserer now' user livre db)
      ((Mouvement.reserver livre user now').apply g) := by
  refine h.update ?_ ?_ (fun _ _ _ => Iff.rfl) ?_
  · intro m
    simp only [reduceCtorEq, false_iff]
    exact hpret m
  · intro m d
    constructor
    · intro heq
      obtain ⟨rfl, rfl⟩ := Situation.reserve.inj heq
      exact ⟨_, List.mem_append_right _ (List.mem_singleton.mpr rfl), rfl, rfl, rfl⟩
    · rintro ⟨r, hr, hlivre, rfl, rfl⟩
      rcases List.mem_append.mp hr with hold | hnew
      · exact absurd hlivre (hresa r hold)
      · obtain rfl := List.mem_singleton.mp hnew
        rfl
  · intro b m d hb
    constructor
    · rintro ⟨r, hr, hlivre, hrest⟩
      rcases List.mem_append.mp hr with hold | hnew
      · exact ⟨r, hold, hlivre, hrest⟩
      · rw [List.mem_singleton.mp hnew] at hlivre
        exact absurd hlivre.symm hb
    · rintro ⟨r, hr, hrest⟩
      exact ⟨r, List.mem_append_left _ hr, hrest⟩

/-- A row after the edit of another one. -/
theorem mem_editDateResa {id : Nat} {date : Int} {r : Reservations} (hne : r.id ≠ id) :
    r ∈ (db.editDateResa id date).reservations.rows ↔ r ∈ db.reservations.rows := by
  constructor
  · intro hr
    obtain ⟨r', hr', rfl⟩ := List.mem_map.mp hr
    split
    · next heq =>
      rw [if_pos heq] at hne
      exact absurd heq hne
    · exact hr'
  · intro hr
    exact List.mem_map.mpr ⟨r, hr, if_neg hne⟩

theorem redater (h : Decrit db g) (hinv : Inv db) {r : Reservations}
    (hr : r ∈ db.reservations.rows) (date : Int) :
    Decrit (db.editDateResa r.id date) ((Mouvement.redater r.livre r.utilisateur date).apply g) := by
  have hedited : { r with dateResa := date } ∈ (db.editDateResa r.id date).reservations.rows :=
    List.mem_map.mpr ⟨r, hr, if_pos rfl⟩
  refine h.update ?_ ?_ (fun _ _ _ => Iff.rfl) ?_
  · intro m
    simp only [reduceCtorEq, false_iff]
    exact not_pret hinv hr m
  · intro m d
    constructor
    · intro heq
      obtain ⟨rfl, rfl⟩ := Situation.reserve.inj heq
      exact ⟨_, hedited, rfl, rfl, rfl⟩
    · rintro ⟨r', hr', hlivre, rfl, rfl⟩
      rw [(hinv.editDateResa r.id date).reservation_unique hr' hedited hlivre]
  · intro b m d hb
    have hother : ∀ r' : Reservations, r'.livre = b →
        (r' ∈ (db.editDateResa r.id date).reservations.rows ↔ r' ∈ db.reservations.rows) := by
      intro r' hlivre
      by_cases hid : r'.id = r.id
      · constructor
        · intro hmem
          rw [(db.editDateResa r.id date).reservations.eq_of_id hmem hedited hid] at hlivre
          exact absurd hlivre.symm hb
        · intro hmem
          rw [db.reservations.eq_of_id hmem hr hid] at hlivre
          exact absurd hlivre.symm hb
      · exact mem_editDateResa hid
    constructor
    · rintro ⟨r', hr', hlivre, hrest⟩
      exact ⟨r', (hother r' hlivre).mp hr', hlivre, hrest⟩
    · rintro ⟨r', hr', hlivre, hrest⟩
      exact ⟨r', (hother r' hlivre).mpr hr', hlivre, hrest⟩

/-! Loans. -/

/-- An open loan is deleted: its book is back. -/
theorem rendre (h : Decrit db g) (hinv : Inv db) {e : Emprunt} (he : e ∈ db.emprunts.rows)
    (hopen : e.dateRetour = none) :
    Decrit (db.deleteEmprunt e.id) ((Mouvement.rendre e.livre e.utilisateur).apply g) := by
  refine h.update ?_ ?_ ?_ (fun _ _ _ _ => Iff.rfl)
  · intro m
    simp only [reduceCtorEq, false_iff]
    rintro ⟨e', he', hlivre, hopen', -⟩
    obtain ⟨hmem, hne⟩ := List.mem_filter.mp he'
    rw [hinv.ouvert_unique hmem he hopen' hopen hlivre] at hne
    simp at hne
  · intro m d
    simp only [reduceCtorEq, false_iff]
    rintro ⟨r, hr, hlivre, -, -⟩
    exact hinv.nonReserve r hr e he hlivre.symm hopen
  · intro b m hb
    constructor
    · rintro ⟨e', he', hrest⟩
      exact ⟨e', (List.mem_filter.mp he').1, hrest⟩
    · rintro ⟨e', he', hlivre, hrest⟩
      refine ⟨e', List.mem_filter.mpr ⟨he', ?_⟩, hlivre, hrest⟩
      have hne : e'.id ≠ e.id := by
        intro hid
        rw [db.emprunts.eq_of_id he' he hid] at hlivre
        exact hb hlivre.symm
      simpa using hne

/-- Deleting no open loan changes nothing. -/
theorem deleteEmprunt (h : Decrit db g) {id : Nat}
    (hclos : ∀ e ∈ db.emprunts.rows, e.id = id → e.dateRetour ≠ none) :
    Decrit (db.deleteEmprunt id) g where
  prete := by
    intro b m
    rw [h.prete]
    constructor
    · rintro ⟨e, he, hlivre, hopen, hm⟩
      refine ⟨e, List.mem_filter.mpr ⟨he, ?_⟩, hlivre, hopen, hm⟩
      have hne : e.id ≠ id := fun hid => hclos e he hid hopen
      simpa using hne
    · rintro ⟨e, he, hrest⟩
      exact ⟨e, (List.mem_filter.mp he).1, hrest⟩
  reserve := h.reserve

theorem oublier (h : Decrit db g) (id : Nat) :
    Decrit (db.deleteUtilisateur id) ((Mouvement.oublier id).apply g) where
  prete := by
    intro b m
    refine Situation.oublie_eq_prete.trans ?_
    rw [h.prete]
    constructor
    · rintro ⟨⟨e, he, hlivre, hopen, rfl⟩, hne⟩
      exact ⟨e, List.mem_filter.mpr ⟨he, by simpa using hne⟩, hlivre, hopen, rfl⟩
    · rintro ⟨e, he, hlivre, hopen, rfl⟩
      obtain ⟨hmem, hne⟩ := List.mem_filter.mp he
      exact ⟨⟨e, hmem, hlivre, hopen, rfl⟩, by simpa using hne⟩
  reserve := by
    intro b m d
    refine Situation.oublie_eq_reserve.trans ?_
    rw [h.reserve]
    constructor
    · rintro ⟨⟨r, hr, hlivre, rfl, hd⟩, hne⟩
      exact ⟨r, List.mem_filter.mpr ⟨hr, by simpa using hne⟩, hlivre, rfl, hd⟩
    · rintro ⟨r, hr, hlivre, rfl, hd⟩
      obtain ⟨hmem, hne⟩ := List.mem_filter.mp hr
      exact ⟨⟨r, hmem, hlivre, rfl, hd⟩, by simpa using hne⟩

/-- A new loan: its book is with the member, or back already if it was entered with a return date. -/
theorem flush (h : Decrit db g) (hinv : Inv db) (now : Int) (form : EmpruntForm) (user : Nat)
    {livre : Nat} (hlibre : ∀ e ∈ db.emprunts.rows, e.livre = livre → e.dateRetour ≠ none) :
    Decrit ((accepted now form ((findReservation (some livre) db).map (·.id)) user livre).flush db)
      (Function.update g livre (if form.dateRetour = none then .prete user else .libre)) := by
  refine h.update ?_ ?_ ?_ ?_
  · intro m
    constructor
    · intro heq
      split at heq
      · next hopen =>
        refine ⟨_, List.mem_append_right _ (List.mem_singleton.mpr rfl), rfl, hopen, ?_⟩
        exact Situation.prete.inj heq
      · cases heq
    · rintro ⟨e, he, hlivre, hopen, rfl⟩
      rcases mem_emprunts_flush he with hold | rfl
      · exact absurd hopen (hlibre e hold hlivre)
      · exact if_pos hopen
  · intro m d
    constructor
    · intro heq
      split at heq <;> cases heq
    · -- the row of the book is the one the request removes
      rintro ⟨r, hr, hlivre, -, -⟩
      obtain ⟨hmem, hkept⟩ := List.mem_filter.mp hr
      cases hfind : findReservation (some livre) db with
      | none => exact absurd hlivre (findReservation_eq_none.mp hfind r hmem)
      | some r₀ =>
          obtain ⟨hmem₀, hlivre₀⟩ := findReservation_eq_some hfind
          rw [hinv.reservation_unique hmem hmem₀ (hlivre.trans hlivre₀.symm)] at hkept
          simp [accepted, hfind] at hkept
  · intro b m hb
    constructor
    · rintro ⟨e, he, hlivre, hrest⟩
      rcases mem_emprunts_flush he with hold | rfl
      · exact ⟨e, hold, hlivre, hrest⟩
      · exact absurd hlivre.symm hb
    · rintro ⟨e, he, hrest⟩
      exact ⟨e, List.mem_append_left _ he, hrest⟩
  · intro b m d hb
    constructor
    · rintro ⟨r, hr, hrest⟩
      exact ⟨r, (List.mem_filter.mp hr).1, hrest⟩
    · rintro ⟨r, hr, hlivre, hrest⟩
      refine ⟨r, List.mem_filter.mpr ⟨hr, ?_⟩, hlivre, hrest⟩
      have hne : some r.id ≠ (findReservation (some livre) db).map (·.id) := by
        intro heq
        obtain ⟨r₀, hfind, hid⟩ := Option.map_eq_some_iff.mp heq.symm
        obtain ⟨hmem₀, hlivre₀⟩ := findReservation_eq_some hfind
        rw [db.reservations.eq_of_id hr hmem₀ hid.symm, hlivre₀] at hlivre
        exact hb hlivre.symm
      simpa [accepted] using hne

/-- A loan after an edit that keeps book and member is open exactly if the form says so. -/
theorem pret_edition {t : Emprunt} (ht : t ∈ db.emprunts.rows) {dateEmprunt : Int}
    {dateRetour : Option Int} {b m : Nat} :
    (edition t.id t.utilisateur t.livre dateEmprunt dateRetour db).Pret b m ↔
      (t.livre = b ∧ t.utilisateur = m ∧ dateRetour = none) ∨
        ∃ e ∈ db.emprunts.rows, e.id ≠ t.id ∧ e.livre = b ∧ e.dateRetour = none ∧
          e.utilisateur = m := by
  constructor
  · rintro ⟨e, he, hlivre, hopen, hm⟩
    rcases mem_emprunts_edition ht he with rfl | ⟨hmem, hne⟩
    · exact Or.inl ⟨hlivre, hm, hopen⟩
    · exact Or.inr ⟨e, hmem, hne, hlivre, hopen, hm⟩
  · rintro (⟨hlivre, hm, hopen⟩ | ⟨e, he, hne, hrest⟩)
    · exact ⟨_, edited_mem_edition ht, hlivre, hopen, hm⟩
    · exact ⟨e, mem_edition_of_ne he hne, hrest⟩

/-- An edit that neither returns nor reopens a loan changes nothing … -/
theorem edition_inchange (h : Decrit db g) {t : Emprunt} (ht : t ∈ db.emprunts.rows)
    {dateEmprunt : Int} {dateRetour : Option Int} (hdate : dateRetour = none ↔ t.dateRetour = none) :
    Decrit (edition t.id t.utilisateur t.livre dateEmprunt dateRetour db) g where
  prete := by
    intro b m
    rw [h.prete, pret_edition ht]
    constructor
    · rintro ⟨e, he, hlivre, hopen, hm⟩
      by_cases hid : e.id = t.id
      · obtain rfl := db.emprunts.eq_of_id he ht hid
        exact Or.inl ⟨hlivre, hm, hdate.mpr hopen⟩
      · exact Or.inr ⟨e, he, hid, hlivre, hopen, hm⟩
    · rintro (⟨hlivre, hm, hopen⟩ | ⟨e, he, -, hrest⟩)
      · exact ⟨t, ht, hlivre, hdate.mp hopen, hm⟩
      · exact ⟨e, he, hrest⟩
  reserve := h.reserve

/-- … and one that sets the return date of an open loan returns the book. -/
theorem edition_rendu (h : Decrit db g) (hinv : Inv db) {t : Emprunt} (ht : t ∈ db.emprunts.rows)
    {dateEmprunt : Int} {dateRetour : Option Int} (hopen : t.dateRetour = none)
    (hdate : dateRetour ≠ none) :
    Decrit (edition t.id t.utilisateur t.livre dateEmprunt dateRetour db)
      ((Mouvement.rendre t.livre t.utilisateur).apply g) := by
  refine h.update ?_ ?_ ?_ (fun _ _ _ _ => Iff.rfl)
  · intro m
    simp only [reduceCtorEq, false_iff]
    rw [pret_edition ht]
    rintro (⟨-, -, hnone⟩ | ⟨e, he, hne, hlivre, hopen', -⟩)
    · exact hdate hnone
    · exact hne (congrArg Emprunt.id (hinv.ouvert_unique he ht hopen' hopen hlivre))
  · intro m d
    simp only [reduceCtorEq, false_iff]
    rintro ⟨r, hr, hlivre, -, -⟩
    exact hinv.nonReserve r hr t ht hlivre.symm hopen
  · intro b m hb
    rw [pret_edition ht]
    constructor
    · rintro (⟨hlivre, -, -⟩ | ⟨e, he, -, hrest⟩)
      · exact absurd hlivre.symm hb
      · exact ⟨e, he, hrest⟩
    · rintro ⟨e, he, hlivre, hrest⟩
      refine Or.inr ⟨e, he, ?_, hlivre, hrest⟩
      intro hid
      rw [db.emprunts.eq_of_id he ht hid] at hlivre
      exact hb hlivre.symm

end Decrit

/-! ## What the code counts -/

namespace Inv

variable {db : Db}

theorem encard_reserves (h : Inv db) (m : Nat) :
    (reserves db.situation m).encard =
      db.reservations.rows.countP (fun r => decide (r.utilisateur = m)) := by
  refine encard_eq_countP (f := Reservations.livre) (List.Nodup.of_map _ db.reservations.nodup) ?_ ?_
  · intro b
    constructor
    · rintro ⟨d, hb⟩
      obtain ⟨r, hr, hlivre, hm, -⟩ := h.situation_eq_reserve.mp hb
      exact ⟨r, hr, decide_eq_true hm, hlivre⟩
    · rintro ⟨r, hr, hm, hlivre⟩
      exact ⟨r.dateResa, h.situation_eq_reserve.mpr ⟨r, hr, hlivre, of_decide_eq_true hm, rfl⟩⟩
  · intro r hr r' hr' _ _ hlivre
    exact h.reservation_unique hr hr' hlivre

theorem encard_pretes (h : Inv db) (m : Nat) :
    (pretes db.situation m).encard = countEmpruntsActifs m db := by
  refine encard_eq_countP (f := Emprunt.livre) (List.Nodup.of_map _ db.emprunts.nodup) ?_ ?_
  · intro b
    refine h.situation_eq_prete.trans ?_
    constructor
    · rintro ⟨e, he, hlivre, hopen, hm⟩
      exact ⟨e, he, by simp [hm, hopen], hlivre⟩
    · rintro ⟨e, he, hp, hlivre⟩
      simp only [Bool.and_eq_true, decide_eq_true_eq, Emprunt.ouvert_eq_true] at hp
      exact ⟨e, he, hlivre, hp.2, hp.1⟩
  · intro e he e' he' hp hp' hlivre
    simp only [Bool.and_eq_true, decide_eq_true_eq, Emprunt.ouvert_eq_true] at hp hp'
    exact h.ouvert_unique he he' hp.2 hp'.2 hlivre

theorem situation_eq_libre (h : Inv db) {b : Nat} :
    db.situation b = .libre ↔ (∀ e ∈ db.emprunts.rows, e.livre = b → e.dateRetour ≠ none) ∧
      ∀ r ∈ db.reservations.rows, r.livre ≠ b := by
  constructor
  · intro hb
    constructor
    · intro e he hlivre hopen
      cases hb.symm.trans (h.situation_eq_prete.mpr ⟨e, he, hlivre, hopen, rfl⟩)
    · intro r hr hlivre
      cases hb.symm.trans (h.situation_eq_reserve.mpr ⟨r, hr, hlivre, rfl, rfl⟩)
  · rintro ⟨hpret, hresa⟩
    cases hb : db.situation b with
    | libre => rfl
    | prete m =>
        obtain ⟨e, he, hlivre, hopen, -⟩ := h.situation_eq_prete.mp hb
        exact absurd hopen (hpret e he hlivre)
    | reserve m d =>
        obtain ⟨r, hr, hlivre, -, -⟩ := h.situation_eq_reserve.mp hb
        exact absurd hlivre (hresa r hr)

end Inv

/-! ## Events, as movements -/

/-- The movements an event can amount to, and for whom. A member reserves the book his request names
and cancels for himself, at the time of his request; staff lends, takes back and tidies up. -/
inductive Cause (env : Env) (db : Db) : Evenement → Mouvement Nat Nat → Prop
  | expire (now : Int) : Cause env db (.expire now) (.expirer (cutoff now))
  | index (now now' : Int) (u : Nat) :
      Cause env db (.requete (.api now now' (some u) .reservationIndex)) (.expirer (cutoff now))
  | purge (now now' : Int) (u : Nat) (data : Json) :
      Cause env db (.requete (.api now now' (some u) (.reservationCreate data))) (.expirer (cutoff now))
  | reserver (now now' : Int) (u : Nat) (data : Json) (b : Nat) :
      env.entityId (data.key "livreId") = some b →
      Cause env db (.requete (.api now now' (some u) (.reservationCreate data))) (.reserver b u now')
  | annuler (now now' : Int) (r : Reservations) : r ∈ db.reservations.rows →
      Cause env db (.requete (.api now now' (some r.utilisateur) (.reservationDelete r.id)))
        (.annuler r.livre r.utilisateur)
  | preter (now : Int) (staff : Nat) (f : EmpruntForm) (b m : Nat) :
      f.livre = some b → f.utilisateur = some m →
      Cause env db (.requete (.admin now (some staff) (.empruntNew f))) (.preter b m)
  | rendreAussitot (now : Int) (staff : Nat) (f : EmpruntForm) (b m : Nat) :
      f.livre = some b → f.utilisateur = some m → f.dateRetour ≠ none →
      Cause env db (.requete (.admin now (some staff) (.empruntNew f))) (.rendre b m)
  | rendre (now : Int) (staff : Nat) (f : EmpruntForm) (e : Emprunt) : e ∈ db.emprunts.rows →
      Cause env db (.requete (.admin now (some staff) (.empruntEdit e.id f)))
        (.rendre e.livre e.utilisateur)
  | effacer (now : Int) (staff : Nat) (e : Emprunt) : e ∈ db.emprunts.rows →
      Cause env db (.requete (.admin now (some staff) (.empruntDelete e.id)))
        (.rendre e.livre e.utilisateur)
  | oublier (now : Int) (staff id : Nat) :
      Cause env db (.requete (.admin now (some staff) (.utilisateurDelete id))) (.oublier id)
  | redater (now : Int) (staff : Nat) (r : Reservations) (d : Int) : r ∈ db.reservations.rows →
      Cause env db (.requete (.admin now (some staff) (.reservationEdit r.id d)))
        (.redater r.livre r.utilisateur d)
  | retirer (now : Int) (staff : Nat) (r : Reservations) : r ∈ db.reservations.rows →
      Cause env db (.requete (.admin now (some staff) (.reservationDelete r.id)))
        (.annuler r.livre r.utilisateur)

/-- Permitted movements that the event causes lead to what `db'` says. -/
def Revient (env : Env) (db : Db) (e : Evenement) (db' : Db) : Prop :=
  ∃ ks, (∀ k ∈ ks, Cause env db e k) ∧ Along Mouvement.apply Mouvement.Permise db.situation ks ∧
    Decrit db' (run Mouvement.apply db.situation ks)

namespace Revient

variable {env : Env} {db db' : Db} {e : Evenement}

theorem rien (h : Decrit db' db.situation) : Revient env db e db' :=
  ⟨[], fun _ hk => (List.not_mem_nil hk).elim, trivial, h⟩

theorem un {k : Mouvement Nat Nat} (hcause : Cause env db e k) (hperm : k.Permise db.situation)
    (h : Decrit db' (k.apply db.situation)) : Revient env db e db' := by
  refine ⟨[k], ?_, ⟨hperm, trivial⟩, h⟩
  intro k' hk'
  rw [List.mem_singleton.mp hk']
  exact hcause

theorem deux {k k' : Mouvement Nat Nat} (hcause : Cause env db e k) (hcause' : Cause env db e k')
    (hperm : k.Permise db.situation) (hperm' : k'.Permise (k.apply db.situation))
    (h : Decrit db' (k'.apply (k.apply db.situation))) : Revient env db e db' := by
  refine ⟨[k, k'], ?_, ⟨hperm, hperm', trivial⟩, h⟩
  intro j hj
  rcases List.mem_cons.mp hj with rfl | hj
  · exact hcause
  · rw [List.mem_singleton.mp hj]
    exact hcause'

/-! ### The API -/

theorem create (h : Inv db) {now now' : Int} {u : Nat} {data : Json}
    (heff : ReservationController.CreateEffect now now' u (env.entityId (data.key "livreId")) db db') :
    Revient env db (.requete (.api now now' (some u) (.reservationCreate data))) db' := by
  cases heff with
  | rien => exact .rien h.decrit
  | purge => exact .un (.purge now now' u data) trivial (h.decrit.expirer _)
  | insertion livre hmem hdemande hemprunt hcount hactive =>
      have hpurged := h.purge (cutoff now)
      have hsituation := hpurged.situation_eq (h.decrit.expirer (cutoff now))
      have hpret : ∀ e ∈ db.emprunts.rows, e.livre = livre.id → e.dateRetour ≠ none :=
        fun e he hlivre => h.not_lent hmem hemprunt he hlivre
      have hresa := findActiveByLivre_purgeExpired hactive
      refine .deux (.purge now now' u data) (.reserver now now' u data livre.id hdemande) trivial
        ?_ ?_
      · rw [← hsituation]
        refine ⟨hpurged.situation_eq_libre.mpr ⟨hpret, hresa⟩, ?_⟩
        rw [hpurged.encard_reserves, ← countActiveForUser_purgeExpired]
        exact_mod_cast hcount
      · refine (h.decrit.expirer (cutoff now)).reserver ?_ hresa
        rintro m ⟨e, he, hlivre, hopen, -⟩
        exact hpret e he hlivre hopen

theorem delete (h : Inv db) {now now' : Int} {u id : Nat}
    (heff : ReservationController.DeleteEffect u id db db') :
    Revient env db (.requete (.api now now' (some u) (.reservationDelete id))) db' := by
  cases heff with
  | rien => exact .rien h.decrit
  | suppression r hr hid howner =>
      subst hid howner
      refine .un (.annuler now now' r hr) ?_ (h.decrit.annuler h hr)
      exact ⟨r.dateResa, h.situation_eq_reserve.mpr ⟨r, hr, rfl, rfl, rfl⟩⟩

theorem api (h : Inv db) {now now' : Int} {w : Option Utilisateur} {req : ApiRequest}
    (heff : ApiEffect env now now' w db req db') :
    Revient env db (.requete (.api now now' (w.map (·.id)) req)) db' := by
  cases heff with
  | rien => exact .rien h.decrit
  | profil u data huser hflush => exact .rien (h.decrit.congr rfl rfl)
  | categorie data nom hnom => exact .rien (h.decrit.congr rfl rfl)
  | purge u huser hadherent =>
      subst huser
      exact .un (.index now now' u.id) trivial (h.decrit.expirer _)
  | reservation u data db' huser hadherent heff =>
      subst huser
      exact create h heff
  | suppression u id db' huser hadherent heff =>
      subst huser
      exact delete h heff

/-! ### The back office -/

theorem empruntNew (h : Inv db) (now : Int) (staff : Nat) (f : EmpruntForm) :
    Revient env db (.requete (.admin now (some staff) (.empruntNew f)))
      ((EmpruntCrudController.persistEntity now f db).commit db) := by
  have hissue := persistEntity_issue now f db
  generalize EmpruntCrudController.persistEntity now f db = issue at hissue ⊢
  cases hissue with
  | accepte user livre huser hlivre hres hcount hcours =>
      obtain ⟨_, hfu, hu⟩ := Option.bind_eq_some_iff.mp huser
      obtain ⟨_, hfl, hl⟩ := Option.bind_eq_some_iff.mp hlivre
      obtain ⟨-, rfl⟩ := db.utilisateurs.find?_eq_some.mp hu
      obtain ⟨-, rfl⟩ := db.livres.find?_eq_some.mp hl
      have hlibre := findEmpruntEnCours_eq_none.mp hcours
      have hflush := h.decrit.flush h now f user.id hlibre
      have hperm : (Mouvement.preter livre.id user.id).Permise db.situation := by
        refine ⟨?_, ?_⟩
        · cases hfind : findReservation (some livre.id) db with
          | none =>
              exact Or.inl (h.situation_eq_libre.mpr
                ⟨hlibre, findReservation_eq_none.mp hfind⟩)
          | some r =>
              obtain ⟨hr, hl⟩ := findReservation_eq_some hfind
              exact Or.inr ⟨r.dateResa,
                h.situation_eq_reserve.mpr ⟨r, hr, hl, hres r hfind, rfl⟩⟩
        · rw [h.encard_pretes]
          exact_mod_cast hcount
      cases hdate : f.dateRetour with
      | none =>
          rw [if_pos hdate] at hflush
          exact .un (.preter now staff f livre.id user.id hfl hfu) hperm hflush
      | some d =>
          rw [if_neg (by simp [hdate])] at hflush
          refine .deux (.preter now staff f livre.id user.id hfl hfu)
            (.rendreAussitot now staff f livre.id user.id hfl hfu (by simp [hdate])) hperm
            (Function.update_self _ _ _) ?_
          show Decrit _ (Function.update (Function.update db.situation livre.id _) livre.id _)
          rwa [Function.update_idem]
  | _ => exact .rien h.decrit

theorem empruntEdit (h : Inv db) {now : Int} {staff : Nat} {f : EmpruntForm} {e : Emprunt}
    {user livre : Nat} {dateEmprunt : Int} (he : e ∈ db.emprunts.rows)
    (hedit : Inv.KeepsLoan db e.id f) (hfu : f.utilisateur = some user)
    (hfl : f.livre = some livre) :
    Revient env db (.requete (.admin now (some staff) (.empruntEdit e.id f)))
      (edition e.id user livre dateEmprunt f.dateRetour db) := by
  obtain ⟨hl, hu, hreopen⟩ := hedit e he rfl
  obtain rfl : livre = e.livre := Option.some.inj (hfl.symm.trans hl)
  obtain rfl : user = e.utilisateur := Option.some.inj (hfu.symm.trans hu)
  by_cases hopen : e.dateRetour = none
  · by_cases hdate : f.dateRetour = none
    · exact .rien (h.decrit.edition_inchange he ⟨fun _ => hopen, fun _ => hdate⟩)
    · refine .un (.rendre now staff f e he) ?_ (h.decrit.edition_rendu h he hopen hdate)
      exact h.situation_eq_prete.mpr ⟨e, he, rfl, hopen, rfl⟩
  · refine .rien (h.decrit.edition_inchange he ⟨hreopen, fun hclos => absurd hclos hopen⟩)

theorem empruntDelete (h : Inv db) (now : Int) (staff id : Nat) :
    Revient env db (.requete (.admin now (some staff) (.empruntDelete id))) (db.deleteEmprunt id) := by
  by_cases hopen : ∃ e ∈ db.emprunts.rows, e.id = id ∧ e.dateRetour = none
  · obtain ⟨e, he, rfl, hopen⟩ := hopen
    refine .un (.effacer now staff e he) ?_ (h.decrit.rendre h he hopen)
    exact h.situation_eq_prete.mpr ⟨e, he, rfl, hopen, rfl⟩
  · refine .rien (h.decrit.deleteEmprunt ?_)
    intro e he hid hnone
    exact hopen ⟨e, he, hid, hnone⟩

theorem reservationEdit (h : Inv db) (now : Int) (staff id : Nat) (date : Int) :
    Revient env db (.requete (.admin now (some staff) (.reservationEdit id date)))
      (db.editDateResa id date) := by
  by_cases hrow : ∃ r ∈ db.reservations.rows, r.id = id
  · obtain ⟨r, hr, rfl⟩ := hrow
    refine .un (.redater now staff r date hr) ?_ (h.decrit.redater h hr date)
    exact ⟨r.dateResa, h.situation_eq_reserve.mpr ⟨r, hr, rfl, rfl, rfl⟩⟩
  · refine .rien (h.decrit.congr rfl ?_)
    refine (List.map_congr_left ?_).trans (List.map_id _)
    intro r hr
    exact if_neg fun hid => hrow ⟨r, hr, hid⟩

theorem reservationDelete (h : Inv db) (now : Int) (staff id : Nat) :
    Revient env db (.requete (.admin now (some staff) (.reservationDelete id)))
      { db with reservations := db.reservations.delete fun r => decide (r.id = id) } := by
  by_cases hrow : ∃ r ∈ db.reservations.rows, r.id = id
  · obtain ⟨r, hr, rfl⟩ := hrow
    refine .un (.retirer now staff r hr) ?_ (h.decrit.annuler h hr)
    exact ⟨r.dateResa, h.situation_eq_reserve.mpr ⟨r, hr, rfl, rfl, rfl⟩⟩
  · refine .rien (h.decrit.congr rfl ?_)
    refine List.filter_eq_self.mpr ?_
    intro r hr
    have hne : r.id ≠ id := fun hid => hrow ⟨r, hr, hid⟩
    simpa using hne

theorem admin (h : Inv db) {now : Int} {staff : Nat} {req : AdminRequest}
    (hedit : ∀ id f, req = .empruntEdit id f → Inv.KeepsLoan db id f)
    (heff : AdminEffect env now db req db') :
    Revient env db (.requete (.admin now (some staff) req)) db' := by
  cases heff with
  | empruntNew f => exact empruntNew h now staff f
  | empruntEdit f e u l dateEmprunt he hu hl hfu hfl =>
      exact empruntEdit h he (hedit e.id f rfl) hfu hfl
  | empruntDelete id => exact empruntDelete h now staff id
  | utilisateurDelete id => exact .un (.oublier now staff id) trivial (h.decrit.oublier id)
  | reservationEdit id date => exact reservationEdit h now staff id date
  | reservationDelete id => exact reservationDelete h now staff id
  -- catalogue and accounts
  | _ => exact .rien (h.decrit.congr rfl rfl)

end Revient

end Bibliotheque
