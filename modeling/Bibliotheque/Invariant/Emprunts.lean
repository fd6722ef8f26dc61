import Bibliotheque.Invariant.Reservations

/-! # The loan and reservation invariant

Three records of the same facts are kept by hand: the loan rows, the pointer `Livre::$emprunt`, and
the reservation rows that must be gone once the book is lent. `LoanInvariant` says they agree.

It is not inductive as it stands. `Inv` adds what the operations need: the pointer never dangles
(so an available book has no open loan), and a book has at most one reservation row (so the one that
`persistEntity` removes is the only one). -/

namespace Bibliotheque

open Lib ReservationsRepository EmpruntCrudController

/-- The open loans of a book. -/
def ouvertPourLivre (livre : Nat) (e : Emprunt) : Bool := decide (e.livre = livre) && e.ouvert

/-- The open loans of a member. -/
def ouvertPourMembre (user : Nat) (e : Emprunt) : Bool := decide (e.utilisateur = user) && e.ouvert

@[simp] theorem ouvertPourLivre_eq_true {livre : Nat} {e : Emprunt} :
    ouvertPourLivre livre e = true ↔ e.livre = livre ∧ e.dateRetour = none := by
  simp [ouvertPourLivre]

@[simp] theorem ouvertPourMembre_eq_true {user : Nat} {e : Emprunt} :
    ouvertPourMembre user e = true ↔ e.utilisateur = user ∧ e.dateRetour = none := by
  simp [ouvertPourMembre]

/-- What the lending desk promises of every state it can reach. -/
structure LoanInvariant (db : Db) : Prop where
  /-- The pointer of a book is exactly its open loan … -/
  pointeur : ∀ b ∈ db.livres.rows, ∀ e ∈ db.emprunts.rows,
    b.emprunt = some e.id ↔ e.livre = b.id ∧ e.dateRetour = none
  /-- … so a book is available exactly when it has no open loan. -/
  disponible : ∀ b ∈ db.livres.rows,
    b.isDisponible = true ↔ ∀ e ∈ db.emprunts.rows, e.livre = b.id → e.dateRetour ≠ none
  unParLivre : ∀ livre : Nat, db.emprunts.rows.countP (ouvertPourLivre livre) ≤ 1
  cinqParMembre : ∀ user : Nat, db.emprunts.rows.countP (ouvertPourMembre user) ≤ 5
  /-- No reservation row, expired or not, on a book that is lent. -/
  nonReserve : ∀ r ∈ db.reservations.rows, ∀ e ∈ db.emprunts.rows,
    e.livre = r.livre → e.dateRetour ≠ none

/-- The invariant that the operations keep. -/
structure Inv (db : Db) : Prop where
  pointeur : ∀ b ∈ db.livres.rows, ∀ e ∈ db.emprunts.rows,
    b.emprunt = some e.id ↔ e.livre = b.id ∧ e.dateRetour = none
  pointeurValide : ∀ b ∈ db.livres.rows, ∀ i, b.emprunt = some i → ∃ e ∈ db.emprunts.rows, e.id = i
  unParLivre : ∀ livre : Nat, db.emprunts.rows.countP (ouvertPourLivre livre) ≤ 1
  cinqParMembre : ∀ user : Nat, db.emprunts.rows.countP (ouvertPourMembre user) ≤ 5
  nonReserve : ∀ r ∈ db.reservations.rows, ∀ e ∈ db.emprunts.rows,
    e.livre = r.livre → e.dateRetour ≠ none
  limites : ReservationLimits db

namespace Inv

variable {db : Db}

/-- Two open loans of one book are the same row. -/
theorem ouvert_unique (h : Inv db) {e e' : Emprunt} (he : e ∈ db.emprunts.rows)
    (he' : e' ∈ db.emprunts.rows) (hopen : e.dateRetour = none) (hopen' : e'.dateRetour = none)
    (hlivre : e.livre = e'.livre) : e = e' :=
  Table.eq_of_countP_le_one (h.unParLivre e'.livre) he he'
    (ouvertPourLivre_eq_true.mpr ⟨hlivre, hopen⟩) (ouvertPourLivre_eq_true.mpr ⟨rfl, hopen'⟩)

/-- Two reservations of one book are the same row. -/
theorem reservation_unique (h : Inv db) {r r' : Reservations} (hr : r ∈ db.reservations.rows)
    (hr' : r' ∈ db.reservations.rows) (hlivre : r.livre = r'.livre) : r = r' :=
  Table.eq_of_countP_le_one (h.limites.parLivre r'.livre) hr hr' (by simpa using hlivre) (by simp)

/-- A book loaded with a null pointer has no open loan. -/
theorem not_lent (h : Inv db) {b : Livre} (hb : b ∈ db.livres.rows) (hnull : b.emprunt = none)
    {e : Emprunt} (he : e ∈ db.emprunts.rows) (hlivre : e.livre = b.id) : e.dateRetour ≠ none := by
  intro hopen
  have hpt := (h.pointeur b hb e he).mpr ⟨hlivre, hopen⟩
  rw [hnull] at hpt
  cases hpt

theorem loanInvariant (h : Inv db) : LoanInvariant db where
  pointeur := h.pointeur
  disponible := by
    intro b hb
    rw [Livre.isDisponible_eq_true]
    constructor
    · intro hnull e he hlivre
      exact h.not_lent hb hnull he hlivre
    · intro hnone
      cases hpt : b.emprunt with
      | none => rfl
      | some i =>
          obtain ⟨e, he, rfl⟩ := h.pointeurValide b hb i hpt
          obtain ⟨hlivre, hopen⟩ := (h.pointeur b hb e he).mp hpt
          exact absurd hopen (hnone e he hlivre)
  unParLivre := h.unParLivre
  cinqParMembre := h.cinqParMembre
  nonReserve := h.nonReserve

/-- Together with the limits of the reservation table, the loan invariant is all of it: a pointer that
points nowhere would make a book without open loan unavailable. -/
theorem of_loanInvariant (h : LoanInvariant db) (hlimites : ReservationLimits db) : Inv db where
  pointeur := h.pointeur
  pointeurValide := by
    intro b hb i hi
    have hlent : ¬ ∀ e ∈ db.emprunts.rows, e.livre = b.id → e.dateRetour ≠ none := by
      intro hnone
      have hnull := (Livre.isDisponible_eq_true b).mp ((h.disponible b hb).mpr hnone)
      rw [hi] at hnull
      cases hnull
    push Not at hlent
    obtain ⟨e, he, hlivre, hopen⟩ := hlent
    have hpt := (h.pointeur b hb e he).mpr ⟨hlivre, hopen⟩
    exact ⟨e, he, Option.some.inj (hpt.symm.trans hi)⟩
  unParLivre := h.unParLivre
  cinqParMembre := h.cinqParMembre
  nonReserve := h.nonReserve
  limites := hlimites

/-! ## Reservations: only the reservation table changes -/

/-- Deleting reservations keeps the invariant. -/
theorem deleteReservations (h : Inv db) (p : Reservations → Bool) :
    Inv { db with reservations := db.reservations.delete p } where
  pointeur := h.pointeur
  pointeurValide := h.pointeurValide
  unParLivre := h.unParLivre
  cinqParMembre := h.cinqParMembre
  nonReserve := fun r hr => h.nonReserve r (List.mem_filter.mp hr).1
  limites := h.limites.delete p rfl

theorem purge (h : Inv db) (c : Int) : Inv (purgeExpired c db).2 := h.deleteReservations _

/-- A new reservation keeps the invariant when, at that moment, its book is neither lent nor
reserved and its member has fewer than three. -/
theorem inserer (h : Inv db) {now' : Int} {user livre : Nat}
    (hlibre : ∀ e ∈ db.emprunts.rows, e.livre = livre → e.dateRetour ≠ none)
    (hlivre : ∀ r ∈ db.reservations.rows, r.livre ≠ livre)
    (hcount : db.reservations.rows.countP (fun r => decide (r.utilisateur = user)) < 3) :
    Inv (ReservationController.inserer now' user livre db) where
  pointeur := h.pointeur
  pointeurValide := h.pointeurValide
  unParLivre := h.unParLivre
  cinqParMembre := h.cinqParMembre
  nonReserve := by
    intro r hr e he hl
    rcases List.mem_append.mp hr with hold | hnew
    · exact h.nonReserve r hold e he hl
    · rw [List.mem_singleton.mp hnew] at hl
      exact hlibre e he hl
  limites := h.limites.inserer hlivre hcount

/-- A reservation is only inserted on a book whose pointer was null. -/
theorem create (h : Inv db) {now now' : Int} {user : Nat} {demande : Option Nat} {db' : Db}
    (heff : ReservationController.CreateEffect now now' user demande db db') : Inv db' := by
  cases heff with
  | rien => exact h
  | purge => exact h.purge _
  | insertion livre hmem hdemande hemprunt hcount hactive =>
      rw [countActiveForUser_purgeExpired] at hcount
      refine (h.purge _).inserer ?_ (findActiveByLivre_purgeExpired hactive) hcount
      intro e he hl
      exact h.not_lent hmem hemprunt he hl

theorem editDateResa (h : Inv db) (id : Nat) (date : Int) : Inv (db.editDateResa id date) where
  pointeur := h.pointeur
  pointeurValide := h.pointeurValide
  unParLivre := h.unParLivre
  cinqParMembre := h.cinqParMembre
  nonReserve := by
    intro r hr e he hlivre
    obtain ⟨r', hr', rfl⟩ := List.mem_map.mp hr
    refine h.nonReserve r' hr' e he (hlivre.trans ?_)
    split <;> rfl
  limites := h.limites.update id (fun r => { r with dateResa := date }) (fun _ => rfl)
    (fun _ => rfl) (fun _ => rfl) rfl

/-! ## Deleting loans: the foreign key empties the pointers -/

theorem removeEmprunts (h : Inv db) (p : Emprunt → Bool) : Inv (db.removeEmprunts p) where
  pointeur := by
    intro b' hb' e he
    obtain ⟨b, hb, rfl⟩ := List.mem_map.mp hb'
    obtain ⟨hmem, hkept⟩ := List.mem_filter.mp he
    split
    · next hnulled =>
      -- the pointer was to a deleted loan, so no loan that is left is the open loan of the book
      obtain ⟨e₁, he₁, hp₁⟩ := List.any_eq_true.mp hnulled
      simp only [Bool.and_eq_true, decide_eq_true_eq] at hp₁
      constructor
      · intro hpt; cases hpt
      · intro hopen
        have hpt := (h.pointeur b hb e hmem).mpr hopen
        have hid : e₁.id = e.id := by
          rw [hp₁.2] at hpt
          exact Option.some.inj hpt
        rw [db.emprunts.eq_of_id he₁ hmem hid] at hp₁
        rw [hp₁.1] at hkept
        cases hkept
    · exact h.pointeur b hb e hmem
  pointeurValide := by
    intro b' hb' i hi
    obtain ⟨b, hb, rfl⟩ := List.mem_map.mp hb'
    split at hi
    · cases hi
    · next hkept =>
      obtain ⟨e, he, rfl⟩ := h.pointeurValide b hb i hi
      refine ⟨e, List.mem_filter.mpr ⟨he, ?_⟩, rfl⟩
      cases hp : p e with
      | false => rfl
      | true =>
          refine absurd ?_ hkept
          exact List.any_eq_true.mpr ⟨e, he, by simp [hp, hi]⟩
  unParLivre := fun livre => (db.emprunts.countP_delete_le p _).trans (h.unParLivre livre)
  cinqParMembre := fun user => (db.emprunts.countP_delete_le p _).trans (h.cinqParMembre user)
  nonReserve := fun r hr e he => h.nonReserve r hr e (List.mem_filter.mp he).1
  limites := h.limites.congr rfl

theorem deleteUtilisateur (h : Inv db) (id : Nat) : Inv (db.deleteUtilisateur id) := by
  have h' := (h.removeEmprunts (fun e => decide (e.utilisateur = id))).deleteReservations
    (fun r => decide (r.utilisateur = id))
  exact ⟨h'.pointeur, h'.pointeurValide, h'.unParLivre, h'.cinqParMembre, h'.nonReserve,
    h'.limites.congr rfl⟩

/-! ## Creating and editing a loan -/

/-- The pointers after the flush: the book of an open loan points to it, every other book points where
it did. -/
theorem flush_pointeur (h : Inv db) (now : Int) (form : EmpruntForm) {removed : Option Nat}
    {user livre : Nat} (hlibre : ∀ e ∈ db.emprunts.rows, e.livre = livre → e.dateRetour ≠ none) :
    ∀ b ∈ ((accepted now form removed user livre).flush db).livres.rows,
      ∀ e ∈ ((accepted now form removed user livre).flush db).emprunts.rows,
        b.emprunt = some e.id ↔ e.livre = b.id ∧ e.dateRetour = none := by
  intro b' hb' e he
  obtain ⟨b, hb, hid, hpt⟩ := mem_livres_flush hb'
  have hlt : ∀ e ∈ db.emprunts.rows, e.id < db.emprunts.next := db.emprunts.lt_next
  rw [hpt, hid]
  rcases mem_emprunts_flush he with hold | rfl
  · split
    · next hpointed =>
      -- the book now points to the new loan; no earlier loan of it is open
      constructor
      · intro heq
        have := hlt e hold
        have := Option.some.inj heq
        omega
      · rintro ⟨hlivre, hopen⟩
        exact absurd hopen (hlibre e hold (hlivre.trans hpointed.2))
    · exact h.pointeur b hb e hold
  · split
    · next hpointed => simp [nouvelEmprunt, hpointed]
    · next hpointed =>
      -- a book that does not get the new loan cannot point to a key not yet given
      constructor
      · intro heq
        obtain ⟨e', he', hid'⟩ := h.pointeurValide b hb _ heq
        have := hlt e' he'
        simp only at hid'
        omega
      · rintro ⟨hlivre, hopen⟩
        exact absurd ⟨hopen, hlivre.symm⟩ hpointed

/-- The flush of an accepted loan keeps the invariant when, at that moment, the book has no open
loan, the member has fewer than five, and the only reservation of the book is the removed one. -/
theorem flush (h : Inv db) (now : Int) (form : EmpruntForm) {removed : Option Nat}
    {user livre : Nat} (hlibre : ∀ e ∈ db.emprunts.rows, e.livre = livre → e.dateRetour ≠ none)
    (hcount : countEmpruntsActifs user db < 5)
    (hres : ∀ r ∈ db.reservations.rows, r.livre = livre → some r.id = removed) :
    Inv ((accepted now form removed user livre).flush db) where
  pointeur := h.flush_pointeur now form hlibre
  pointeurValide := by
    intro b' hb' i hi
    obtain ⟨b, hb, -, hpt⟩ := mem_livres_flush hb'
    rw [hpt] at hi
    split at hi
    · refine ⟨_, List.mem_append_right _ (List.mem_singleton.mpr rfl), ?_⟩
      exact Option.some.inj hi
    · obtain ⟨e, he, rfl⟩ := h.pointeurValide b hb i hi
      exact ⟨e, List.mem_append_left _ he, rfl⟩
  unParLivre := by
    intro livre'
    refine (db.emprunts.countP_insert _ _).trans_le ?_
    have hle := h.unParLivre livre'
    split
    · next hnew =>
      have heq : livre = livre' := (ouvertPourLivre_eq_true.mp hnew).1
      have hzero : db.emprunts.rows.countP (ouvertPourLivre livre') = 0 := by
        rw [List.countP_eq_zero]
        intro e he hopen
        obtain ⟨hlivre, hnone⟩ := ouvertPourLivre_eq_true.mp hopen
        exact hlibre e he (hlivre.trans heq.symm) hnone
      omega
    · omega
  cinqParMembre := by
    intro user'
    refine (db.emprunts.countP_insert _ _).trans_le ?_
    have hle := h.cinqParMembre user'
    split
    · next hnew =>
      have heq : user = user' := (ouvertPourMembre_eq_true.mp hnew).1
      subst heq
      exact hcount
    · omega
  nonReserve := by
    intro r hr e he hlivre
    obtain ⟨hmem, hkept⟩ := List.mem_filter.mp hr
    rcases List.mem_append.mp he with hold | hnew
    · exact h.nonReserve r hmem e hold hlivre
    · intro _
      rw [List.mem_singleton.mp hnew] at hlivre
      have hrem : some r.id = removed := hres r hmem hlivre.symm
      simp [accepted, hrem] at hkept
  limites := h.limites.delete _ rfl

/-- `persistEntity` keeps the invariant: its checks are the conditions of the flush, and the
reservation it found is the only one of the book. -/
theorem persistEntity (h : Inv db) {now : Int} {form : EmpruntForm} {db' : Db}
    (heff : PersistEffect now form db db') : Inv db' := by
  cases heff with
  | rien => exact h
  | pret user livre removed huser hlivre hres hcount hcours =>
      refine h.flush now form (findEmpruntEnCours_eq_none.mp hcours) hcount ?_
      intro r hr hl
      cases hfind : findReservation (some livre.id) db with
      | none => exact absurd hl (findReservation_eq_none.mp hfind r hr)
      | some r₀ =>
          obtain ⟨hr₀, hl₀⟩ := findReservation_eq_some hfind
          rw [(hres r₀ hfind).2, h.reservation_unique hr hr₀ (hl.trans hl₀.symm)]

/-! An edit that keeps the book and the member of a loan and does not reopen it. -/

section Edition

variable {t : Emprunt} {dateEmprunt : Int} {dateRetour : Option Int}

theorem edition_pointeur (h : Inv db) (ht : t ∈ db.emprunts.rows)
    (hopen : dateRetour = none → t.dateRetour = none) :
    ∀ b ∈ (edition t.id t.utilisateur t.livre dateEmprunt dateRetour db).livres.rows,
    ∀ e ∈ (edition t.id t.utilisateur t.livre dateEmprunt dateRetour db).emprunts.rows,
      b.emprunt = some e.id ↔ e.livre = b.id ∧ e.dateRetour = none := by
  intro b' hb' e he
  obtain ⟨b, hb, hid, hpt⟩ := mem_livres_edition hb'
  rw [hpt, hid]
  rcases mem_emprunts_edition ht he with rfl | ⟨hmem, hne⟩
  · -- the edited loan: its book points to it exactly while it stays open
    have hold := h.pointeur b hb t ht
    split
    · next hbook =>
      cases dateRetour with
      | none => simpa [pointeurApresEdition, edited] using hbook.symm
      | some d =>
          simp only [pointeurApresEdition, edited, Option.isNone_some, Bool.false_eq_true,
            if_false, reduceCtorEq, and_false, iff_false]
          split
          · simp
          · next hother => exact hother
    · next hbook =>
      have hbook' : ¬ t.livre = b.id := fun heq => hbook heq.symm
      simp only [edited, hbook', false_and, iff_false]
      intro hpt
      exact hbook' (hold.mp hpt).1
  · -- another loan: were it open on the book, it would be the edited one
    have hold := h.pointeur b hb e hmem
    split
    · next hbook =>
      cases dateRetour with
      | none =>
          simp only [pointeurApresEdition, Option.isNone_none, if_true, Option.some.injEq]
          constructor
          · intro heq
            exact absurd heq.symm hne
          · rintro ⟨hlivre, hnone⟩
            have heq : e = t := h.ouvert_unique hmem ht hnone (hopen rfl) (hlivre.trans hbook)
            exact absurd (congrArg Emprunt.id heq) hne
      | some d =>
          simp only [pointeurApresEdition, Option.isNone_some, Bool.false_eq_true, if_false]
          split
          · next hpointed =>
            constructor
            · intro heq; cases heq
            · intro hlent
              have hpt' := hold.mpr hlent
              rw [hpointed] at hpt'
              exact absurd (Option.some.inj hpt').symm hne
          · exact hold
    · exact hold

theorem edition_pointeurValide (h : Inv db) (ht : t ∈ db.emprunts.rows) :
    ∀ b ∈ (edition t.id t.utilisateur t.livre dateEmprunt dateRetour db).livres.rows,
    ∀ i, b.emprunt = some i →
      ∃ e ∈ (edition t.id t.utilisateur t.livre dateEmprunt dateRetour db).emprunts.rows,
        e.id = i := by
  intro b' hb' i hi
  obtain ⟨b, hb, -, hpt⟩ := mem_livres_edition hb'
  rw [hpt] at hi
  have hvalid : b.emprunt = some i ∨ i = t.id := by
    split at hi
    · unfold pointeurApresEdition at hi
      split at hi
      · exact Or.inr (Option.some.inj hi).symm
      · split at hi
        · cases hi
        · exact Or.inl hi
    · exact Or.inl hi
  rcases hvalid with hold | rfl
  · obtain ⟨e, he, rfl⟩ := h.pointeurValide b hb i hold
    exact exists_id_edition he
  · exact exists_id_edition ht

/-- Counting over loans after the edit, for a property that the edit gives to no loan. -/
theorem edition_countP_le {user livre : Nat} (ht : t ∈ db.emprunts.rows) (p : Emprunt → Bool)
    (hp : p (edited t user livre dateEmprunt dateRetour) → p t) :
    (edition t.id user livre dateEmprunt dateRetour db).emprunts.rows.countP p ≤
      db.emprunts.rows.countP p := by
  refine db.emprunts.countP_updateAt_le t.id
    (fun e => edited e user livre dateEmprunt dateRetour) (fun _ => rfl) p p ?_ (fun _ _ hpe => hpe)
  intro e he hid hpe
  rw [db.emprunts.eq_of_id he ht hid] at hpe ⊢
  exact hp hpe

theorem edition (h : Inv db) (ht : t ∈ db.emprunts.rows)
    (hopen : dateRetour = none → t.dateRetour = none) :
    Inv (EmpruntCrudController.edition t.id t.utilisateur t.livre dateEmprunt dateRetour db) where
  pointeur := h.edition_pointeur ht hopen
  pointeurValide := h.edition_pointeurValide ht
  unParLivre := by
    intro livre
    refine (edition_countP_le ht _ ?_).trans (h.unParLivre livre)
    simp only [ouvertPourLivre_eq_true]
    exact fun ⟨hl, hnone⟩ => ⟨hl, hopen hnone⟩
  cinqParMembre := by
    intro user
    refine (edition_countP_le ht _ ?_).trans (h.cinqParMembre user)
    simp only [ouvertPourMembre_eq_true]
    exact fun ⟨hu, hnone⟩ => ⟨hu, hopen hnone⟩
  nonReserve := by
    intro r hr e he hlivre hnone
    rcases mem_emprunts_edition ht he with rfl | ⟨hmem, -⟩
    · exact h.nonReserve r hr t ht hlivre (hopen hnone)
    · exact h.nonReserve r hr e hmem hlivre hnone
  limites := h.limites.congr rfl

end Edition

/-- The edits the run below allows: same book, same member, and a returned loan stays returned. -/
def KeepsLoan (db : Db) (id : Nat) (form : EmpruntForm) : Prop :=
  ∀ e ∈ db.emprunts.rows, e.id = id → form.livre = some e.livre ∧
    form.utilisateur = some e.utilisateur ∧ (form.dateRetour = none → e.dateRetour = none)

theorem updateEntity (h : Inv db) {id : Nat} {form : EmpruntForm} {db' : Db}
    (hedit : KeepsLoan db id form) (heff : UpdateEffect id form db db') : Inv db' := by
  cases heff with
  | rien => exact h
  | edition t user livre dateEmprunt ht hid huser hlivre =>
      obtain ⟨hl, hu, hopen⟩ := hedit t ht hid
      obtain rfl : livre = t.livre := Option.some.inj (hlivre.symm.trans hl)
      obtain rfl : user = t.utilisateur := Option.some.inj (huser.symm.trans hu)
      subst hid
      exact h.edition ht hopen

end Inv

/-! ## Whole runs -/

/-- The operations of a run: everything, but the edits of a loan are the ones above. -/
def Op.Admissible (db : Db) : Op → Prop
  | .updateEmprunt id form => Inv.KeepsLoan db id form
  | _ => True

theorem Inv.apply (env : Env) {db : Db} (h : Inv db) (op : Op) (hadm : op.Admissible db) :
    Inv (op.apply env db) := by
  cases op with
  | persistEmprunt now form => exact h.persistEntity (persistEntity_effect now form db)
  | updateEmprunt id form => exact h.updateEntity hadm (updateEntity_effect id form db)
  | deleteEmprunt id => exact h.removeEmprunts _
  | deleteUtilisateur id => exact h.deleteUtilisateur id
  | reservationCreate now now' user data =>
      rw [Op.apply]
      refine Db.asMember_ind h fun u _ => ?_
      exact h.create (ReservationController.create_effect env now now' u data db)
  | reservationDelete user id =>
      rw [Op.apply]
      refine Db.asMember_ind h fun u _ => ?_
      have heff := ReservationController.delete_effect u id db
      generalize (ReservationController.delete u id db).2 = db' at heff ⊢
      cases heff with
      | rien => exact h
      | suppression r => exact h.deleteReservations _
  | reservationIndex now user =>
      rw [Op.apply]
      exact Db.asMember_ind h fun u _ => h.purge _
  | expire now => exact h.purge _
  | editDateResa id date => exact h.editDateResa id date

/-- The state the fixtures load: no loan, no reservation, no pointer. -/
structure NoLoanYet (db : Db) : Prop where
  emprunts : db.emprunts.rows = []
  reservations : db.reservations.rows = []
  pointeurs : ∀ b ∈ db.livres.rows, b.emprunt = none

theorem NoLoanYet.inv {db : Db} (h : NoLoanYet db) : Inv db where
  pointeur := by rw [h.emprunts]; simp
  pointeurValide := by
    intro b hb i hi
    rw [h.pointeurs b hb] at hi
    cases hi
  unParLivre := by rw [h.emprunts]; simp
  cinqParMembre := by rw [h.emprunts]; simp
  nonReserve := by rw [h.reservations]; simp
  limites := .of_empty h.reservations

theorem noLoanYet_fixtures (env : Env) : NoLoanYet (AppFixtures.load env) where
  emprunts := rfl
  reservations := rfl
  pointeurs := by
    have hnull : ∀ b ∈ AppFixtures.tableLivres.rows, b.emprunt = none := by decide
    exact hnull

/-- **The loan and reservation invariant holds in every reachable state.** -/
theorem loanInvariant_run (env : Env) (db : Db) (hstart : NoLoanYet db) (ops : List Op)
    (hops : Along (Op.apply env) Op.Admissible db ops) :
    LoanInvariant (run (Op.apply env) db ops) := by
  have hinv := always_of_along (fun db op h hadm => h.apply env op hadm) hstart.inv hops
  exact (Always.last hinv).loanInvariant

/-- A book is reserved, lent to the member who reserved it, and returned. -/
theorem loanInvariant_run_fixtures :
    let ops : List Op :=
      [.reservationCreate 0 0 2 (.obj [("livreId", .int 1)]),
        .persistEmprunt 10 ⟨some 2, some 1, none, none⟩,
        .updateEmprunt 1 ⟨some 2, some 1, some 10, some 20⟩]
    NoLoanYet (AppFixtures.load .plain) ∧
    Along (Op.apply .plain) Op.Admissible (AppFixtures.load .plain) ops ∧
    LoanInvariant (run (Op.apply .plain) (AppFixtures.load .plain) ops) := by
  have hops : Along (Op.apply .plain) Op.Admissible (AppFixtures.load .plain)
      [.reservationCreate 0 0 2 (.obj [("livreId", .int 1)]),
        .persistEmprunt 10 ⟨some 2, some 1, none, none⟩,
        .updateEmprunt 1 ⟨some 2, some 1, some 10, some 20⟩] := by
    refine ⟨trivial, trivial, ?_, trivial⟩
    show Inv.KeepsLoan _ _ _
    unfold Inv.KeepsLoan
    decide
  exact ⟨noLoanYet_fixtures .plain, hops,
    loanInvariant_run .plain (AppFixtures.load .plain) (noLoanYet_fixtures .plain) _ hops⟩

end Bibliotheque
