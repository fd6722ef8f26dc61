import Bibliotheque.Concurrence.Machine
import Bibliotheque.Invariant.Emprunts

/-! # Concurrent loans and reservations

The back office checks the reservations before it lends, the API checks the pointer of the book
before it reserves, and neither holds anything in between. `pret_race` shows the three ways in which
this goes wrong: a book lent twice, a member with six open loans, a book lent to one member and
reserved by another.

`lendingSafe_step` says which writes do harm. Requests that do not overlap never make one: as long
as no request writes while another one for the same book or of the same member is in progress, each
of them still knows, at its write, what it read before. -/

namespace Bibliotheque

open Lib ReservationsRepository EmpruntCrudController

/-- What concurrent lending must not break. -/
structure LendingSafe (m : Monde) : Prop where
  unParLivre : ∀ livre : Nat, m.db.emprunts.rows.countP (ouvertPourLivre livre) ≤ 1
  cinqParMembre : ∀ user : Nat, m.db.emprunts.rows.countP (ouvertPourMembre user) ≤ 5
  /-- Who has an active reservation on a lent book is the borrower. -/
  nonReserve : ∀ e ∈ m.db.emprunts.rows, e.dateRetour = none →
    ∀ r ∈ m.db.reservations.rows, r.livre = e.livre → actif (cutoff m.now) r = true →
      r.utilisateur = e.utilisateur

/-- No loan of the book is open. -/
def Libre (livre : Nat) (db : Db) : Prop :=
  ∀ e ∈ db.emprunts.rows, e.livre = livre → e.dateRetour ≠ none

/-- The `INSERT` of an active reservation does no harm: the open loans of the book are the member's
own. -/
def InsertSafe (user livre : Nat) (m : Monde) : Prop :=
  ∀ e ∈ m.db.emprunts.rows, e.livre = livre → e.dateRetour = none → e.utilisateur = user

/-- The flush of an open loan does no harm: the book is free, the member has fewer than five loans,
and the active reservations of the book, less the one it removes, are the member's own. -/
structure FlushSafe (user livre : Nat) (removed : Option Nat) (m : Monde) : Prop where
  libre : Libre livre m.db
  limite : countEmpruntsActifs user m.db < 5
  reserve : ∀ r ∈ m.db.reservations.rows, r.livre = livre → actif (cutoff m.now) r = true →
    some r.id ≠ removed → r.utilisateur = user

variable {ι : Type} [DecidableEq ι]

/-- If the step is a write, it does no harm in the state it finds. -/
def WriteSafe (c : Etat ι) : Event ι Nat → Prop
  | .turn i =>
      match c.procs i with
      | .resa user _ (.insert l _ d) =>
          cutoff c.shared.now ≤ d → InsertSafe user l.id c.shared
      | .pret form user livre (.flush removed _) =>
          form.dateRetour = none → FlushSafe user livre removed c.shared
      | _ => True
  | .env _ => True

/-- The request has read something and has not answered yet. -/
def Proc.EnCours : Proc → Prop
  | .resa _ _ .load => False
  | .resa _ _ (.fini _) => False
  | .pret _ _ _ .reservation => False
  | .pret _ _ _ (.fini _) => False
  | _ => True

/-- If the step is a write, no other request for the same book or of the same member is in
progress. -/
def WritesApart (c : Etat ι) : Event ι Nat → Prop
  | .turn i => (c.procs i).Ecrit → ∀ j, j ≠ i → (c.procs j).EnCours →
      (c.procs j).livre ≠ (c.procs i).livre ∧ (c.procs j).membre ≠ (c.procs i).membre
  | .env _ => True

/-! ## One step -/

namespace LendingSafe

variable {m : Monde}

/-- The loans stay, reservations only go, the clock does not go back. -/
theorem sublist {m' : Monde} (h : LendingSafe m) (hemp : m'.db.emprunts = m.db.emprunts)
    (hrows : m'.db.reservations.rows.Sublist m.db.reservations.rows) (hnow : m.now ≤ m'.now) :
    LendingSafe m' where
  unParLivre := by rw [hemp]; exact h.unParLivre
  cinqParMembre := by rw [hemp]; exact h.cinqParMembre
  nonReserve := by
    intro e he hopen r hr hl hact
    rw [hemp] at he
    exact h.nonReserve e he hopen r (hrows.subset hr) hl (actif_anti (cutoff_mono hnow) hact)

theorem inserer_iff (h : LendingSafe m) (d : Int) (user livre : Nat) :
    LendingSafe { m with db := ReservationController.inserer d user livre m.db } ↔
      (cutoff m.now ≤ d → InsertSafe user livre m) := by
  constructor
  · intro h' hd e he hl hopen
    -- the new row itself is active
    have hactif : actif (cutoff m.now)
        { ReservationController.nouvelle d user livre with id := m.db.reservations.next } = true :=
      decide_eq_true hd
    exact (h'.nonReserve e he hopen _ (List.mem_append_right _ (List.mem_singleton.mpr rfl))
      hl.symm hactif).symm
  · intro hsafe
    refine ⟨h.unParLivre, h.cinqParMembre, ?_⟩
    intro e he hopen r hr hl hact
    rcases List.mem_append.mp hr with hold | hnew
    · exact h.nonReserve e he hopen r hold hl hact
    · rw [List.mem_singleton.mp hnew] at hl hact ⊢
      exact (hsafe (of_decide_eq_true hact) e he hl.symm hopen).symm

section Flush

variable {form : EmpruntForm} {user livre : Nat} {removed : Option Nat} {d : Int}

/-- A loan entered as already returned changes nothing here. -/
theorem flush_rendu (h : LendingSafe m) (hrendu : form.dateRetour ≠ none) :
    LendingSafe { m with db := (accepted d form removed user livre).flush m.db } where
  unParLivre := by
    intro livre'
    refine (m.db.emprunts.countP_insert _ _).trans_le ?_
    rw [if_neg, Nat.add_zero]
    · exact h.unParLivre livre'
    · intro hnew
      exact hrendu (ouvertPourLivre_eq_true.mp hnew).2
  cinqParMembre := by
    intro user'
    refine (m.db.emprunts.countP_insert _ _).trans_le ?_
    rw [if_neg, Nat.add_zero]
    · exact h.cinqParMembre user'
    · intro hnew
      exact hrendu (ouvertPourMembre_eq_true.mp hnew).2
  nonReserve := by
    intro e he hopen r hr
    rcases mem_emprunts_flush he with hold | rfl
    · exact h.nonReserve e hold hopen r (List.mem_filter.mp hr).1
    · exact absurd hopen hrendu

/-- The loans after the flush of an open loan, counted by a property. -/
theorem countP_flush (p : Emprunt → Bool) :
    ((accepted d form removed user livre).flush m.db).emprunts.rows.countP p =
      m.db.emprunts.rows.countP p +
        if p { nouvelEmprunt d form user livre with id := m.db.emprunts.next } = true then 1 else 0 :=
  m.db.emprunts.countP_insert _ _

/-- An open loan counts for its book … -/
theorem countP_flush_livre (hopen : form.dateRetour = none) (livre' : Nat) :
    ((accepted d form removed user livre).flush m.db).emprunts.rows.countP
        (ouvertPourLivre livre') =
      m.db.emprunts.rows.countP (ouvertPourLivre livre') + if livre = livre' then 1 else 0 := by
  rw [countP_flush]
  congr 1
  apply if_congr _ rfl rfl
  rw [ouvertPourLivre_eq_true]
  exact ⟨fun h => h.1, fun h => ⟨h, hopen⟩⟩

/-- … and for its member. -/
theorem countP_flush_membre (hopen : form.dateRetour = none) (user' : Nat) :
    ((accepted d form removed user livre).flush m.db).emprunts.rows.countP
        (ouvertPourMembre user') =
      m.db.emprunts.rows.countP (ouvertPourMembre user') + if user = user' then 1 else 0 := by
  rw [countP_flush]
  congr 1
  apply if_congr _ rfl rfl
  rw [ouvertPourMembre_eq_true]
  exact ⟨fun h => h.1, fun h => ⟨h, hopen⟩⟩

/-- The new loan counts, so before it there was room. -/
theorem flushSafe_of_flush (hopen : form.dateRetour = none)
    (h' : LendingSafe { m with db := (accepted d form removed user livre).flush m.db }) :
    FlushSafe user livre removed m := by
  have hl := h'.unParLivre livre
  have hu := h'.cinqParMembre user
  simp only at hl hu
  rw [countP_flush_livre hopen, if_pos rfl] at hl
  rw [countP_flush_membre hopen, if_pos rfl] at hu
  refine ⟨?_, ?_, ?_⟩
  · intro e he hlivre hnone
    have hzero : m.db.emprunts.rows.countP (ouvertPourLivre livre) = 0 := by omega
    exact List.countP_eq_zero.mp hzero e he (ouvertPourLivre_eq_true.mpr ⟨hlivre, hnone⟩)
  · exact Nat.lt_of_succ_le hu
  · intro r hr hlivre hact hne
    refine h'.nonReserve { nouvelEmprunt d form user livre with id := m.db.emprunts.next }
      (List.mem_append_right _ (List.mem_singleton.mpr rfl)) hopen r ?_ hlivre hact
    exact List.mem_filter.mpr ⟨hr, by simpa [accepted] using hne⟩

theorem flush_of_flushSafe (h : LendingSafe m) (hopen : form.dateRetour = none)
    (hsafe : FlushSafe user livre removed m) :
    LendingSafe { m with db := (accepted d form removed user livre).flush m.db } := by
  refine ⟨?_, ?_, ?_⟩
  · intro livre'
    show ((accepted d form removed user livre).flush m.db).emprunts.rows.countP _ ≤ 1
    rw [countP_flush_livre hopen]
    have hle := h.unParLivre livre'
    split
    · next heq =>
      have hzero : m.db.emprunts.rows.countP (ouvertPourLivre livre') = 0 := by
        rw [List.countP_eq_zero]
        intro e he hpe
        obtain ⟨hlivre, hnone⟩ := ouvertPourLivre_eq_true.mp hpe
        exact hsafe.libre e he (hlivre.trans heq.symm) hnone
      omega
    · omega
  · intro user'
    show ((accepted d form removed user livre).flush m.db).emprunts.rows.countP _ ≤ 5
    rw [countP_flush_membre hopen]
    have hle := h.cinqParMembre user'
    split
    · next heq =>
      subst heq
      exact hsafe.limite
    · omega
  · intro e he hnone r hr hlivre hact
    obtain ⟨hmem, hkept⟩ := List.mem_filter.mp hr
    rcases mem_emprunts_flush he with hold | rfl
    · exact h.nonReserve e hold hnone r hmem hlivre hact
    · exact hsafe.reserve r hmem hlivre hact (by simpa [accepted] using hkept)

theorem flush_iff (h : LendingSafe m) (hopen : form.dateRetour = none) :
    LendingSafe { m with db := (accepted d form removed user livre).flush m.db } ↔
      FlushSafe user livre removed m :=
  ⟨flushSafe_of_flush hopen, h.flush_of_flushSafe hopen⟩

end Flush

end LendingSafe

/-- **Which steps do harm.** -/
theorem lendingSafe_step (c : Etat ι) (e : Event ι Nat) (h : LendingSafe c.shared) :
    LendingSafe (c.step e).shared ↔ WriteSafe c e := by
  cases e with
  | env δ =>
      refine iff_of_true (h.sublist rfl (List.Sublist.refl _) ?_) trivial
      show c.shared.now ≤ c.shared.now + δ
      omega
  | turn i =>
      have heff := Proc.exec_effet c.shared (c.procs i)
      show LendingSafe ((c.procs i).exec c.shared).1 ↔ WriteSafe c (.turn i)
      generalize ((c.procs i).exec c.shared).1 = m' at heff
      simp only [WriteSafe]
      generalize c.procs i = p at heff
      cases heff with
      | lecture hp hread =>
          refine iff_of_true h ?_
          split
          · exact absurd trivial hread
          · exact absurd trivial hread
          · trivial
      | purge user livre l cut =>
          refine iff_of_true (h.sublist rfl ?_ (le_refl _)) trivial
          rw [purgeExpired_rows]
          exact List.filter_sublist
      | insertion user livre l cut d => exact h.inserer_iff d user l.id
      | flush form user livre removed d =>
          show _ ↔ (form.dateRetour = none → FlushSafe user livre removed c.shared)
          by_cases hopen : form.dateRetour = none
          · rw [h.flush_iff hopen]
            exact ⟨fun hs _ => hs, fun hs => hs hopen⟩
          · exact iff_of_true (h.flush_rendu hopen) (fun hnone => absurd hnone hopen)

/-! ## What a request knows between its statements -/

/-- The book a reservation request has loaded: the requested one, and free if it was loaded with a
null pointer. -/
def LoadedBook (livre : Nat) (l : Livre) (db : Db) : Prop :=
  l.id = livre ∧ (l.emprunt = none → Libre livre db)

/-- No reservation of the book or of the member is older than the cutoff `c`. -/
def Purged (user livre : Nat) (c : Int) (db : Db) : Prop :=
  ∀ r ∈ db.reservations.rows, r.livre = livre ∨ r.utilisateur = user → actif c r = true

/-- The reservations of a member, expired ones included. -/
def nbReservations (user : Nat) (db : Db) : Nat :=
  db.reservations.rows.countP (fun r => decide (r.utilisateur = user))

/-- The only reservation of the book is `removed`. -/
def OnlyReservation (livre : Nat) (removed : Option Nat) (db : Db) : Prop :=
  ∀ r ∈ db.reservations.rows, r.livre = livre → some r.id = removed

/-- The local assertion of a request: what it has read is still so. -/
def StillSo (m : Monde) : Proc → Prop
  | .resa _ livre (.purge l _) => LoadedBook livre l m.db
  | .resa user livre (.count l c) => LoadedBook livre l m.db ∧ Purged user livre c m.db
  | .resa user livre (.select l c) =>
      LoadedBook livre l m.db ∧ Purged user livre c m.db ∧ nbReservations user m.db < 3 ∧
        Libre livre m.db
  | .resa user livre (.insert l _ _) =>
      l.id = livre ∧ nbReservations user m.db < 3 ∧ Libre livre m.db ∧
        ∀ r ∈ m.db.reservations.rows, r.livre ≠ livre
  | .pret _ _ livre (.emprunts removed) => OnlyReservation livre removed m.db
  | .pret _ user livre (.enCours removed _) =>
      OnlyReservation livre removed m.db ∧ countEmpruntsActifs user m.db < 5
  | .pret _ user livre (.flush removed _) =>
      OnlyReservation livre removed m.db ∧ countEmpruntsActifs user m.db < 5 ∧ Libre livre m.db
  | _ => True

/-- Nothing has changed that concerns the member `user` and the book `livre`, except that
reservations may be gone. -/
structure Undisturbed (user livre : Nat) (db db' : Db) : Prop where
  libre : Libre livre db → Libre livre db'
  prets : countEmpruntsActifs user db' ≤ countEmpruntsActifs user db
  reservations : nbReservations user db' ≤ nbReservations user db
  sesLignes : ∀ r ∈ db'.reservations.rows, r.livre = livre ∨ r.utilisateur = user →
    r ∈ db.reservations.rows

/-- A request goes on knowing what it knows in a world that is undisturbed for it. -/
theorem StillSo.undisturbed {m m' : Monde} {p : Proc} (h : StillSo m p)
    (hu : p.EnCours → Undisturbed p.membre p.livre m.db m'.db) : StillSo m' p := by
  cases p with
  | resa user livre pc =>
      cases pc with
      | load => exact h
      | purge l c => exact ⟨h.1, fun hnull => (hu trivial).libre (h.2 hnull)⟩
      | count l c =>
          obtain ⟨⟨hid, hlibre⟩, hpurged⟩ := h
          have hu := hu trivial
          exact ⟨⟨hid, fun hnull => hu.libre (hlibre hnull)⟩,
            fun r hr hown => hpurged r (hu.sesLignes r hr hown) hown⟩
      | select l c =>
          obtain ⟨⟨hid, hload⟩, hpurged, hcount, hlibre⟩ := h
          have hu := hu trivial
          exact ⟨⟨hid, fun _ => hu.libre hlibre⟩,
            fun r hr hown => hpurged r (hu.sesLignes r hr hown) hown,
            hu.reservations.trans_lt hcount, hu.libre hlibre⟩
      | insert l c d =>
          obtain ⟨hid, hcount, hlibre, hnone⟩ := h
          have hu := hu trivial
          exact ⟨hid, hu.reservations.trans_lt hcount, hu.libre hlibre,
            fun r hr hl => hnone r (hu.sesLignes r hr (Or.inl hl)) hl⟩
      | fini r => exact h
  | pret form user livre pc =>
      have honly : ∀ {removed}, Undisturbed user livre m.db m'.db →
          OnlyReservation livre removed m.db → OnlyReservation livre removed m'.db :=
        fun hu hres r hr hl => hres r (hu.sesLignes r hr (Or.inl hl)) hl
      cases pc with
      | reservation => exact h
      | emprunts removed => exact honly (hu trivial) h
      | enCours removed d =>
          exact ⟨honly (hu trivial) h.1, (hu trivial).prets.trans_lt h.2⟩
      | flush removed d =>
          exact ⟨honly (hu trivial) h.1, (hu trivial).prets.trans_lt h.2.1,
            (hu trivial).libre h.2.2⟩
      | fini r => exact h

namespace Undisturbed

variable {user livre : Nat} {db db' : Db}

/-- Deleting reservations disturbs nobody. -/
theorem of_sublist (hemp : db'.emprunts = db.emprunts)
    (hrows : db'.reservations.rows.Sublist db.reservations.rows) :
    Undisturbed user livre db db' where
  libre := by unfold Libre; rw [hemp]; exact id
  prets := by unfold countEmpruntsActifs; rw [hemp]
  reservations := hrows.countP_le
  sesLignes := fun r hr _ => hrows.subset hr

/-- The reservation of another member on another book. -/
theorem inserer {d : Int} {user' livre' : Nat} (hmembre : user ≠ user') (hlivre : livre ≠ livre') :
    Undisturbed user livre db (ReservationController.inserer d user' livre' db) where
  libre := id
  prets := le_refl _
  reservations := by
    refine (db.reservations.countP_insert _ _).trans_le ?_
    rw [if_neg, Nat.add_zero]
    · rfl
    · intro hnew
      exact hmembre (of_decide_eq_true hnew).symm
  sesLignes := by
    intro r hr hown
    rcases List.mem_append.mp hr with hold | hnew
    · exact hold
    · rw [List.mem_singleton.mp hnew] at hown
      rcases hown with hl | hu
      · exact absurd hl.symm hlivre
      · exact absurd hu.symm hmembre

/-- A loan of another book to another member. -/
theorem flush {form : EmpruntForm} {user' livre' : Nat} {removed : Option Nat} {d : Int}
    (hmembre : user ≠ user') (hlivre : livre ≠ livre') :
    Undisturbed user livre db ((accepted d form removed user' livre').flush db) where
  libre := by
    intro hlibre e he hl
    rcases mem_emprunts_flush he with hold | rfl
    · exact hlibre e hold hl
    · exact absurd hl.symm hlivre
  prets := by
    refine (db.emprunts.countP_insert _ _).trans_le ?_
    rw [if_neg, Nat.add_zero]
    · rfl
    · intro hnew
      rw [Bool.and_eq_true] at hnew
      exact hmembre (of_decide_eq_true hnew.1).symm
  reservations := List.filter_sublist.countP_le
  sesLignes := fun r hr _ => (List.mem_filter.mp hr).1

end Undisturbed

/-! ## The request that moves -/

/-- What a request knows at its write keeps the invariant. -/
theorem inv_own {m : Monde} {p : Proc} (hinv : Inv m.db) (h : StillSo m p) :
    Inv (p.exec m).1.db := by
  have heff := Proc.exec_effet m p
  generalize (p.exec m).1 = m' at heff
  cases heff with
  | lecture hp hread => exact hinv
  | purge user livre l cut => exact hinv.purge _
  | insertion user livre l cut d =>
      obtain ⟨hid, hcount, hlibre, hnone⟩ := h
      rw [← hid] at hlibre hnone
      exact hinv.inserer hlibre hnone hcount
  | flush form user livre removed d => exact hinv.flush d form h.2.2 h.2.1 h.1

/-- A reservation request knows what it has just read. -/
theorem stillSo_own_resa {m : Monde} (hinv : Inv m.db) {user livre : Nat} {pc : ResaPc}
    (h : StillSo m (.resa user livre pc)) :
    StillSo ((Proc.resa user livre pc).exec m).1 ((Proc.resa user livre pc).exec m).2 := by
  cases pc with
  | load =>
      simp only [Proc.exec, ResaPc.exec]
      split
      · trivial
      · next l hfind =>
        obtain ⟨hmem, hid⟩ := m.db.livres.find?_eq_some.mp hfind
        refine ⟨hid, ?_⟩
        -- a null pointer means free only because the invariant holds at the load
        intro hnull e he hl
        exact hinv.not_lent hmem hnull he (hl.trans hid.symm)
  | purge l c =>
      refine ⟨h, ?_⟩
      intro r hr _
      exact actif_of_mem_purgeExpired hr
  | count l c =>
      simp only [Proc.exec, ResaPc.exec]
      split
      · trivial
      · next hcount =>
        split
        · trivial
        · next hpt =>
          refine ⟨h.1, h.2, ?_, h.1.2 (by simpa using hpt)⟩
          -- every row of the member is active, so the query has counted them all
          have hall : nbReservations user m.db = countActiveForUser user c m.db := by
            unfold nbReservations countActiveForUser
            refine List.countP_congr fun r hr => ?_
            by_cases hown : r.utilisateur = user
            · simp [hown, h.2 r hr (Or.inr hown)]
            · simp [hown]
          show nbReservations user m.db < 3
          rw [hall]
          exact Nat.lt_of_not_le hcount
  | select l c =>
      simp only [Proc.exec, ResaPc.exec]
      split
      · trivial
      · next hactive =>
        obtain ⟨⟨hid, -⟩, hpurged, hcount, hlibre⟩ := h
        refine ⟨hid, hcount, hlibre, ?_⟩
        intro r hr hl
        have hnone := findActiveByLivre_eq_none.mp (by simpa using hactive) r hr (hl.trans hid.symm)
        rw [hpurged r hr (Or.inl hl)] at hnone
        cases hnone
  | insert l c d => trivial
  | fini r => trivial

/-- A loan creation knows what it has just read. -/
theorem stillSo_own_pret {m : Monde} (hinv : Inv m.db) {form : EmpruntForm} {user livre : Nat}
    {pc : PretPc} (h : StillSo m (.pret form user livre pc)) :
    StillSo ((Proc.pret form user livre pc).exec m).1
      ((Proc.pret form user livre pc).exec m).2 := by
  cases pc with
  | reservation =>
      simp only [Proc.exec, PretPc.exec]
      split
      · trivial
      · intro r hr hl
        -- the invariant makes the reservation it found the only one
        cases hfind : findReservation (some livre) m.db with
        | none => exact absurd hl (findReservation_eq_none.mp hfind r hr)
        | some r₀ =>
            obtain ⟨hr₀, hl₀⟩ := findReservation_eq_some hfind
            rw [hinv.reservation_unique hr hr₀ (hl.trans hl₀.symm), Option.map_some]
  | emprunts removed =>
      simp only [Proc.exec, PretPc.exec]
      split
      · trivial
      · next hcount => exact ⟨h, Nat.lt_of_not_le hcount⟩
  | enCours removed d =>
      simp only [Proc.exec, PretPc.exec]
      split
      · trivial
      · next hcours => exact ⟨h.1, h.2, findEmpruntEnCours_eq_none.mp hcours⟩
  | flush removed d => trivial
  | fini r => trivial

theorem stillSo_own {m : Monde} (hinv : Inv m.db) {p : Proc} (h : StillSo m p) :
    StillSo (p.exec m).1 (p.exec m).2 := by
  cases p with
  | resa user livre pc => exact stillSo_own_resa hinv h
  | pret form user livre pc => exact stillSo_own_pret hinv h

omit [DecidableEq ι] in
/-- The others are undisturbed by a step that overlaps with none of them. -/
theorem undisturbed_other {c : Etat ι} {i j : ι} (hj : j ≠ i) (hsome : StillSo c.shared (c.procs i))
    (hap : WritesApart c (.turn i)) (hcours : (c.procs j).EnCours) :
    Undisturbed (c.procs j).membre (c.procs j).livre c.shared.db
      ((c.procs i).exec c.shared).1.db := by
  have hap : (c.procs i).Ecrit → (c.procs j).livre ≠ (c.procs i).livre ∧
      (c.procs j).membre ≠ (c.procs i).membre := fun hw => hap hw j hj hcours
  have heff := Proc.exec_effet c.shared (c.procs i)
  generalize ((c.procs i).exec c.shared).1 = m' at heff
  generalize c.procs i = p at heff hap hsome
  cases heff with
  | lecture hp hread => exact .of_sublist rfl (List.Sublist.refl _)
  | purge user livre l cut =>
      refine .of_sublist rfl ?_
      rw [purgeExpired_rows]
      exact List.filter_sublist
  | insertion user livre l cut d =>
      obtain ⟨hlivre, hmembre⟩ := hap trivial
      refine .inserer hmembre ?_
      rw [hsome.1]
      exact hlivre
  | flush form user livre removed d =>
      obtain ⟨hlivre, hmembre⟩ := hap trivial
      exact .flush hmembre hlivre

abbrev Sound (c : Etat ι) : Prop := Conf.Holds (fun m : Monde => Inv m.db) StillSo c

theorem sound_step {c : Etat ι} (h : Sound c) (e : Event ι Nat) (hap : WritesApart c e) :
    Sound (c.step e) := by
  refine Conf.Holds.step (P := WritesApart) ?_ ?_ ?_ h e hap
  · intro c i h _
    exact ⟨inv_own h.shared (h.procs i), stillSo_own h.shared (h.procs i)⟩
  · intro c i j hj h hap
    exact (h.procs j).undisturbed (undisturbed_other hj (h.procs i) hap)
  · intro c δ h
    refine ⟨h.shared, fun j => (h.procs j).undisturbed fun _ => ?_⟩
    exact .of_sublist rfl (List.Sublist.refl _)

omit [DecidableEq ι] in
/-- What a request knows at its write is more than the write needs. -/
theorem writeSafe_of_sound {c : Etat ι} (h : Sound c) (e : Event ι Nat) : WriteSafe c e := by
  cases e with
  | env δ => trivial
  | turn i =>
      have hik := h.procs i
      simp only [WriteSafe]
      split
      · next user livre l cut d hp =>
        rw [hp] at hik
        obtain ⟨hid, -, hlibre, -⟩ := hik
        intro _ e he hl hopen
        exact absurd hopen (hlibre e he (hl.trans hid))
      · next form user livre removed d hp =>
        rw [hp] at hik
        obtain ⟨honly, hcount, hlibre⟩ := hik
        intro _
        refine ⟨hlibre, hcount, ?_⟩
        intro r hr hl _ hne
        exact absurd (honly r hr hl) hne
      · trivial

/-! ## Whole runs -/

theorem LoanInvariant.lendingSafe {m : Monde} (h : LoanInvariant m.db) : LendingSafe m where
  unParLivre := h.unParLivre
  cinqParMembre := h.cinqParMembre
  nonReserve := fun e he hopen r hr hl _ => absurd hopen (h.nonReserve r hr e he hl.symm)

theorem stillSo_neuf {m : Monde} {p : Proc} (h : p.Neuf) : StillSo m p := by
  cases p with
  | resa user livre pc =>
      obtain rfl : pc = .load := h
      trivial
  | pret form user livre pc =>
      obtain rfl : pc = .reservation := h
      trivial

/-- **When concurrent loans and reservations are safe.** From a state that satisfies the loan
invariant, for any number of requests of both kinds and any schedule: lending is safe in every state
exactly when no write does harm in the state it finds. If the reservation table keeps its limits too,
it is enough that no request writes while another one for the same book or of the same member is in
progress. -/
theorem lendingSafe_interleaved (c : Etat ι) (hneuf : ∀ i, (c.procs i).Neuf)
    (hinv : LoanInvariant c.shared.db) (es : List (Event ι Nat)) :
    (Always Etat.step (fun c => LendingSafe c.shared) c es ↔ Along Etat.step WriteSafe c es) ∧
    (ReservationLimits c.shared.db → Along Etat.step WritesApart c es →
      Always Etat.step (fun c => LendingSafe c.shared) c es) := by
  have hexact : Always Etat.step (fun c : Etat ι => LendingSafe c.shared) c es ↔
      Along Etat.step WriteSafe c es :=
    always_iff_along (J := fun _ => True) (fun _ _ _ _ _ => trivial)
      (fun c e _ h => lendingSafe_step c e h) trivial hinv.lendingSafe
  refine ⟨hexact, fun hlimites hap => hexact.mpr ?_⟩
  have hstart : Sound c := ⟨.of_loanInvariant hinv hlimites, fun i => stillSo_neuf (hneuf i)⟩
  exact along_of_along (fun c e h hap => sound_step h e hap)
    (fun c e h _ => writeSafe_of_sound h e) hstart hap

/-- A loan creation that has not started. -/
def nouveauPret (user livre : Nat) : Proc :=
  .pret ⟨some user, some livre, none, none⟩ user livre .reservation

/-- Requests against the fixtures. -/
def auDepart {n : Nat} (procs : Fin n → Proc) : Etat (Fin n) where
  shared := ⟨AppFixtures.load .plain, 0⟩
  procs := procs

/-- Every loan gets past its queries before the first flush. -/
def pretsEntrelaces (n : Nat) : List (Event (Fin n) Nat) :=
  (List.finRange n).flatMap (fun i => List.replicate 3 (.turn i)) ++ (List.finRange n).map .turn

theorem inv_auDepart {n : Nat} (procs : Fin n → Proc) : Inv (auDepart procs).shared.db :=
  (noLoanYet_fixtures .plain).inv

/-- A loan and then a reservation of the same book: the reservation is refused. -/
theorem lendingSafe_enSerie :
    let c := auDepart fun i : Fin 2 => if i = 0 then nouveauPret 2 1 else .resa 3 1 .load
    let es := List.replicate 4 (.turn 0) ++ List.replicate 4 (.turn 1)
    Along Etat.step WritesApart c es ∧
    Always Etat.step (fun c => LendingSafe c.shared) c es := by
  intro c es
  have hap : Along Etat.step WritesApart c es := by
    refine ⟨False.elim, False.elim, False.elim, ?_, False.elim, False.elim, False.elim, False.elim,
      trivial⟩
    rintro - ⟨_ | _ | j, hj⟩ hne hcours
    · exact absurd rfl hne
    · exact hcours.elim
    · omega
  have hneuf : ∀ i, (c.procs i).Neuf := by
    rintro ⟨_ | _ | i, hi⟩
    · rfl
    · rfl
    · omega
  have hinv : Inv c.shared.db := inv_auDepart _
  exact ⟨hap, (lendingSafe_interleaved c hneuf hinv.loanInvariant es).2 hinv.limites hap⟩

/-- A book lent twice; a member with six loans; a book lent to one member and then reserved by
another, whose request had loaded it before. -/
theorem pret_race :
    (let c₀ := auDepart fun i : Fin 2 => nouveauPret (2 + i) 1
     let c := run Etat.step c₀ (pretsEntrelaces 2)
     LoanInvariant c₀.shared.db ∧ (∀ i, (c.procs i).Fini) ∧ ¬ LendingSafe c.shared) ∧
    (let c₀ := auDepart fun i : Fin 6 => nouveauPret 2 (1 + i)
     let c := run Etat.step c₀ (pretsEntrelaces 6)
     LoanInvariant c₀.shared.db ∧ (∀ i, (c.procs i).Fini) ∧ ¬ LendingSafe c.shared) ∧
    (let c₀ := auDepart fun i : Fin 2 => if i = 0 then nouveauPret 2 1 else .resa 3 1 .load
     let c := run Etat.step c₀
       (List.replicate 4 (.turn 1) ++ List.replicate 4 (.turn 0) ++ [.turn 1])
     LoanInvariant c₀.shared.db ∧ (∀ i, (c.procs i).Fini) ∧ ¬ LendingSafe c.shared) := by
  refine ⟨⟨(inv_auDepart _).loanInvariant, ?_, ?_⟩, ⟨(inv_auDepart _).loanInvariant, ?_, ?_⟩,
    (inv_auDepart _).loanInvariant, ?_, ?_⟩
  · rintro ⟨_ | _ | i, hi⟩
    · exact ⟨_, rfl⟩
    · exact ⟨_, rfl⟩
    · omega
  · intro h
    exact absurd (h.unParLivre 1) (by decide)
  · rintro ⟨_ | _ | _ | _ | _ | _ | i, hi⟩
    · exact ⟨_, rfl⟩
    · exact ⟨_, rfl⟩
    · exact ⟨_, rfl⟩
    · exact ⟨_, rfl⟩
    · exact ⟨_, rfl⟩
    · exact ⟨_, rfl⟩
    · omega
  · intro h
    exact absurd (h.cinqParMembre 2) (by decide)
  · rintro ⟨_ | _ | i, hi⟩
    · exact ⟨_, rfl⟩
    · exact ⟨_, rfl⟩
    · omega
  · intro h
    exact absurd (h.nonReserve ⟨1, 0, none, 2, 1⟩ (by decide) rfl ⟨1, 0, 3, 1⟩ (by decide) rfl
      (by decide)) (by decide)

end Bibliotheque
