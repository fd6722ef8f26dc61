import Bibliotheque.Client.ApiService
import Bibliotheque.Fixtures

/-! # The page of the member's reservations

`MesReservations` asks for the list once, when it opens, and takes a reservation off it when the server
has confirmed that it is cancelled. There is no second reading to put a mistake right, so the list must
be kept right by the callbacks alone, whatever the order in which cancellations are taken up, answered
or lost. Meanwhile the purges of other members' requests take away what has expired.

The list is right: a button can only be clicked once it is there, so no cancellation can overtake it
(`Etape`). What is shown then always contains all that the server has, and what it contains beyond
that are reservations whose cancellation is on its way or was lost on the way back, or that have
expired (`liste_fidele`). -/

namespace Bibliotheque.Client

open Lib ReservationsRepository

structure MesReservations where
  reservations : List ReservationVue
  loading : Bool
  erreur : String
  annulationEnCours : Option Nat
  messageAnnulation : String
  deriving DecidableEq, Repr

namespace MesReservations

def initial : MesReservations := ⟨[], true, "", none, ""⟩

/-- The requests of the page; the callbacks of `annuler` use its argument. -/
inductive Demande where
  | getMesReservations
  | annulerReservation (reservationId : Nat)
  deriving DecidableEq, Repr

def Demande.api : Demande → ApiRequest
  | getMesReservations => .reservationIndex
  | annulerReservation reservationId => .reservationDelete reservationId

def serveur (env : Env) (t : Instant) (q : Demande) (db : Db) : Response × Db :=
  handle env t.now t.now' t.user q.api db

inductive Appel where
  | ngOnInit
  | annuler (reservationId : Nat)
  deriving DecidableEq, Repr

def call (s : MesReservations) : Appel → MesReservations × List Demande
  -- `chargerReservations`
  | .ngOnInit => ({ s with loading := true }, [.getMesReservations])
  | .annuler reservationId =>
      ({ s with annulationEnCours := some reservationId, messageAnnulation := "" },
        [.annulerReservation reservationId])

/-- The callbacks of `chargerReservations`. -/
def onReservations (s : MesReservations) (r : Option Response) : MesReservations :=
  match r.bind (·.reservations?) with
  | some data => { s with reservations := data, loading := false }
  | none => { s with erreur := "Impossible de charger vos réservations.", loading := false }

/-- The callbacks of `annuler`. -/
def onAnnulation (s : MesReservations) (reservationId : Nat) (r : Option Response) :
    MesReservations :=
  if r.any (·.ok) then
    { s with
      reservations := s.reservations.filter fun v => v.id != reservationId
      annulationEnCours := none
      messageAnnulation := "Réservation annulée avec succès." }
  else
    { s with annulationEnCours := none, messageAnnulation := "Erreur lors de l'annulation." }

section Annulation

variable (s : MesReservations) (j : Nat) (r : Option Response)

@[simp] theorem loading_onAnnulation : (s.onAnnulation j r).loading = s.loading := by
  unfold onAnnulation
  split <;> rfl

@[simp] theorem erreur_onAnnulation : (s.onAnnulation j r).erreur = s.erreur := by
  unfold onAnnulation
  split <;> rfl

@[simp] theorem annulationEnCours_onAnnulation :
    (s.onAnnulation j r).annulationEnCours = none := by
  unfold onAnnulation
  split <;> rfl

theorem reservations_onAnnulation : (s.onAnnulation j r).reservations =
    if r.any (·.ok) then s.reservations.filter fun v => v.id != j else s.reservations := by
  unfold onAnnulation
  split <;> rfl

theorem reservations_onAnnulation_sublist :
    (s.onAnnulation j r).reservations.Sublist s.reservations := by
  rw [reservations_onAnnulation]
  split
  · exact List.filter_sublist
  · exact List.Sublist.refl _

end Annulation

def answer (s : MesReservations) (q : Demande) (r : Option Response) :
    MesReservations × List Demande :=
  match q with
  | .getMesReservations => (s.onReservations r, [])
  | .annulerReservation reservationId => (s.onAnnulation reservationId r, [])

def component : Page MesReservations Appel Demande Response := ⟨call, answer⟩

/-- The template shows the table. -/
def tableAffichee (s : MesReservations) : Bool := !s.loading && decide (s.erreur = "")

/-- The identifiers of the rows of the table. -/
def ids (s : MesReservations) : List Nat := s.reservations.map (·.id)

/-- The button of the row can be clicked. -/
def annulable (s : MesReservations) (reservationId : Nat) : Bool :=
  s.tableAffichee && decide (reservationId ∈ s.ids) &&
    decide (s.annulationEnCours ≠ some reservationId)

/-! ## The table and the server -/

/-- The row of the table shows the reservation. -/
def Montre (v : ReservationVue) (r : Reservations) : Prop := v.id = r.id ∧ v.dateResa = r.dateResa

/-- Each of the member's reservations is shown, and a row that shows none of them is excused or older
than the cutoff `c`. -/
structure Conforme (u : Utilisateur) (c : Int) (excuse : Nat → Prop) (data : List ReservationVue)
    (db : Db) : Prop where
  nodup : (data.map (·.id)).Nodup
  complet : ∀ r ∈ db.reservations.rows, r.utilisateur = u.id → ∃ v ∈ data, Montre v r
  exact : ∀ v ∈ data, (∃ r ∈ db.reservations.rows, r.utilisateur = u.id ∧ Montre v r) ∨
    excuse v.id ∨ v.dateResa < c

/-- From `db` to `db'` the member loses no reservation but what is older than the cutoff, and gets none
that he did not have. -/
structure Epargne (u : Utilisateur) (c : Int) (db db' : Db) : Prop where
  garde : ∀ r ∈ db.reservations.rows, r.utilisateur = u.id → c ≤ r.dateResa →
    r ∈ db'.reservations.rows
  ajoute : ∀ r ∈ db'.reservations.rows, r.utilisateur = u.id → r ∈ db.reservations.rows

namespace Epargne

variable {env : Env} {u : Utilisateur} {c : Int} {db db' : Db}

theorem of_eq (h : db'.reservations = db.reservations) : Epargne u c db db' where
  garde := fun r hr _ _ => by rwa [h]
  ajoute := fun r hr _ => by rwa [h] at hr

theorem purge {now : Int} (hc : cutoff now ≤ c) : Epargne u c db (purgeExpired (cutoff now) db).2 where
  garde := by
    intro r hr _ hle
    rw [purgeExpired_rows]
    exact List.mem_filter.mpr ⟨hr, decide_eq_true (Int.le_trans hc hle)⟩
  ajoute := by
    intro r hr _
    rw [purgeExpired_rows] at hr
    exact (List.mem_filter.mp hr).1

/-- **What other members do** through the API before the cutoff. -/
theorem api {now now' : Int} {w : Option Utilisateur} {req : ApiRequest} (hc : cutoff now ≤ c)
    (hw : ∀ v, w = some v → v.id ≠ u.id) (heff : ApiEffect env now now' w db req db') :
    Epargne u c db db' := by
  cases heff with
  | purge v hv hadherent => exact purge hc
  | reservation v data db' hv hadherent heff =>
      cases heff with
      | rien => exact of_eq rfl
      | purge => exact purge hc
      | insertion livre hmem hdemande hemprunt hcount hactive =>
          refine ⟨fun r hr hu hle => List.mem_append_left _ ((purge hc).garde r hr hu hle), ?_⟩
          intro r hr hu
          rcases List.mem_append.mp hr with hold | hnew
          · exact (purge hc).ajoute r hold hu
          · rw [List.mem_singleton.mp hnew] at hu
            exact absurd hu (hw v hv)
  | suppression v id db' hv hadherent heff =>
      cases heff with
      | rien => exact of_eq rfl
      | suppression r₀ hr₀ hid howner =>
          refine ⟨fun r hr hu _ => List.mem_filter.mpr ⟨hr, ?_⟩,
            fun r hr _ => (List.mem_filter.mp hr).1⟩
          -- the deleted row is the requester's
          have hne : r.id ≠ r₀.id := by
            intro heq
            rw [db.reservations.eq_of_id hr hr₀ heq, howner] at hu
            exact hw v hv hu
          simpa using hne
  | _ => exact of_eq rfl

end Epargne

namespace Conforme

variable {u : Utilisateur} {c : Int} {P Q : Nat → Prop} {data : List ReservationVue} {db db' : Db}

/-- It stays right when others make the member lose what is older than the cutoff. -/
theorem epargne (h : Conforme u c P data db) (he : Epargne u c db db') : Conforme u c P data db' where
  nodup := h.nodup
  complet := fun r hr hu => h.complet r (he.ajoute r hr hu) hu
  exact := by
    intro v hv
    rcases h.exact v hv with ⟨r, hr, hu, hshown⟩ | hexcuse
    · by_cases hle : c ≤ v.dateResa
      · exact Or.inl ⟨r, he.garde r hr hu (hshown.2 ▸ hle), hu, hshown⟩
      · exact Or.inr (Or.inr (Int.not_le.mp hle))
    · exact Or.inr hexcuse

theorem mono (h : Conforme u c P data db) (hPQ : ∀ i, P i → Q i) : Conforme u c Q data db where
  nodup := h.nodup
  complet := h.complet
  exact := fun v hv => (h.exact v hv).imp_right (Or.imp_left (hPQ v.id))

end Conforme

section Serveur

variable {env : Env} {t : Instant} {u : Utilisateur} {db : Db}

/-- The list that is answered is what the member has after the purge. -/
theorem serveur_getMesReservations (env : Env) (db : Db) (hu : u.atteint .adherent = true)
    (ht : t.user = some u) (c : Int) :
    ∃ data, (serveur env t .getMesReservations db).1.reservations? = some data ∧
      Conforme u c (fun _ => False) data (serveur env t .getMesReservations db).2 := by
  rw [serveur, handle_eq_dispatch, ht]
  simp only [Demande.api, dispatch, asAdherent, hu, if_true, ReservationController.index]
  refine ⟨_, rfl, ?_⟩
  set purged := (purgeExpired (cutoff t.now) db).2
  have hperm : (findActiveByUser u.id (cutoff t.now) purged).Perm
      (purged.reservations.rows.filter
        fun r => decide (r.utilisateur = u.id) && actif (cutoff t.now) r) :=
    List.perm_insertionSort _ _
  refine ⟨?_, ?_, ?_⟩
  · rw [List.map_map]
    exact (hperm.map _).nodup_iff.mpr ((List.filter_sublist.map _).nodup purged.reservations.nodup)
  · intro r hr hru
    refine ⟨purged.reservationVue r, List.mem_map.mpr ⟨r, hperm.mem_iff.mpr ?_, rfl⟩, rfl, rfl⟩
    exact List.mem_filter.mpr ⟨hr, by simp [hru, actif_of_mem_purgeExpired hr]⟩
  · intro v hv
    obtain ⟨r, hr, rfl⟩ := List.mem_map.mp hv
    obtain ⟨hmem, hp⟩ := List.mem_filter.mp (hperm.mem_iff.mp hr)
    exact Or.inl ⟨r, hmem, of_decide_eq_true (Bool.and_eq_true_iff.mp hp).1, rfl, rfl⟩

/-- A cancellation that is confirmed takes the one reservation away … -/
theorem rows_annuler_of_ok (hu : u.atteint .adherent = true) (ht : t.user = some u) {j : Nat}
    (hok : (serveur env t (.annulerReservation j) db).1.ok = true) :
    (serveur env t (.annulerReservation j) db).2.reservations.rows =
      db.reservations.rows.filter fun r => !decide (r.id = j) := by
  rw [serveur, handle_eq_dispatch, ht] at hok ⊢
  simp only [Demande.api, dispatch, onReservation, asAdherent, hu, if_true,
    ReservationController.delete] at hok ⊢
  cases hfind : db.reservations.find? j with
  | none => simp [hfind, Response.ok, Response.notFound] at hok
  | some r =>
      obtain ⟨-, rfl⟩ := db.reservations.find?_eq_some.mp hfind
      simp only [hfind] at hok ⊢
      split
      · next howner => simp [howner, Response.ok, Response.message] at hok
      · rfl

/-- … and one that is refused changes nothing. -/
theorem serveur_annuler_of_not_ok {j : Nat} (ht : t.user = some u)
    (hok : (serveur env t (.annulerReservation j) db).1.ok = false) :
    (serveur env t (.annulerReservation j) db).2 = db := by
  rw [serveur, handle_eq_dispatch, ht] at hok ⊢
  simp only [Demande.api, dispatch, onReservation, asAdherent, ReservationController.delete] at hok ⊢
  split
  · rfl
  · next r hfind =>
    split
    · next hrole =>
      simp only [hfind, hrole, if_true] at hok ⊢
      split
      · rfl
      · next howner => simp [howner, Response.ok, Response.message] at hok
    · rfl

theorem Conforme.annuler {c : Int} {P : Nat → Prop} {data : List ReservationVue}
    (h : Conforme u c P data db) (hu : u.atteint .adherent = true) (ht : t.user = some u) (j : Nat) :
    Conforme u c
      (fun i => P i ∨ i = j ∧ (serveur env t (.annulerReservation j) db).1.ok = true) data
      (serveur env t (.annulerReservation j) db).2 := by
  cases hok : (serveur env t (.annulerReservation j) db).1.ok with
  | false =>
      rw [serveur_annuler_of_not_ok ht hok]
      exact h.mono fun i hi => Or.inl hi
  | true =>
      have hrows := rows_annuler_of_ok hu ht hok
      refine ⟨h.nodup, ?_, ?_⟩
      · intro r hr hru
        rw [hrows] at hr
        exact h.complet r (List.mem_filter.mp hr).1 hru
      · intro v hv
        rcases h.exact v hv with ⟨r, hr, hru, hshown⟩ | hexcuse | hold
        · by_cases hj : r.id = j
          · exact Or.inr (Or.inl (Or.inr ⟨hshown.1.trans hj, rfl⟩))
          · refine Or.inl ⟨r, ?_, hru, hshown⟩
            rw [hrows]
            exact List.mem_filter.mpr ⟨hr, by simpa using hj⟩
        · exact Or.inr (Or.inl (Or.inl hexcuse))
        · exact Or.inr (Or.inr hold)

end Serveur

/-! ## Where the page is -/

abbrev Monde := World MesReservations Db Demande Response

/-- The cancellation of `i` is confirmed and the page does not know it, or will never know. -/
def Perdue (i : Nat) (x : Exchange Demande Response) : Prop :=
  x.request = .annulerReservation i ∧ ((∃ r, x.phase = .served r ∧ r.ok = true) ∨ x.phase = .done none)

/-- The table is shown. -/
structure Affichee (u : Utilisateur) (c : Int) (w : Monde) : Prop where
  loading : w.page.loading = false
  erreur : w.page.erreur = ""
  /-- nothing is missing, and what is too much has been cancelled or has expired -/
  conforme : Conforme u c (fun i => ∃ x ∈ w.log, Perdue i x) w.page.reservations w.server
  /-- what is confirmed is gone -/
  parti : ∀ i a, ⟨.annulerReservation i, .served a⟩ ∈ w.log → a.ok = true →
    ∀ r ∈ w.server.reservations.rows, r.utilisateur = u.id → r.id ≠ i
  lecture : ∀ x ∈ w.log, x.request = .getMesReservations → x.isPending = false
  enCours : ∀ i, w.page.annulationEnCours = some i →
    ∃ x ∈ w.log, x.request = .annulerReservation i ∧ x.isPending = true

/-- The stages of the page: the list has been asked for, it is on its way, it could not be had, or it
is shown. -/
inductive Etape (u : Utilisateur) (c : Int) (w : Monde) : Prop
  | demandee : w.page = .initial → w.log = [⟨.getMesReservations, .sent⟩] → Etape u c w
  | servie (r : Response) (data : List ReservationVue) : w.page = .initial →
      w.log = [⟨.getMesReservations, .served r⟩] → r.reservations? = some data →
      Conforme u c (fun _ => False) data w.server → Etape u c w
  | echouee : w.page.erreur ≠ "" → (∀ x ∈ w.log, x.isPending = false) → Etape u c w
  | affichee : Affichee u c w → Etape u c w

/-- The member acts through this page: he clicks what can be clicked and the server knows him. What
happens elsewhere takes none of his reservations but what is older than the cutoff `c`, and neither
adds nor changes any. Requests may be lost. -/
def Seul (u : Utilisateur) (c : Int) (w : Monde) : Happening Appel Instant Db → Prop
  | .call .ngOnInit => False
  | .call (.annuler i) => w.page.annulable i = true
  | .serve _ t => t.user = some u
  | .arrive _ => True
  | .fail _ => True
  | .other db => Epargne u c w.server db

namespace Affichee

variable {env : Env} {u : Utilisateur} {c : Int} {w : Monde}

/-- A click sends a cancellation. -/
theorem annuler (h : Affichee u c w) (j : Nat) :
    Affichee u c (w.react w.log (call w.page (.annuler j))) where
  loading := h.loading
  erreur := h.erreur
  conforme := h.conforme.mono fun i ⟨x, hx, hperdue⟩ => ⟨x, List.mem_append_left _ hx, hperdue⟩
  parti := by
    intro i a hmem
    rcases List.mem_append.mp hmem with hold | hnew
    · exact h.parti i a hold
    · cases List.mem_singleton.mp hnew
  lecture := by
    intro x hx hlecture
    rcases List.mem_append.mp hx with hold | hnew
    · exact h.lecture x hold hlecture
    · rw [List.mem_singleton.mp hnew] at hlecture
      cases hlecture
  enCours := by
    intro i hi
    obtain rfl := Option.some.inj hi
    exact ⟨_, List.mem_append_right _ (List.mem_singleton.mpr rfl), rfl, rfl⟩

variable {l₁ l₂ : List (Exchange Demande Response)} {j : Nat}

/-- The server takes a cancellation up. -/
theorem serve (h : Affichee u c w) (hu : u.atteint .adherent = true) {t : Instant}
    (ht : t.user = some u) (hlog : w.log = l₁ ++ ⟨.annulerReservation j, .sent⟩ :: l₂) :
    Affichee u c
      { w with
        server := (serveur env t (.annulerReservation j) w.server).2
        log := l₁ ++ ⟨.annulerReservation j,
          .served (serveur env t (.annulerReservation j) w.server).1⟩ :: l₂ } := by
  have hsub : ∀ r ∈ (serveur env t (.annulerReservation j) w.server).2.reservations.rows,
      r ∈ w.server.reservations.rows := by
    intro r hr
    cases hok : (serveur env t (.annulerReservation j) w.server).1.ok with
    | true =>
        rw [rows_annuler_of_ok hu ht hok] at hr
        exact (List.mem_filter.mp hr).1
    | false => rwa [serveur_annuler_of_not_ok ht hok] at hr
  refine ⟨h.loading, h.erreur, (h.conforme.annuler hu ht j).mono ?_, ?_, ?_, ?_⟩
  · rintro i (⟨x, hx, hperdue⟩ | ⟨rfl, hok⟩)
    · refine ⟨x, World.mem_replace (hlog ▸ hx) ?_, hperdue⟩
      rintro rfl
      rcases hperdue.2 with ⟨r, hr, -⟩ | hdone
      · cases hr
      · cases hdone
    · exact ⟨_, List.mem_append_right _ List.mem_cons_self, rfl, Or.inl ⟨_, rfl, hok⟩⟩
  · intro i a hmem hok r hr
    rcases World.mem_of_replace (x := ⟨.annulerReservation j, .sent⟩) hmem with heq | hold
    · cases heq
      intro _
      rw [rows_annuler_of_ok hu ht hok] at hr
      simpa using (List.mem_filter.mp hr).2
    · exact h.parti i a (hlog ▸ hold) hok r (hsub r hr)
  · intro x hx hlecture
    rcases World.mem_of_replace (x := ⟨.annulerReservation j, .sent⟩) hx with rfl | hold
    · cases hlecture
    · exact h.lecture x (hlog ▸ hold) hlecture
  · intro i hi
    obtain ⟨x, hx, hreq, hpending⟩ := h.enCours i hi
    by_cases hsame : x = ⟨.annulerReservation j, .sent⟩
    · rw [hsame] at hreq
      exact ⟨_, List.mem_append_right _ List.mem_cons_self, hreq, rfl⟩
    · exact ⟨x, World.mem_replace (hlog ▸ hx) hsame, hreq, hpending⟩

/-- What the settled cancellation leaves of the table is right: if it was confirmed, the row is gone on
both sides, and if the page cannot know, it is excused. -/
theorem settle_conforme (h : Affichee u c w) {p : Phase Response} {r : Option Response}
    (hlog : w.log = l₁ ++ ⟨.annulerReservation j, p⟩ :: l₂)
    (hr : ∀ a, r = some a → p = .served a) :
    Conforme u c (fun i => ∃ x ∈ l₁ ++ ⟨.annulerReservation j, .done r⟩ :: l₂, Perdue i x)
      (w.page.onAnnulation j r).reservations w.server := by
  have hmem : (⟨.annulerReservation j, p⟩ : Exchange Demande Response) ∈ w.log :=
    hlog ▸ List.mem_append_right _ List.mem_cons_self
  have hsub := reservations_onAnnulation_sublist w.page j r
  refine ⟨(hsub.map _).nodup h.conforme.nodup, ?_, ?_⟩
  · intro r' hr' hru
    obtain ⟨v, hv, hshown⟩ := h.conforme.complet r' hr' hru
    refine ⟨v, ?_, hshown⟩
    rw [reservations_onAnnulation]
    split
    · next hok =>
      -- a confirmed cancellation is not among what the server has
      obtain ⟨a, rfl, ha⟩ := (Option.any_eq_true _ _).mp hok
      have hne : v.id ≠ j := hshown.1 ▸ h.parti j a (hr a rfl ▸ hmem) ha r' hr' hru
      exact List.mem_filter.mpr ⟨hv, by simpa using hne⟩
    · exact hv
  · intro v hv
    rcases h.conforme.exact v (hsub.subset hv) with hleft | ⟨x, hx, hreq, hphase⟩ | hold
    · exact Or.inl hleft
    · refine Or.inr (Or.inl ?_)
      by_cases hsame : x = ⟨.annulerReservation j, p⟩
      · -- this was the confirmation: the page has it now, or has lost it
        subst hsame
        have hj : j = v.id := Demande.annulerReservation.inj hreq
        cases r with
        | none => exact ⟨_, List.mem_append_right _ List.mem_cons_self, congrArg _ hj, Or.inr rfl⟩
        | some a =>
            have hp := hr a rfl
            subst hp
            rcases hphase with ⟨b, hb, hok⟩ | hdone
            · cases hb
              rw [reservations_onAnnulation, Option.any_some, if_pos hok] at hv
              simp [hj] at hv
            · cases hdone
      · exact ⟨x, World.mem_replace (hlog ▸ hx) hsame, hreq, hphase⟩
    · exact Or.inr (Or.inr hold)

/-- The answer of a cancellation arrives, or the page learns that none will. -/
theorem settle (h : Affichee u c w) {p : Phase Response} {r : Option Response}
    (hlog : w.log = l₁ ++ ⟨.annulerReservation j, p⟩ :: l₂)
    (hr : ∀ a, r = some a → p = .served a) :
    Affichee u c (w.react (l₁ ++ ⟨.annulerReservation j, .done r⟩ :: l₂)
      (answer w.page (.annulerReservation j) r)) := by
  have hreact : w.react (l₁ ++ ⟨.annulerReservation j, .done r⟩ :: l₂)
      (answer w.page (.annulerReservation j) r) =
      { w with
        page := w.page.onAnnulation j r
        log := l₁ ++ ⟨.annulerReservation j, .done r⟩ :: l₂ } := by
    simp [World.react, answer]
  rw [hreact]
  refine ⟨?_, ?_, h.settle_conforme hlog hr, ?_, ?_, ?_⟩
  · exact (loading_onAnnulation w.page j r).trans h.loading
  · exact (erreur_onAnnulation w.page j r).trans h.erreur
  · intro i a hmem
    rcases World.mem_of_replace (x := ⟨.annulerReservation j, p⟩) hmem with heq | hold
    · cases heq
    · exact h.parti i a (hlog ▸ hold)
  · intro x hx hlecture
    rcases World.mem_of_replace (x := ⟨.annulerReservation j, p⟩) hx with rfl | hold
    · cases hlecture
    · exact h.lecture x (hlog ▸ hold) hlecture
  · intro i hi
    cases (annulationEnCours_onAnnulation w.page j r).symm.trans hi

theorem other (h : Affichee u c w) {db : Db} (hdb : Epargne u c w.server db) :
    Affichee u c { w with server := db } where
  loading := h.loading
  erreur := h.erreur
  conforme := h.conforme.epargne hdb
  parti := fun i a hmem hok r hr hru => h.parti i a hmem hok r (hdb.ajoute r hr hru) hru
  lecture := h.lecture
  enCours := h.enCours

end Affichee

/-! ## One step, and all of them -/

section Step

variable {env : Env} {u : Utilisateur} {c : Int} {w : Monde}

/-- Where one request is all there is, a pending request is that one. -/
theorem split_singleton {x y : Exchange Demande Response} {l₁ l₂ : List (Exchange Demande Response)}
    (h : [x] = l₁ ++ y :: l₂) : l₁ = [] ∧ y = x ∧ l₂ = [] := by
  cases l₁ with
  | nil =>
      rw [List.nil_append, List.cons.injEq] at h
      exact ⟨rfl, h.1.symm, h.2.symm⟩
  | cons a l₁ => simp at h

theorem not_annulable_initial (i : Nat) : MesReservations.initial.annulable i = false := rfl

/-- Without the list there is nothing to click. -/
theorem not_annulable_of_erreur {s : MesReservations} (h : s.erreur ≠ "") (i : Nat) :
    s.annulable i = false := by
  simp [annulable, tableAffichee, h]

theorem erreur_onReservations_none (s : MesReservations) : (s.onReservations none).erreur ≠ "" := by
  show "Impossible de charger vos réservations." ≠ ""
  decide

/-- The list cannot be had. -/
theorem etape_echec (hlog : w.log = [⟨.getMesReservations, .done none⟩])
    (herreur : w.page.erreur ≠ "") : Etape u c w := by
  refine .echouee herreur ?_
  rw [hlog]
  simp [Exchange.isPending]

/-- The list arrives. -/
theorem affichee_of_data {r : Response} {data : List ReservationVue}
    (hpage : w.page = { initial with reservations := data, loading := false })
    (hlog : w.log = [⟨.getMesReservations, .done (some r)⟩])
    (hdata : Conforme u c (fun _ => False) data w.server) : Affichee u c w := by
  have hlecture : ∀ x ∈ w.log, x.isPending = false ∧ x.request = .getMesReservations := by
    rw [hlog]
    simp [Exchange.isPending]
  refine ⟨by rw [hpage], by rw [hpage]; rfl, ?_, ?_, fun x hx _ => (hlecture x hx).1, ?_⟩
  · rw [hpage]
    exact hdata.mono fun _ hi => hi.elim
  · intro i a hmem
    cases (hlecture _ hmem).2
  · intro i hi
    rw [hpage] at hi
    cases hi

theorem Etape.step_demandee (hu : u.atteint .adherent = true) (hpage : w.page = .initial)
    (hlog : w.log = [⟨.getMesReservations, .sent⟩]) {e : Happening Appel Instant Db}
    (hseul : Seul u c w e) : Etape u c (World.step component (serveur env) w e) := by
  have heffect := World.step_effect component (serveur env) w e
  generalize World.step component (serveur env) w e = w' at heffect ⊢
  cases heffect with
  | idle => exact .demandee hpage hlog
  | call m =>
      cases m with
      | ngOnInit => exact hseul.elim
      | annuler i =>
          rw [Seul, hpage, not_annulable_initial] at hseul
          cases hseul
  | serve l₁ l₂ q t heq =>
      obtain ⟨rfl, hx, rfl⟩ := split_singleton (hlog.symm.trans heq)
      cases hx
      obtain ⟨data, hdata, hconforme⟩ := serveur_getMesReservations env w.server hu hseul c
      exact .servie _ data hpage rfl hdata hconforme
  | arrive l₁ l₂ q r heq =>
      obtain ⟨-, hx, -⟩ := split_singleton (hlog.symm.trans heq)
      cases hx
  | fail l₁ l₂ x heq hpending =>
      obtain ⟨rfl, rfl, rfl⟩ := split_singleton (hlog.symm.trans heq)
      exact etape_echec rfl (erreur_onReservations_none w.page)
  | other db => exact .demandee hpage hlog

theorem Etape.step_servie {r : Response} {data : List ReservationVue} (hpage : w.page = .initial)
    (hlog : w.log = [⟨.getMesReservations, .served r⟩]) (hdata : r.reservations? = some data)
    (hconforme : Conforme u c (fun _ => False) data w.server) {e : Happening Appel Instant Db}
    (hseul : Seul u c w e) : Etape u c (World.step component (serveur env) w e) := by
  have heffect := World.step_effect component (serveur env) w e
  generalize World.step component (serveur env) w e = w' at heffect ⊢
  cases heffect with
  | idle => exact .servie r data hpage hlog hdata hconforme
  | call m =>
      cases m with
      | ngOnInit => exact hseul.elim
      | annuler i =>
          rw [Seul, hpage, not_annulable_initial] at hseul
          cases hseul
  | serve l₁ l₂ q t heq =>
      obtain ⟨-, hx, -⟩ := split_singleton (hlog.symm.trans heq)
      cases hx
  | arrive l₁ l₂ q r' heq =>
      obtain ⟨rfl, hx, rfl⟩ := split_singleton (hlog.symm.trans heq)
      cases hx
      refine .affichee (affichee_of_data ?_ rfl hconforme)
      show w.page.onReservations (some r) = _
      rw [hpage, onReservations, Option.bind_some, hdata]
  | fail l₁ l₂ x heq hpending =>
      obtain ⟨rfl, rfl, rfl⟩ := split_singleton (hlog.symm.trans heq)
      exact etape_echec rfl (erreur_onReservations_none w.page)
  | other db => exact .servie r data hpage hlog hdata (hconforme.epargne hseul)

theorem Etape.step_echouee (herreur : w.page.erreur ≠ "")
    (hfini : ∀ x ∈ w.log, x.isPending = false) {e : Happening Appel Instant Db}
    (hseul : Seul u c w e) : Etape u c (World.step component (serveur env) w e) := by
  have heffect := World.step_effect component (serveur env) w e
  generalize World.step component (serveur env) w e = w' at heffect ⊢
  cases heffect with
  | idle => exact .echouee herreur hfini
  | call m =>
      cases m with
      | ngOnInit => exact hseul.elim
      | annuler i =>
          rw [Seul, not_annulable_of_erreur herreur] at hseul
          cases hseul
  | serve l₁ l₂ q t heq =>
      cases hfini ⟨q, .sent⟩ (heq ▸ List.mem_append_right _ List.mem_cons_self)
  | arrive l₁ l₂ q r heq =>
      cases hfini ⟨q, .served r⟩ (heq ▸ List.mem_append_right _ List.mem_cons_self)
  | fail l₁ l₂ x heq hpending =>
      rw [hfini x (heq ▸ List.mem_append_right _ List.mem_cons_self)] at hpending
      cases hpending
  | other db => exact .echouee herreur hfini

theorem Etape.step_affichee (hu : u.atteint .adherent = true) (h : Affichee u c w)
    {e : Happening Appel Instant Db} (hseul : Seul u c w e) :
    Etape u c (World.step component (serveur env) w e) := by
  have heffect := World.step_effect component (serveur env) w e
  generalize World.step component (serveur env) w e = w' at heffect ⊢
  cases heffect with
  | idle => exact .affichee h
  | call m =>
      cases m with
      | ngOnInit => exact hseul.elim
      | annuler i => exact .affichee (h.annuler i)
  | serve l₁ l₂ q t heq =>
      have hmem : (⟨q, .sent⟩ : Exchange Demande Response) ∈ w.log :=
        heq ▸ List.mem_append_right _ List.mem_cons_self
      cases q with
      | getMesReservations => cases h.lecture _ hmem rfl
      | annulerReservation j => exact .affichee (h.serve hu hseul heq)
  | arrive l₁ l₂ q r heq =>
      have hmem : (⟨q, .served r⟩ : Exchange Demande Response) ∈ w.log :=
        heq ▸ List.mem_append_right _ List.mem_cons_self
      cases q with
      | getMesReservations => cases h.lecture _ hmem rfl
      | annulerReservation j =>
          exact .affichee (h.settle heq fun a ha => congrArg Phase.served (Option.some.inj ha))
  | fail l₁ l₂ x heq hpending =>
      have hmem : x ∈ w.log := heq ▸ List.mem_append_right _ List.mem_cons_self
      obtain ⟨q, p⟩ := x
      cases q with
      | getMesReservations =>
          rw [h.lecture _ hmem rfl] at hpending
          cases hpending
      | annulerReservation j => exact .affichee (h.settle heq fun a ha => by cases ha)
  | other db => exact .affichee (h.other hseul)

theorem Etape.step (hu : u.atteint .adherent = true) (h : Etape u c w)
    {e : Happening Appel Instant Db} (hseul : Seul u c w e) :
    Etape u c (World.step component (serveur env) w e) := by
  cases h with
  | demandee hpage hlog => exact .step_demandee hu hpage hlog hseul
  | servie r data hpage hlog hdata hconforme => exact .step_servie hpage hlog hdata hconforme hseul
  | echouee herreur hfini => exact .step_echouee herreur hfini hseul
  | affichee h => exact .step_affichee hu h hseul

end Step

/-- The member's reservations that are not older than the cutoff. -/
def actives (u : Utilisateur) (c : Int) (db : Db) : List Nat :=
  (db.reservations.rows.filter fun r => decide (r.utilisateur = u.id) && actif c r).map (·.id)

/-- The rows of the table that are not. -/
def idsActifs (s : MesReservations) (c : Int) : List Nat :=
  (s.reservations.filter fun v => decide (c ≤ v.dateResa)).map (·.id)

/-- What the member can rely on while the table is shown: nothing he has is missing; what is there, has
not expired and he no longer has is being cancelled or its confirmation was lost; no button waits for
an answer that has come; and when every request has been answered, the table is what he has, but for
what has expired. -/
structure Fidele (u : Utilisateur) (c : Int) (w : Monde) : Prop where
  complet : w.page.tableAffichee = true →
    ∀ r ∈ w.server.reservations.rows, r.utilisateur = u.id → ∃ v ∈ w.page.reservations, Montre v r
  exact : w.page.tableAffichee = true → ∀ v ∈ w.page.reservations, c ≤ v.dateResa →
    (∃ r ∈ w.server.reservations.rows, r.utilisateur = u.id ∧ Montre v r) ∨
      ∃ x ∈ w.log, x.request = .annulerReservation v.id ∧
        (x.isPending = true ∨ x.phase = .done none)
  attente : w.page.tableAffichee = true → (∀ x ∈ w.log, x.isPending = false) →
    w.page.annulationEnCours = none
  auRepos : w.page.tableAffichee = true → (∀ x ∈ w.log, ∃ r, x.phase = .done (some r)) →
    (w.page.idsActifs c).Perm (actives u c w.server)

theorem Affichee.fidele {u : Utilisateur} {c : Int} {w : Monde} (h : Affichee u c w) :
    Fidele u c w where
  complet := fun _ => h.conforme.complet
  exact := by
    intro _ v hv hle
    rcases h.conforme.exact v hv with hleft | ⟨x, hx, hreq, ⟨r, hr, -⟩ | hdone⟩ | hold
    · exact Or.inl hleft
    · exact Or.inr ⟨x, hx, hreq, Or.inl (by rw [Exchange.isPending, hr])⟩
    · exact Or.inr ⟨x, hx, hreq, Or.inr hdone⟩
    · exact absurd hle (Int.not_le.mpr hold)
  attente := by
    intro _ hfini
    cases hencours : w.page.annulationEnCours with
    | none => rfl
    | some i =>
        obtain ⟨x, hx, -, hpending⟩ := h.enCours i hencours
        rw [hfini x hx] at hpending
        cases hpending
  auRepos := by
    intro _ hrepos
    have hids : (w.page.idsActifs c).Nodup := (List.filter_sublist.map _).nodup h.conforme.nodup
    have hactives : (actives u c w.server).Nodup :=
      (List.filter_sublist.map _).nodup w.server.reservations.nodup
    rw [List.perm_ext_iff_of_nodup hids hactives]
    intro i
    simp only [idsActifs, actives, actif, List.mem_map, List.mem_filter, Bool.and_eq_true,
      decide_eq_true_eq]
    constructor
    · rintro ⟨v, ⟨hv, hle⟩, rfl⟩
      rcases h.conforme.exact v hv with ⟨r, hr, hru, hid, hdate⟩ | ⟨x, hx, -, hphase⟩ | hold
      · exact ⟨r, ⟨hr, hru, hdate ▸ hle⟩, hid.symm⟩
      · obtain ⟨a, ha⟩ := hrepos x hx
        rcases hphase with ⟨r, hr, -⟩ | hdone
        · cases ha.symm.trans hr
        · cases ha.symm.trans hdone
      · exact absurd hle (Int.not_le.mpr hold)
    · rintro ⟨r, ⟨hr, hru, hle⟩, rfl⟩
      obtain ⟨v, hv, hid, hdate⟩ := h.conforme.complet r hr hru
      exact ⟨v, ⟨hv, hdate ▸ hle⟩, hid⟩

theorem Etape.fidele {u : Utilisateur} {c : Int} {w : Monde} (h : Etape u c w) : Fidele u c w := by
  have hcachee : w.page.tableAffichee = false → Fidele u c w := by
    intro hnon
    constructor <;> intro haffichee <;> cases hnon.symm.trans haffichee
  cases h with
  | demandee hpage hlog => exact hcachee (by rw [hpage]; rfl)
  | servie r data hpage hlog hdata hconforme => exact hcachee (by rw [hpage]; rfl)
  | echouee herreur hfini => exact hcachee (by simp [tableAffichee, herreur])
  | affichee h => exact h.fidele

/-- The page, just opened. -/
def ouverte (db : Db) : Monde := World.react [] (call initial .ngOnInit) ⟨initial, db, []⟩

/-- **The list is faithful.** For a member who acts through this page, whatever he clicks, in whatever
order the server takes his cancellations up and the answers arrive, whichever of them are lost, and
whatever others do meanwhile that takes nothing from him but what is older than a cutoff `c`. -/
theorem liste_fidele (env : Env) (u : Utilisateur) (hu : u.atteint .adherent = true) (c : Int)
    (db : Db) (es : List (Happening Appel Instant Db))
    (hes : Along (World.step component (serveur env)) (Seul u c) (ouverte db) es) :
    Always (World.step component (serveur env)) (Fidele u c) (ouverte db) es := by
  have hetape : Etape u c (ouverte db) := .demandee rfl rfl
  exact (always_of_along (fun _ _ h hseul => h.step hu hseul) hetape hes).mono fun _ h => h.fidele

/-- Alice has reserved the first two books and, five days later, the third one. -/
def troisReservations : Db :=
  { AppFixtures.load .plain with
    reservations := .ofList [⟨0, 0, 2, 1⟩, ⟨0, 5, 2, 2⟩, ⟨0, days 5, 2, 3⟩] }

/-- Just after seven days Anthony opens his own list. -/
def listeDAnthony (db : Db) : Db :=
  (handle .plain (days 7 + 5) (days 7 + 5) (db.utilisateurs.find? 3) .reservationIndex db).2

/-- Alice cancels the last two before the first answer is there, and the second confirmation is lost. -/
def deuxAnnulations : List (Happening Appel Instant Db) :=
  [.serve 0 ⟨days 7, days 7, some AppFixtures.alice⟩, .arrive 0, .call (.annuler 2),
    .call (.annuler 3), .serve 2 ⟨days 7 + 1, days 7 + 1, some AppFixtures.alice⟩, .fail 2,
    .serve 1 ⟨days 7 + 2, days 7 + 2, some AppFixtures.alice⟩]

/-- His request purges her first one before the other confirmation arrives. -/
def annulationsEtPurge : List (Happening Appel Instant Db) :=
  deuxAnnulations ++
    [.other (listeDAnthony (run (World.step component (serveur .plain)) (ouverte troisReservations)
      deuxAnnulations).server), .arrive 1]

theorem liste_fidele_alice :
    Along (World.step component (serveur .plain)) (Seul AppFixtures.alice 5)
      (ouverte troisReservations) annulationsEtPurge ∧
    Always (World.step component (serveur .plain)) (Fidele AppFixtures.alice 5)
      (ouverte troisReservations) annulationsEtPurge := by
  have hes : Along (World.step component (serveur .plain)) (Seul AppFixtures.alice 5)
      (ouverte troisReservations) annulationsEtPurge := by
    refine ⟨rfl, trivial, ?_, ?_, rfl, trivial, rfl, ?_, trivial, trivial⟩
    · show annulable _ 2 = true
      decide +kernel
    · show annulable _ 3 = true
      decide +kernel
    · refine Epargne.api ?_ ?_ (handle_effect .plain _ _ _ _ _)
      · decide
      · intro v hv heq
        obtain ⟨-, hid⟩ := (Table.find?_eq_some _).mp hv
        cases hid.symm.trans heq
  exact ⟨hes, liste_fidele .plain AppFixtures.alice (by decide) 5 troisReservations
    annulationsEtPurge hes⟩

end MesReservations

end Bibliotheque.Client
