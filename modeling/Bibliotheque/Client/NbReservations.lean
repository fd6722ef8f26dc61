import Bibliotheque.Client.LivresList

/-! # The counter of reservations

`nbReservations` decides whether the reserve buttons can be used. It is set from the list that
`ngOnInit` asks for and goes up by one with each confirmed reservation, whichever comes first. So it
follows the server only if the list, when it arrives, tells of exactly the reservations that the
confirmations still to come do not.

The proof watches one number, `ecart`: the counter and the confirmations on their way, less the active
reservations on the server. Nothing changes it but the arrival of the list. -/

namespace Bibliotheque.Client

open Lib ReservationsRepository LivresList

/-- The member's active reservations, at the time `t`. -/
def compte (u : Utilisateur) (t : Int) (db : Db) : Nat := countActiveForUser u.id (cutoff t) db

/-- At the time `now` the reservations of the member that are active are the ones that are at `t`. -/
def SansExpiration (u : Utilisateur) (t now : Int) (db : Db) : Prop :=
  ∀ r ∈ db.reservations.rows, r.utilisateur = u.id → actif (cutoff now) r = actif (cutoff t) r

/-! ## What a request does to the reservations of the member -/

section Serveur

variable {u : Utilisateur} {t now : Int} {db : Db}

theorem compte_purgeExpired (h : SansExpiration u t now db) :
    compte u t (purgeExpired (cutoff now) db).2 = compte u t db := by
  rw [compte, compte, countActiveForUser, countActiveForUser, purgeExpired_rows, List.countP_filter]
  apply List.countP_congr
  intro r hr
  simp only [Bool.and_eq_true, decide_eq_true_eq]
  constructor
  · exact fun hact => hact.1
  · rintro ⟨huser, hact⟩
    exact ⟨⟨huser, hact⟩, (h r hr huser).trans hact⟩

/-- The server refuses for the limit exactly when the member has three active reservations. -/
theorem createForLivre_limite_iff (t t' : Int) (u : Utilisateur) (livre : Livre) (db : Db) :
    (ReservationController.createForLivre t t' u livre db).1 =
        .message 409 "Limite de 3 reservations atteinte" ↔ 3 ≤ compte u t db := by
  have hpurge : countActiveForUser u.id (cutoff t) (purgeExpired (cutoff t) db).2 = compte u t db :=
    compte_purgeExpired fun _ _ _ => rfl
  simp only [ReservationController.createForLivre, hpurge]
  split
  · next hlimite => simp [hlimite]
  · next hlimite =>
    split
    · simp [hlimite, Response.message]
    · split
      · simp [hlimite, Response.message]
      · simp [hlimite, Response.message]

/-- A reservation is made exactly when the answer is a success. -/
theorem compte_createForLivre (h : SansExpiration u t now db) {now' : Int} (hnow : cutoff t ≤ now')
    (livre : Livre) :
    compte u t (ReservationController.createForLivre now now' u livre db).2 =
      compte u t db +
        if (ReservationController.createForLivre now now' u livre db).1.ok then 1 else 0 := by
  have hpurge := compte_purgeExpired h
  simp only [ReservationController.createForLivre]
  split
  · simpa [Response.ok, Response.message] using hpurge
  · split
    · simpa [Response.ok, Response.message] using hpurge
    · split
      · simpa [Response.ok, Response.message] using hpurge
      · show countActiveForUser u.id (cutoff t) (ReservationController.inserer _ _ _ _) = _
        rw [countActiveForUser_inserer, if_pos ⟨rfl, hnow⟩]
        simpa [Response.ok, compte] using hpurge

theorem compte_create (env : Env) (h : SansExpiration u t now db) {now' : Int}
    (hnow : cutoff t ≤ now') (data : Json) :
    compte u t (ReservationController.create env now now' u data db).2 =
      compte u t db +
        if (ReservationController.create env now now' u data db).1.ok then 1 else 0 := by
  simp only [ReservationController.create]
  split
  · simp [Response.ok, Response.message]
  · cases env.entityId (data.key "livreId") with
    | none => simp [Response.ok, Response.serverError]
    | some id =>
        cases hfind : db.livres.find? id with
        | none => simp [hfind, Response.ok, Response.message]
        | some livre => simpa [hfind] using compte_createForLivre h hnow livre

end Serveur

/-- A request to reserve. -/
def Requete.estReserve : Requete → Bool
  | .reserverLivre _ => true
  | _ => false

/-- The request for the list of reservations. -/
def Requete.estLecture : Requete → Bool
  | .getMesReservations => true
  | _ => false

/-- Whatever the member requests, the reservations he has are one more after a confirmed reservation
and as many as before otherwise. -/
theorem compte_serveur (env : Env) {u : Utilisateur} (hu : u.atteint .adherent = true) {t : Int}
    {x : Instant} (hx : x.user = some u) {db : Db} (h : SansExpiration u t x.now db)
    (hnow : cutoff t ≤ x.now') (q : Requete) :
    compte u t (serveur env x q db).2 =
      compte u t db + if q.estReserve && (serveur env x q db).1.ok then 1 else 0 := by
  rw [serveur, handle_eq_dispatch, hx]
  cases q with
  | reserverLivre livreId =>
      simp only [Requete.api, dispatch, asAdherent, hu, if_true, Requete.estReserve, Bool.true_and]
      exact compte_create env h hnow _
  | getMesReservations =>
      simp only [Requete.api, dispatch, asAdherent, hu, if_true, Requete.estReserve,
        Bool.false_and, Bool.false_eq_true, if_false, Nat.add_zero]
      exact compte_purgeExpired h
  | _ => rfl

/-! ## The number that is kept -/

abbrev Monde := World LivresList Db Requete Response

/-- A confirmed reservation of which the page does not know yet. -/
def confirmation (x : Exchange Requete Response) : Bool :=
  match x.phase with
  | .served r => x.request.estReserve && r.ok
  | _ => false

def enRoute (w : Monde) : Nat := w.log.countP confirmation

/-- The number of reservations a list tells of. -/
def nombre (r : Response) : Nat := (r.reservations?.map List.length).getD 0

def ecart (u : Utilisateur) (t : Int) (w : Monde) : Int :=
  w.page.nbReservations + enRoute w - compte u t w.server

/-- The member is logged in and acts through the page alone, no request fails on the way, and no
reservation of his expires: what the server is asked it is asked in his name, and what others do leaves
his reservations alone. -/
def Seul (u : Utilisateur) (t : Int) (w : Monde) : Happening Appel Instant Db → Prop
  | .call m => ∀ isLoggedIn, m ≠ .ngOnInit isLoggedIn
  | .serve _ x => x.user = some u ∧ SansExpiration u t x.now w.server ∧ cutoff t ≤ x.now'
  | .arrive _ => True
  | .fail _ => False
  | .other db => db.reservations.rows.filter (fun r => decide (r.utilisateur = u.id)) =
      w.server.reservations.rows.filter (fun r => decide (r.utilisateur = u.id))

/-- The list of reservations arrives, and it is `r`. -/
def Lit (w : Monde) (e : Happening Appel Instant Db) (r : Response) : Prop :=
  ∃ i, e = .arrive i ∧ w.log[i]? = some ⟨.getMesReservations, .served r⟩

/-- When the list arrives, it and the confirmations on their way tell of all active reservations. -/
def Fidele (u : Utilisateur) (t : Int) (w : Monde) (e : Happening Appel Instant Db) : Prop :=
  ∀ r, Lit w e r → nombre r + enRoute w = compte u t w.server

/-- Only the arrival of the list can be unfaithful. -/
theorem fidele_of_not_lit {u : Utilisateur} {t : Int} {w : Monde}
    {e : Happening Appel Instant Db} (h : ∀ r, ¬ Lit w e r) : Fidele u t w e := by
  intro r hr
  exact absurd hr (h r)

theorem fidele_of_ne_arrive {u : Utilisateur} {t : Int} {w : Monde}
    {e : Happening Appel Instant Db} (h : ∀ i, e ≠ .arrive i) : Fidele u t w e := by
  apply fidele_of_not_lit
  rintro r ⟨i, he, -⟩
  exact h i he

section Compteur

variable {l₁ l₂ : List (Exchange Requete Response)}

theorem countP_confirmation_new (l : List (Exchange Requete Response)) (qs : List Requete) :
    (l ++ qs.map Exchange.new).countP confirmation = l.countP confirmation := by
  rw [List.countP_append, Nat.add_eq_left, List.countP_eq_zero]
  intro x hx
  obtain ⟨q, -, rfl⟩ := List.mem_map.mp hx
  simp [confirmation, Exchange.new]

theorem countP_confirmation_split (x : Exchange Requete Response) :
    (l₁ ++ x :: l₂).countP confirmation =
      (l₁ ++ l₂).countP confirmation + if confirmation x then 1 else 0 := by
  rw [List.countP_append, List.countP_cons, List.countP_append]
  omega

end Compteur

/-- The number of reservations after an answer. -/
theorem nbReservations_answer (s : LivresList) (q : Requete) (r : Response) :
    (answer s q (some r)).1.nbReservations =
      if q.estLecture then nombre r
      else s.nbReservations + if q.estReserve && r.ok then 1 else 0 := by
  cases q with
  | getMesReservations =>
      simp only [answer, onReservations, nombre, Option.bind_some, Requete.estLecture, if_true]
      cases r.reservations? <;> rfl
  | reserverLivre livreId =>
      simp only [answer, onReserve, Option.any_some, Requete.estLecture, Requete.estReserve,
        Bool.true_and, Bool.false_eq_true, if_false]
      split <;> rfl
  | getLivres =>
      simp only [answer, onLivres]
      split <;> rfl
  | rechercherLivres query =>
      simp only [answer, onLivres]
      split <;> rfl
  | _ => rfl

/-- What the arrival of the list does. -/
theorem step_of_lit (env : Env) {w : Monde} {e : Happening Appel Instant Db} {r : Response}
    (h : Lit w e r) :
    ∃ l₁ l₂, w.log = l₁ ++ ⟨.getMesReservations, .served r⟩ :: l₂ ∧
      World.step component (serveur env) w e =
        { w with
          page := w.page.onReservations (some r)
          log := l₁ ++ ⟨.getMesReservations, .done (some r)⟩ :: l₂ } := by
  obtain ⟨i, rfl, hget⟩ := h
  obtain ⟨l₁, l₂, hlog, rfl, -⟩ := World.split_of_getElem? hget
  exact ⟨l₁, l₂, hlog, by simp [World.step, World.react, hlog, component, answer]⟩

/-- Any other answer is to another request. -/
theorem estLecture_of_not_lit {w : Monde} {l₁ l₂ : List (Exchange Requete Response)} {q : Requete}
    {r : Response} (hlog : w.log = l₁ ++ ⟨q, .served r⟩ :: l₂)
    (hlit : ∀ r, ¬ Lit w (.arrive l₁.length) r) : q.estLecture = false := by
  cases q with
  | getMesReservations => exact absurd ⟨_, rfl, hlog ▸ World.getElem?_split⟩ (hlit r)
  | _ => rfl

/-- It puts the counter where the list says. -/
theorem ecart_step_of_lit (env : Env) {u : Utilisateur} {t : Int} {w : Monde}
    {e : Happening Appel Instant Db} {r : Response} (h : Lit w e r) :
    ecart u t (World.step component (serveur env) w e) =
      nombre r + enRoute w - compte u t w.server := by
  obtain ⟨l₁, l₂, hlog, hstep⟩ := step_of_lit env h
  have hnb : (w.page.onReservations (some r)).nbReservations = nombre r :=
    nbReservations_answer w.page .getMesReservations r
  rw [hstep, ecart, enRoute, enRoute, hlog, countP_confirmation_split, countP_confirmation_split,
    hnb]
  rfl

/-- Nothing else changes the number. -/
theorem ecart_step (env : Env) {u : Utilisateur} (hu : u.atteint .adherent = true) {t : Int}
    {w : Monde} {e : Happening Appel Instant Db} (h : Seul u t w e) (hlit : ∀ r, ¬ Lit w e r) :
    ecart u t (World.step component (serveur env) w e) = ecart u t w := by
  have heffect := World.step_effect component (serveur env) w e
  generalize World.step component (serveur env) w e = w' at heffect ⊢
  cases heffect with
  | idle => rfl
  | call m =>
      have hnb : (call w.page m).1.nbReservations = w.page.nbReservations := by
        cases m with
        | ngOnInit isLoggedIn => exact absurd rfl (h isLoggedIn)
        | _ => rfl
      simp only [ecart, enRoute, World.react, countP_confirmation_new]
      rw [component, hnb]
  | serve l₁ l₂ q x hlog =>
      obtain ⟨huser, hexp, hnow⟩ := h
      have hcompte := compte_serveur env hu huser hexp hnow q
      have hroute : (l₁ ++ ⟨q, .served (serveur env x q w.server).1⟩ :: l₂).countP confirmation =
          w.log.countP confirmation +
            if q.estReserve && (serveur env x q w.server).1.ok then 1 else 0 := by
        rw [hlog, countP_confirmation_split, countP_confirmation_split]
        rfl
      simp only [ecart, enRoute, hroute, hcompte]
      omega
  | arrive l₁ l₂ q r hlog =>
      have hq := estLecture_of_not_lit hlog hlit
      have hnb := nbReservations_answer w.page q r
      rw [hq, if_neg Bool.false_ne_true] at hnb
      have hroute : w.log.countP confirmation =
          (l₁ ++ ⟨q, .done (some r)⟩ :: l₂).countP confirmation +
            if q.estReserve && r.ok then 1 else 0 := by
        rw [hlog, countP_confirmation_split, countP_confirmation_split]
        rfl
      simp only [ecart, enRoute, World.react, countP_confirmation_new, hroute, component, hnb]
      omega
  | fail => exact absurd h id
  | other db =>
      have hcompte : compte u t db = compte u t w.server := by
        have hfilter := congrArg (fun rs => List.countP (actif (cutoff t)) rs) h
        simp only [List.countP_filter] at hfilter
        simpa only [compte, countActiveForUser, Bool.and_comm] using hfilter
      simp only [ecart, enRoute, hcompte]

/-! ## The one list that is asked for -/

/-- There is one request for the list. -/
def UneLecture (w : Monde) : Prop := (World.ofKind Requete.estLecture w.log).length = 1

/-- The page knows the list. -/
def Lue (w : Monde) : Prop := World.Quiet Requete.estLecture w.log

section Lecture

variable {l₁ l₂ : List (Exchange Requete Response)}

/-- Calls after `ngOnInit` and answers ask for no list. -/
theorem ofKind_estLecture_call (s : LivresList) {m : Appel}
    (hm : ∀ isLoggedIn, m ≠ .ngOnInit isLoggedIn) (l : List (Exchange Requete Response)) :
    World.ofKind Requete.estLecture (l ++ (call s m).2.map Exchange.new) =
      World.ofKind Requete.estLecture l := by
  have hnone : World.ofKind Requete.estLecture
      ((call s m).2.map (Exchange.new : Requete → Exchange Requete Response)) = [] := by
    cases m with
    | ngOnInit isLoggedIn => exact absurd rfl (hm isLoggedIn)
    | _ => rfl
  rw [World.ofKind_append, hnone, List.append_nil]

theorem answer_snd (s : LivresList) (q : Requete) (r : Option Response) : (answer s q r).2 = [] := by
  cases q <;> rfl

theorem ofKind_estLecture_split {q : Requete} (p p' : Phase Response) :
    (World.ofKind Requete.estLecture (l₁ ++ ⟨q, p⟩ :: l₂)).length =
      (World.ofKind Requete.estLecture (l₁ ++ ⟨q, p'⟩ :: l₂)).length := by
  cases hq : q.estLecture with
  | true =>
      rw [World.ofKind_append, World.ofKind_append, World.ofKind_cons_of_pos hq,
        World.ofKind_cons_of_pos hq]
      simp
  | false => rw [World.ofKind_replace hq p p']

theorem quiet_congr {l l' : List (Exchange Requete Response)}
    (h : World.ofKind Requete.estLecture l' = World.ofKind Requete.estLecture l) :
    World.Quiet Requete.estLecture l' ↔ World.Quiet Requete.estLecture l := by
  rw [World.Quiet, World.Quiet, h]

/-- With one request for the list, the list is known exactly when that request is settled. -/
theorem quiet_of_une {q : Requete} (hq : q.estLecture = true) {p : Phase Response}
    (h : (World.ofKind Requete.estLecture (l₁ ++ ⟨q, p⟩ :: l₂)).length = 1) :
    World.Quiet Requete.estLecture (l₁ ++ ⟨q, p⟩ :: l₂) ↔
      (⟨q, p⟩ : Exchange Requete Response).isPending = false := by
  rw [World.ofKind_append, World.ofKind_cons_of_pos hq, List.length_append, List.length_cons] at h
  have h₁ : World.ofKind Requete.estLecture l₁ = [] := List.eq_nil_of_length_eq_zero (by omega)
  have h₂ : World.ofKind Requete.estLecture l₂ = [] := List.eq_nil_of_length_eq_zero (by omega)
  rw [World.Quiet, World.ofKind_append, World.ofKind_cons_of_pos hq, h₁, h₂]
  simp

end Lecture

/-- The answer to the one request makes the list known. -/
theorem lecture_step_of_lit (env : Env) {w : Monde} {e : Happening Appel Instant Db} {r : Response}
    (hune : UneLecture w) (h : Lit w e r) :
    UneLecture (World.step component (serveur env) w e) ∧
      Lue (World.step component (serveur env) w e) := by
  obtain ⟨l₁, l₂, hlog, hstep⟩ := step_of_lit env h
  rw [hstep]
  unfold UneLecture at hune
  rw [hlog, ofKind_estLecture_split (.served r) (.done (some r))] at hune
  exact ⟨hune, (quiet_of_une rfl hune).mpr rfl⟩

/-- Nothing else does, and there stays one request. -/
theorem lecture_step (env : Env) {u : Utilisateur} {t : Int} {w : Monde}
    {e : Happening Appel Instant Db} (hune : UneLecture w) (h : Seul u t w e)
    (hlit : ∀ r, ¬ Lit w e r) :
    UneLecture (World.step component (serveur env) w e) ∧
      (Lue (World.step component (serveur env) w e) ↔ Lue w) := by
  have heffect := World.step_effect component (serveur env) w e
  generalize World.step component (serveur env) w e = w' at heffect ⊢
  unfold UneLecture Lue at *
  cases heffect with
  | idle => exact ⟨hune, Iff.rfl⟩
  | call m =>
      have hsame := ofKind_estLecture_call w.page h w.log
      exact ⟨hsame ▸ hune, quiet_congr hsame⟩
  | serve l₁ l₂ q x hlog =>
      rw [hlog] at hune ⊢
      have hune' := (ofKind_estLecture_split .sent (.served (serveur env x q w.server).1)).symm.trans
        hune
      refine ⟨hune', ?_⟩
      cases hq : q.estLecture with
      | true => rw [quiet_of_une hq hune, quiet_of_une hq hune']; rfl
      | false => exact quiet_congr (World.ofKind_replace hq _ _)
  | arrive l₁ l₂ q r hlog =>
      have hq := estLecture_of_not_lit hlog hlit
      have hsame : World.ofKind Requete.estLecture
          (l₁ ++ ⟨q, .done (some r)⟩ :: l₂ ++ (answer w.page q (some r)).2.map Exchange.new) =
          World.ofKind Requete.estLecture w.log := by
        rw [answer_snd, List.map_nil, List.append_nil, hlog]
        exact World.ofKind_replace hq _ _
      exact ⟨hsame ▸ hune, quiet_congr hsame⟩
  | fail => exact absurd h id
  | other db => exact ⟨hune, Iff.rfl⟩

/-! ## Whole runs -/

/-- Once the list is known, the number stays what it is. -/
theorem ecart_run_of_lue (env : Env) {u : Utilisateur} (hu : u.atteint .adherent = true) {t : Int} :
    ∀ {w : Monde} {es : List (Happening Appel Instant Db)}, UneLecture w → Lue w →
      Along (World.step component (serveur env)) (Seul u t) w es →
      ecart u t (run (World.step component (serveur env)) w es) = ecart u t w ∧
        Along (World.step component (serveur env)) (Fidele u t) w es
  | _, [], _, _, _ => ⟨rfl, trivial⟩
  | w, e :: es, hune, hlue, hes => by
      have hlit : ∀ r, ¬ Lit w e r := by
        rintro r ⟨i, rfl, hget⟩
        have hmem : ⟨.getMesReservations, .served r⟩ ∈ World.ofKind Requete.estLecture w.log :=
          List.mem_filter.mpr ⟨List.mem_of_getElem? hget, rfl⟩
        cases hlue _ hmem
      obtain ⟨hune', hlue'⟩ := lecture_step env hune hes.1 hlit
      obtain ⟨hecart, hfidele⟩ := ecart_run_of_lue env hu hune' (hlue'.mpr hlue) hes.2
      exact ⟨hecart.trans (ecart_step env hu hes.1 hlit), fidele_of_not_lit hlit, hfidele⟩

/-- A run in which the list becomes known ends with the number at zero exactly when the list was
faithful on arrival. -/
theorem ecart_run (env : Env) {u : Utilisateur} (hu : u.atteint .adherent = true) {t : Int}
    {w : Monde} {es : List (Happening Appel Instant Db)} (hune : UneLecture w) (hlue : ¬ Lue w)
    (hes : Along (World.step component (serveur env)) (Seul u t) w es)
    (hfin : Lue (run (World.step component (serveur env)) w es)) :
    ecart u t (run (World.step component (serveur env)) w es) = 0 ↔
      Along (World.step component (serveur env)) (Fidele u t) w es := by
  induction es generalizing w with
  | nil => exact absurd hfin hlue
  | cons e es ih =>
      rw [run_cons, along_cons]
      by_cases hlit : ∃ r, Lit w e r
      · obtain ⟨r, hr⟩ := hlit
        obtain ⟨hune', hlue'⟩ := lecture_step_of_lit env hune hr
        obtain ⟨hecart, hfidele⟩ := ecart_run_of_lue env hu hune' hlue' hes.2
        rw [hecart, ecart_step_of_lit env hr]
        have hone : Fidele u t w e ↔ nombre r + enRoute w = compte u t w.server := by
          constructor
          · exact fun h => h r hr
          · rintro h r' ⟨i, rfl, hget⟩
            obtain ⟨i', heq, hget'⟩ := hr
            cases heq
            cases hget.symm.trans hget'
            exact h
        rw [hone]
        constructor
        · intro hzero
          exact ⟨by omega, hfidele⟩
        · rintro ⟨h, -⟩
          omega
      · have hnot : ∀ r, ¬ Lit w e r := fun r hr => hlit ⟨r, hr⟩
        obtain ⟨hune', hlue'⟩ := lecture_step env hune hes.1 hnot
        rw [ih hune' (fun h => hlue (hlue'.mp h)) hes.2 hfin]
        exact ⟨fun h => ⟨fidele_of_not_lit hnot, h⟩, And.right⟩

/-- The page of a member who is logged in, just opened. -/
def ouverte (db : Db) : Monde :=
  World.react [] (call .initial (.ngOnInit true)) ⟨.initial, db, []⟩

/-- **The counter follows the server exactly when the list of reservations is faithful on arrival**:
at that moment it and the confirmations still on their way tell of as many reservations as the member
has. Then, once nothing is pending, the counter is the number of the member's active reservations, and
it disables the buttons exactly when the server would refuse for the limit. -/
theorem nbReservations_suit_iff (env : Env) (u : Utilisateur) (hu : u.atteint .adherent = true)
    (t : Int) (db : Db) (es : List (Happening Appel Instant Db))
    (hes : Along (World.step component (serveur env)) (Seul u t) (ouverte db) es)
    (hfin : ∀ x ∈ (run (World.step component (serveur env)) (ouverte db) es).log,
      x.isPending = false) :
    let w := run (World.step component (serveur env)) (ouverte db) es
    (w.page.nbReservations = compte u t w.server ∧
      ∀ livre ∈ w.server.livres.rows, ∀ t',
        (w.page.limiteAtteinte = true ↔
          (ReservationController.createForLivre t t' u livre w.server).1 =
            .message 409 "Limite de 3 reservations atteinte")) ↔
      Along (World.step component (serveur env)) (Fidele u t) (ouverte db) es := by
  intro w
  have hune : UneLecture (ouverte db) := rfl
  have hlue : ¬ Lue (ouverte db) := by
    intro h
    have hdone := h (.new .getMesReservations) (List.mem_singleton.mpr rfl)
    cases hdone
  have hroute : enRoute w = 0 := by
    rw [enRoute, List.countP_eq_zero]
    intro x hx
    have hdone := hfin x hx
    unfold Exchange.isPending at hdone
    unfold confirmation
    split
    · next r hr => rw [hr] at hdone; cases hdone
    · exact Bool.false_ne_true
  rw [← ecart_run env hu hune hlue hes fun x hx => hfin x (List.mem_filter.mp hx).1]
  show _ ↔ ecart u t w = 0
  rw [ecart, hroute]
  constructor
  · rintro ⟨hnb, -⟩
    omega
  · intro hzero
    have hnb : w.page.nbReservations = compte u t w.server := by omega
    refine ⟨hnb, fun livre _ t' => ?_⟩
    rw [createForLivre_limite_iff, limiteAtteinte, decide_eq_true_iff, hnb]

/-- Whenever the server looks, it is time 0 and it is the second account of the fixtures. -/
def instant : Instant := ⟨0, 0, some AppFixtures.alice⟩

/-- The member reserves a book after the list has arrived. -/
def listeDAbord : List (Happening Appel Instant Db) :=
  [.serve 0 instant, .arrive 0, .serve 1 instant, .arrive 1, .call (.reserver 1), .serve 2 instant,
    .arrive 2]

/-- The server makes the list, then takes the reservation up; the confirmation arrives first. -/
def confirmationDAbord : List (Happening Appel Instant Db) :=
  [.serve 0 instant, .arrive 0, .serve 1 instant, .call (.reserver 1), .serve 2 instant, .arrive 2,
    .arrive 1]

theorem seul_serve (w : Monde) (i : Nat) : Seul AppFixtures.alice 0 w (.serve i instant) :=
  ⟨rfl, fun _ _ _ => rfl, by decide⟩

theorem seul_reserver (w : Monde) (livreId : Nat) :
    Seul AppFixtures.alice 0 w (.call (.reserver livreId)) := by
  intro isLoggedIn h
  cases h

/-- The counter is right after the first run. -/
theorem nbReservations_listeDAbord :
    let w := run (World.step component (serveur .plain)) (ouverte (AppFixtures.load .plain))
      listeDAbord
    w.page.nbReservations = 1 ∧ w.page.nbReservations = compte AppFixtures.alice 0 w.server := by
  have hseul : Along (World.step component (serveur .plain)) (Seul AppFixtures.alice 0)
      (ouverte (AppFixtures.load .plain)) listeDAbord :=
    ⟨seul_serve _ _, trivial, seul_serve _ _, trivial, seul_reserver _ _, seul_serve _ _, trivial,
      trivial⟩
  have hfidele : Along (World.step component (serveur .plain)) (Fidele AppFixtures.alice 0)
      (ouverte (AppFixtures.load .plain)) listeDAbord := by
    refine ⟨fidele_of_ne_arrive nofun, ?_, fidele_of_ne_arrive nofun, ?_,
      fidele_of_ne_arrive nofun, fidele_of_ne_arrive nofun, ?_, trivial⟩
    · rintro r ⟨i, h, hget⟩
      cases h
      cases hget
    · -- the empty list, and nothing has been reserved
      rintro r ⟨i, h, hget⟩
      cases h
      cases hget
      rfl
    · rintro r ⟨i, h, hget⟩
      cases h
      cases hget
  have hfin : ∀ x ∈ (run (World.step component (serveur .plain))
      (ouverte (AppFixtures.load .plain)) listeDAbord).log, x.isPending = false := by decide
  have hsuit := (nbReservations_suit_iff .plain AppFixtures.alice (by decide) 0 _ listeDAbord hseul
    hfin).mpr hfidele
  exact ⟨by decide, hsuit.1⟩

/-- After the second it says that there is no reservation, and there is one. -/
theorem nbReservations_confirmationDAbord :
    let w := run (World.step component (serveur .plain)) (ouverte (AppFixtures.load .plain))
      confirmationDAbord
    Along (World.step component (serveur .plain)) (Seul AppFixtures.alice 0)
      (ouverte (AppFixtures.load .plain)) confirmationDAbord ∧
    (∀ x ∈ w.log, x.isPending = false) ∧
    w.page.nbReservations = 0 ∧ compte AppFixtures.alice 0 w.server = 1 := by
  refine ⟨?_, by decide, by decide, by decide⟩
  exact ⟨seul_serve _ _, trivial, seul_serve _ _, seul_reserver _ _, seul_serve _ _, trivial,
    trivial, trivial⟩

end Bibliotheque.Client
