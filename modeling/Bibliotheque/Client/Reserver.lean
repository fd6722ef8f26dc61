import Bibliotheque.Client.NbReservations
import Bibliotheque.Lib.Keys

/-! # What the page says of a reservation

Beside each book `LivresList` shows how the request for it came out. The text is chosen by
`getMessage`, from the status and from words of the detail, and it stays until the next click on the
button or the next answer about the book. Answers come in any order, and other members, the staff and
the clock go on meanwhile.

`messages_fondes`: whatever is shown, there is a moment of the run at which the server took up a
request for this book and what is shown was so (`Dit`); the answer has come in since, and nothing about
the book after it. `clics_suivis`: no click remains without an outcome, and no button turns for ever. -/

namespace Bibliotheque.Client.LivresList

open Lib ReservationsRepository

/-! ## The server's side -/

/-- What the callbacks of `reserver` write beside the book. -/
def bilan (r : Option Response) : Message :=
  if r.any (·.ok) then ⟨"Reservation effectuee avec succes !", .success⟩
  else ⟨getMessage r, .danger⟩

/-- A member is recognised. -/
def Membre (t : Instant) (u : Utilisateur) : Prop := t.user = some u ∧ u.atteint .adherent = true

/-- Somebody has an active reservation for the book, perhaps the member himself. -/
def Tenu (t : Int) (b : Nat) (db : Db) : Prop :=
  ∃ r ∈ db.reservations.rows, r.livre = b ∧ actif (cutoff t) r = true

/-- **What a message says**: how it stood when the server, at `t` and in the state `db`, took up the
request for the book `b`, and what it made of it. -/
inductive Dit (t : Instant) (b : Nat) (db : Db) : Db → Message → Prop
  | nonConnecte : t.user = none →
      Dit t b db db ⟨"Vous devez etre connecte pour reserver.", .danger⟩
  | nonAutorise (u : Utilisateur) : t.user = some u → u.atteint .adherent = false →
      Dit t b db db ⟨"Vous n'etes pas autorise a effectuer cette action.", .danger⟩
  | manquant (u : Utilisateur) : Membre t u → b = 0 →
      Dit t b db db ⟨"ID du livre manquant", .danger⟩
  | introuvable (u : Utilisateur) : Membre t u → b ∉ db.livres.keys →
      Dit t b db db ⟨"Livre non trouve", .danger⟩
  | limite (u : Utilisateur) : Membre t u → b ∈ db.livres.keys → 3 ≤ compte u t.now db →
      Dit t b db (purgeExpired (cutoff t.now) db).2
        ⟨"Vous avez atteint la limite de 3 reservations simultanees.", .danger⟩
  | emprunte (u : Utilisateur) (l : Livre) : Membre t u → l ∈ db.livres.rows → l.id = b →
      compte u t.now db < 3 → l.emprunt ≠ none →
      Dit t b db (purgeExpired (cutoff t.now) db).2
        ⟨"Ce livre est actuellement emprunte.", .danger⟩
  | reserve (u : Utilisateur) (l : Livre) : Membre t u → l ∈ db.livres.rows → l.id = b →
      compte u t.now db < 3 → l.emprunt = none → Tenu t.now b db →
      Dit t b db (purgeExpired (cutoff t.now) db).2
        ⟨"Ce livre est deja reserve par un autre adherent.", .danger⟩
  | succes (u : Utilisateur) (l : Livre) : Membre t u → l ∈ db.livres.rows → l.id = b →
      compte u t.now db < 3 → l.emprunt = none → ¬ Tenu t.now b db →
      Dit t b db
        (ReservationController.inserer t.now' u.id b (purgeExpired (cutoff t.now) db).2)
        ⟨"Reservation effectuee avec succes !", .success⟩

section Serveur

variable {env : Env} {t : Instant} {b : Nat} {db : Db} {u : Utilisateur} {l : Livre}

/-- The three conflicts are told apart by a word of their text. -/
theorem getMessage_conflit :
    getMessage (some (.message 409 "Limite de 3 reservations atteinte")) =
        "Vous avez atteint la limite de 3 reservations simultanees." ∧
      getMessage (some (.message 409 "Livre deja emprunte")) =
        "Ce livre est actuellement emprunte." ∧
      getMessage (some (.message 409 "Livre deja reserve")) =
        "Ce livre est deja reserve par un autre adherent." := by
  have hlower : ∀ s : String, s.toLower.toList = s.toList.map Char.toLower :=
    fun _ => String.toList_map
  simp only [getMessage, Response.message, Option.map_some, hlower]
  decide

theorem tenu_iff : Tenu t.now b db ↔
    (findActiveByLivre b (cutoff t.now) (purgeExpired (cutoff t.now) db).2).isSome = true := by
  rw [← Option.ne_none_iff_isSome, ne_eq, findActiveByLivre_eq_none, purgeExpired_rows]
  simp only [List.mem_filter, not_forall, Tenu]
  constructor
  · rintro ⟨r, hr, hb, hact⟩
    exact ⟨r, ⟨hr, hact⟩, hb, by simp [hact]⟩
  · rintro ⟨r, ⟨hr, hact⟩, hb, -⟩
    exact ⟨r, hr, hb, hact⟩

theorem dit_createForLivre (hu : Membre t u) (hl : l ∈ db.livres.rows) (hb : l.id = b) :
    Dit t b db (ReservationController.createForLivre t.now t.now' u l db).2
      (bilan (some (ReservationController.createForLivre t.now t.now' u l db).1)) := by
  obtain ⟨hlimite, hemprunte, hreserve⟩ := getMessage_conflit
  have hcount : countActiveForUser u.id (cutoff t.now) (purgeExpired (cutoff t.now) db).2 =
      compte u t.now db := compte_purgeExpired fun _ _ _ => rfl
  have htenu : Tenu t.now b db ↔ _ := tenu_iff
  simp only [ReservationController.createForLivre, hcount, hb]
  split
  · next hcompte =>
    show Dit t b db _ ⟨getMessage _, .danger⟩
    rw [hlimite]
    exact .limite u hu (hb ▸ Table.id_mem_keys hl) hcompte
  · next hcompte =>
    split
    · next hpret =>
      show Dit t b db _ ⟨getMessage _, .danger⟩
      rw [hemprunte]
      exact .emprunte u l hu hl hb (by omega) (Option.ne_none_iff_isSome.mpr hpret)
    · next hpret =>
      have hnull : l.emprunt = none := by simpa using hpret
      split
      · next ht =>
        show Dit t b db _ ⟨getMessage _, .danger⟩
        rw [hreserve]
        exact .reserve u l hu hl hb (by omega) hnull (htenu.mpr ht)
      · next ht => exact .succes u l hu hl hb (by omega) hnull (mt htenu.mp ht)

/-- The answer of the server, as the page puts it, says how it stood. -/
theorem dit_serveur (hid : ∀ n : Nat, env.entityId (.int n) = some n) :
    Dit t b db (serveur env t (.reserverLivre b) db).2
      (bilan (some (serveur env t (.reserverLivre b) db).1)) := by
  rw [serveur, handle_eq_dispatch]
  simp only [Requete.api, dispatch]
  cases huser : t.user with
  | none => exact .nonConnecte huser
  | some u =>
      rw [asAdherent]
      split
      · next hrole =>
        have hkey : (Json.obj [("livreId", .int b)]).key "livreId" = .int b := rfl
        simp only [ReservationController.create, hkey, hid]
        split
        · next hb => exact .manquant u ⟨huser, hrole⟩ (by simpa [Json.truthy] using hb)
        · cases hfind : db.livres.find? b with
          | none =>
              refine .introuvable u ⟨huser, hrole⟩ ?_
              rw [← Table.isSome_find?, hfind]
              exact Bool.false_ne_true
          | some l =>
              obtain ⟨hl, hlb⟩ := db.livres.find?_eq_some.mp hfind
              exact dit_createForLivre ⟨huser, hrole⟩ hl hlb
      · next hrole => exact .nonAutorise u huser (by simpa using hrole)

end Serveur

/-! ## The page's side -/

@[simp] theorem messages_onReserve (s : LivresList) (b : Nat) (r : Option Response) :
    (s.onReserve b r).messages = Function.update s.messages b (some (bilan r)) := by
  unfold onReserve bilan
  split
  · rfl
  · rfl

theorem reservationEnCours_onReserve (s : LivresList) (b : Nat) (r : Option Response) :
    (s.onReserve b r).reservationEnCours = none := by
  unfold onReserve
  split
  · rfl
  · rfl

@[simp] theorem messages_onLivres (s : LivresList) (r : Option Response) :
    (s.onLivres r).messages = s.messages := by
  unfold onLivres
  split
  · rfl
  · rfl

@[simp] theorem messages_onReservations (s : LivresList) (r : Option Response) :
    (s.onReservations r).messages = s.messages := by
  unfold onReservations
  split
  · rfl
  · rfl

/-- Only the answers about a book write beside it … -/
theorem messages_answer {q : Requete} {b : Nat} (hq : q ≠ .reserverLivre b) (s : LivresList)
    (r : Option Response) : (answer s q r).1.messages b = s.messages b := by
  cases q with
  | reserverLivre b' =>
      have hne : b ≠ b' := fun heq => hq (heq ▸ rfl)
      simp [answer, Function.update_of_ne hne]
  | _ => simp [answer]

/-- … and only a click on its button wipes it. -/
theorem messages_call {m : Appel} {b : Nat} (hm : m ≠ .reserver b) (s : LivresList) :
    (call s m).1.messages b = s.messages b := by
  cases m with
  | ngOnInit isLoggedIn => cases isLoggedIn <;> rfl
  | reserver b' =>
      have hne : b ≠ b' := fun heq => hm (heq ▸ rfl)
      simp [call, setMessage, Function.update_of_ne hne]
  | _ => rfl

theorem reservationEnCours_answer {q : Requete} (hq : ∀ b, q ≠ .reserverLivre b) (s : LivresList)
    (r : Option Response) : (answer s q r).1.reservationEnCours = s.reservationEnCours := by
  cases q with
  | reserverLivre b => exact absurd rfl (hq b)
  | getLivres | rechercherLivres =>
      simp only [answer, onLivres]
      split
      · rfl
      · rfl
  | getMesReservations =>
      simp only [answer, onReservations]
      split
      · rfl
      · rfl
  | _ => rfl

/-! ## Runs -/

/-- A request for the book is settled: it is answered by `r`, or it is lost. -/
def Solde (b : Nat) (r : Option Response) (w : Monde) : Happening Appel Instant Db → Prop
  | .arrive i => ∃ a, w.log[i]? = some ⟨.reserverLivre b, .served a⟩ ∧ r = some a
  | .fail i => ∃ x, w.log[i]? = some x ∧ x.request = .reserverLivre b ∧ x.isPending = true ∧ r = none
  | _ => False

/-- The button of the book is clicked, or a request for it is settled. -/
def Concerne (b : Nat) (w : Monde) (e : Happening Appel Instant Db) : Prop :=
  e = .call (.reserver b) ∨ ∃ r, Solde b r w e

section Step

variable {env : Env} {b : Nat} {w : Monde} {e : Happening Appel Instant Db}

theorem messages_of_solde {r : Option Response} (h : Solde b r w e) :
    (World.step component (serveur env) w e).page.messages b = some (bilan r) := by
  cases e with
  | arrive i =>
      obtain ⟨a, hget, rfl⟩ := h
      simp [World.step, World.react, hget, component, answer]
  | fail i =>
      obtain ⟨x, hget, hq, hx, rfl⟩ := h
      simp [World.step, World.react, hget, hx, hq, component, answer]
  | _ => exact h.elim

theorem messages_of_not_concerne (h : ¬ Concerne b w e) :
    (World.step component (serveur env) w e).page.messages b = w.page.messages b := by
  have heffect := World.step_effect component (serveur env) w e
  generalize World.step component (serveur env) w e = w' at heffect ⊢
  cases heffect with
  | idle => rfl
  | call m =>
      refine messages_call ?_ _
      rintro rfl
      exact h (Or.inl rfl)
  | serve l₁ l₂ q t hlog => rfl
  | arrive l₁ l₂ q a hlog =>
      refine messages_answer ?_ _ _
      rintro rfl
      exact h (Or.inr ⟨some a, a, hlog ▸ World.getElem?_split, rfl⟩)
  | fail l₁ l₂ x hlog hx =>
      refine messages_answer ?_ _ _
      intro hq
      exact h (Or.inr ⟨none, x, hlog ▸ World.getElem?_split, hq, hx, rfl⟩)
  | other db => rfl

/-- A message comes from the settling of a request for the book, and stays while nothing concerns the
book. -/
theorem messages_step {m : Message}
    (h : (World.step component (serveur env) w e).page.messages b = some m) :
    (∃ r, Solde b r w e ∧ bilan r = m) ∨ w.page.messages b = some m ∧ ¬ Concerne b w e := by
  by_cases hc : Concerne b w e
  · rcases hc with rfl | ⟨r, hr⟩
    · -- a click wipes what stood there
      have hnone : (World.step component (serveur env) w (.call (.reserver b))).page.messages b = none :=
        Function.update_self ..
      rw [hnone] at h
      cases h
    · rw [messages_of_solde hr, Option.some.injEq] at h
      exact Or.inl ⟨r, hr, h⟩
  · rw [messages_of_not_concerne hc] at h
    exact Or.inr ⟨h, hc⟩

/-- A request that is taken up leaves the server as the route does. -/
theorem server_of_sent {i : Nat} {q : Requete} (hsent : w.log[i]? = some ⟨q, .sent⟩) (t : Instant) :
    (World.step component (serveur env) w (.serve i t)).server = (serveur env t q w.server).2 := by
  simp [World.step, hsent]

end Step

/-- The page as it opens, and a server in any state. -/
def ouverte (db : Db) : Monde := ⟨initial, db, []⟩

/-- **Every message is founded.** Take any run: any clicks, any order in which requests are taken up,
answered and lost, any other users and changes of who is logged in. If a message stands beside a book
at the end, it was written when a request for the book was settled, and nothing has concerned the book
since. If that request was not lost, the server had taken it up at an earlier moment of the run, and
the message says what was so at that moment and what the server did. -/
theorem messages_fondes {env : Env} (hid : ∀ n : Nat, env.entityId (.int n) = some n) {db : Db}
    {es : List (Happening Appel Instant Db)} {b : Nat} {m : Message}
    (h : (run (World.step component (serveur env)) (ouverte db) es).page.messages b = some m) :
    ∃ es₁ e es₂, es = es₁ ++ e :: es₂ ∧
      Along (World.step component (serveur env)) (fun w e => ¬ Concerne b w e)
        (run (World.step component (serveur env)) (ouverte db) (es₁ ++ [e])) es₂ ∧
      ((Solde b none (run (World.step component (serveur env)) (ouverte db) es₁) e ∧
          m = ⟨"Une erreur est survenue. Veuillez reessayer.", .danger⟩) ∨
        ∃ i es₀ t es', e = .arrive i ∧ es₁ = es₀ ++ .serve i t :: es' ∧
          (run (World.step component (serveur env)) (ouverte db) es₀).log[i]? =
            some ⟨.reserverLivre b, .sent⟩ ∧
          Dit t b (run (World.step component (serveur env)) (ouverte db) es₀).server
            (run (World.step component (serveur env)) (ouverte db) (es₀ ++ [.serve i t])).server
            m) := by
  have hsince := run_since (R := fun w : Monde => w.page.messages b = some m)
    (G := fun w e => ∃ r, Solde b r w e ∧ bilan r = m) (T := Concerne b) (fun _ _ => messages_step) h
  rcases hsince with hstart | ⟨es₁, e, es₂, rfl, ⟨r, hr, rfl⟩, hquiet⟩
  · cases hstart
  refine ⟨es₁, e, es₂, rfl, by rwa [run_append], ?_⟩
  cases e with
  | arrive i =>
      obtain ⟨a, hget, rfl⟩ := hr
      rcases World.served_provenance hget with hstart | ⟨es₀, t, es', rfl, hsent, rfl⟩
      · cases hstart
      · refine Or.inr ⟨i, es₀, t, es', rfl, rfl, hsent, ?_⟩
        rw [run_append, run_cons, run_nil, server_of_sent hsent]
        exact dit_serveur hid
  | fail i =>
      have hnone : r = none := hr.choose_spec.2.2.2
      subst hnone
      exact Or.inl ⟨hr, rfl⟩
  | _ => exact hr.elim

/-- Alice clicks, is served and answered. -/
theorem messages_fondes_alice :
    let es : List (Happening Appel Instant Db) :=
      [.call (.reserver 1), .serve 0 ⟨0, 0, some AppFixtures.alice⟩, .arrive 0]
    let db := AppFixtures.load .plain
    let m : Message := ⟨"Reservation effectuee avec succes !", .success⟩
    (run (World.step component (serveur .plain)) (ouverte db) es).page.messages 1 = some m ∧
    ∃ es₁ e es₂, es = es₁ ++ e :: es₂ ∧
      Along (World.step component (serveur .plain)) (fun w e => ¬ Concerne 1 w e)
        (run (World.step component (serveur .plain)) (ouverte db) (es₁ ++ [e])) es₂ ∧
      ((Solde 1 none (run (World.step component (serveur .plain)) (ouverte db) es₁) e ∧
          m = ⟨"Une erreur est survenue. Veuillez reessayer.", .danger⟩) ∨
        ∃ i es₀ t es', e = .arrive i ∧ es₁ = es₀ ++ .serve i t :: es' ∧
          (run (World.step component (serveur .plain)) (ouverte db) es₀).log[i]? =
            some ⟨.reserverLivre 1, .sent⟩ ∧
          Dit t 1 (run (World.step component (serveur .plain)) (ouverte db) es₀).server
            (run (World.step component (serveur .plain)) (ouverte db) (es₀ ++ [.serve i t])).server
            m) := by
  have hid : ∀ n : Nat, Env.plain.entityId (.int n) = some n := fun _ => rfl
  have hshown : (run (World.step component (serveur .plain)) (ouverte (AppFixtures.load .plain))
      [.call (.reserver 1), .serve 0 ⟨0, 0, some AppFixtures.alice⟩, .arrive 0]).page.messages 1 =
      some ⟨"Reservation effectuee avec succes !", .success⟩ := by decide
  exact ⟨hshown, messages_fondes hid hshown⟩

/-! ## Clicks and their outcomes -/

/-- Every book for which a request has been sent has one pending or an outcome beside it; and where a
button turns, a request for the book is pending and nothing stands beside it. -/
structure Suivi (w : Monde) : Prop where
  issue : ∀ b, .reserverLivre b ∈ World.requests w.log ↔
    .reserverLivre b ∈ World.pending w.log ∨ (w.page.messages b).isSome = true
  enCours : ∀ b, w.page.reservationEnCours = some b →
    .reserverLivre b ∈ World.pending w.log ∧ w.page.messages b = none

namespace Suivi

variable {w w' : Monde} {env : Env}

theorem congr (h : Suivi w)
    (hrequests : ∀ b,
      .reserverLivre b ∈ World.requests w'.log ↔ .reserverLivre b ∈ World.requests w.log)
    (hpending : ∀ b,
      .reserverLivre b ∈ World.pending w'.log ↔ .reserverLivre b ∈ World.pending w.log)
    (hmessages : w'.page.messages = w.page.messages)
    (henCours : w'.page.reservationEnCours = w.page.reservationEnCours) : Suivi w' where
  issue := by
    intro b
    rw [hrequests, hpending, hmessages]
    exact h.issue b
  enCours := by
    intro b hb
    rw [hpending, hmessages]
    exact h.enCours b (henCours ▸ hb)

theorem call (h : Suivi w) (m : Appel) : Suivi (w.react w.log (LivresList.call w.page m)) := by
  cases m with
  | reserver b =>
      constructor
      · intro b'
        by_cases hb : b' = b
        · subst hb
          simp [LivresList.call]
        · simpa [LivresList.call, setMessage, Function.update_of_ne hb, hb] using h.issue b'
      · intro b' hb
        obtain rfl : b = b' := Option.some.inj hb
        exact ⟨by simp [LivresList.call], Function.update_self ..⟩
  | ngOnInit isLoggedIn =>
      cases isLoggedIn with
      | true => exact h.congr (by simp [LivresList.call]) (by simp [LivresList.call]) rfl rfl
      | false => exact h.congr (by simp [LivresList.call]) (by simp [LivresList.call]) rfl rfl
  | _ => exact h.congr (by simp [LivresList.call]) (by simp [LivresList.call]) rfl rfl

/-- A request for a book is settled: the outcome is shown, and no button turns. -/
theorem reponse (h : Suivi w) {l₁ l₂ : List (Exchange Requete Response)}
    {x : Exchange Requete Response} (hlog : w.log = l₁ ++ x :: l₂) (hx : x.isPending = true)
    (r : Option Response) :
    Suivi (w.react (l₁ ++ ⟨x.request, .done r⟩ :: l₂) (answer w.page x.request r)) := by
  have hpending : World.pending w.log = World.pending l₁ ++ x.request :: World.pending l₂ := by
    rw [hlog, World.pending_append, World.pending_cons_of_pending hx]
  by_cases hq : ∃ b, x.request = .reserverLivre b
  · obtain ⟨b, hb⟩ := hq
    rw [hb] at hpending ⊢
    constructor
    · intro b'
      by_cases hb' : b' = b
      · subst hb'
        simp [answer]
      · have hold := h.issue b'
        rw [hpending, hlog, World.requests_append, World.requests_cons, hb] at hold
        simpa [answer, Function.update_of_ne hb', hb'] using hold
    · intro b' hb'
      have hnone : (answer w.page (.reserverLivre b) r).1.reservationEnCours = none :=
        reservationEnCours_onReserve ..
      rw [World.page_react, hnone] at hb'
      cases hb'
  · have hne : ∀ b, x.request ≠ .reserverLivre b := fun b hb => hq ⟨b, hb⟩
    refine h.congr ?_ ?_ ?_ (reservationEnCours_answer hne _ _)
    · intro b
      simp [hlog, answer_snd]
    · intro b
      simp [hpending, answer_snd, (hne b).symm]
    · funext b
      exact messages_answer (hne b) _ _

theorem step (h : Suivi w) (e : Happening Appel Instant Db) :
    Suivi (World.step component (serveur env) w e) := by
  have heffect := World.step_effect component (serveur env) w e
  generalize World.step component (serveur env) w e = w' at heffect ⊢
  cases heffect with
  | idle => exact h
  | call m => exact h.call m
  | serve l₁ l₂ q t hlog => exact h.congr (by simp [hlog]) (by simp [hlog]) rfl rfl
  | arrive l₁ l₂ q a hlog => exact h.reponse hlog rfl (some a)
  | fail l₁ l₂ x hlog hx => exact h.reponse hlog hx none
  | other db => exact h.congr (fun _ => Iff.rfl) (fun _ => Iff.rfl) rfl rfl

end Suivi

/-- **No click remains without an outcome.** In every state of every run, every book for which a
request has been sent has one pending or its outcome beside it, and a button turns only while a request
for its book is pending and shows no older outcome meanwhile. -/
theorem clics_suivis (env : Env) (db : Db) (es : List (Happening Appel Instant Db)) :
    Always (World.step component (serveur env)) Suivi (ouverte db) es := by
  have hes : Along (World.step component (serveur env)) (fun _ _ => True) (ouverte db) es :=
    along_of_forall fun _ _ => trivial
  refine always_of_along (fun w e h _ => h.step e) ?_ hes
  constructor
  · intro b
    simp [ouverte, initial, World.requests, World.pending]
  · intro b hb
    cases hb

end Bibliotheque.Client.LivresList
