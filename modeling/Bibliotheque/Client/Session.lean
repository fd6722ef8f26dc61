import Bibliotheque.Client.AuthService

/-! # What the client shows and who is logged in

Logged out, nothing is stored or shown; logged in, what is shown belongs to the account of the stored
token. `AuthService` breaks this in two ways (`session_incoherent`): a response to a request of an
earlier session is taken over into whatever session there is, and a login keeps on showing the
previous account until the next response.

With tokens that are not empty these are the only two. `session_coherent`: the session is coherent
throughout a run exactly when no response brings a profile to a session that is closed or somebody
else's, nobody logs in over the profile of another account, and the page is not loaded on an empty
token. -/

namespace Bibliotheque.Client

open Lib AuthService

variable {τ α : Type} (empty : τ → Bool) (expired : Int → τ → Bool) (compte : τ → α)
  (profilDe : α → Profil → Prop)

/-- Nothing is shown, or what the server says of the account the token was issued for. -/
def Shows (t : Option τ) (email : String) (roles : List String) : Prop :=
  (email = "" ∧ roles = []) ∨ ∃ t', t = some t' ∧ profilDe (compte t') ⟨email, roles⟩

structure Coherent (s : AuthService τ) : Prop where
  out : s.isLoggedIn = false →
    s.token = none ∧ s.user = none ∧ s.userEmail = "" ∧ s.userRoles = []
  shown : s.isLoggedIn = true → Shows compte profilDe s.token s.userEmail s.userRoles

/-- The token that is stored, if any, is not the empty string. -/
def Filled (s : AuthService τ) : Prop := ∀ t, s.token = some t → empty t = false

/-- The event fits the session: a login that is not refused at once comes when nothing is shown that
is not of its account; a profile arrives in an open session and is of its account; the page is loaded
with a proper token or none. -/
def Fits (s : AuthService τ) : Event τ → Prop
  | .construct => Filled empty s
  | .handleLoginSuccess t => empty t = true ∨ expired s.now t = false →
      Shows compte profilDe (some t) s.userEmail s.userRoles
  | .response i (.user p) => i < s.pending.length →
      s.isLoggedIn = true ∧ Shows compte profilDe s.token p.email p.roles
  | _ => True

/-- The server answers `/user/me` with the account of the token the request carried. -/
def Truthful (s : AuthService τ) : Event τ → Prop
  | .response i (.user p) => ∀ t, s.pending[i]? = some t →
      ∃ t', t = some t' ∧ profilDe (compte t') p
  | _ => True

/-- One session after the other: a login brings a token, and not over an open session of another
account; a profile arrives while a session of the account that asked for it is open. -/
def Orderly (s : AuthService τ) : Event τ → Prop
  | .handleLoginSuccess t => empty t = false ∧
      (s.isLoggedIn = true → ∃ t', s.token = some t' ∧ compte t' = compte t)
  | .response i (.user _) => ∀ t, s.pending[i]? = some (some t) →
      s.isLoggedIn = true ∧ ∃ t', s.token = some t' ∧ compte t' = compte t
  | _ => True

/-- What every event keeps: an open session has a token, and the cached user is the one shown. -/
structure Backed (s : AuthService τ) : Prop where
  token : s.isLoggedIn = true → ∃ t, s.token = some t
  cached : ∀ p, s.user = some p → s.userEmail = p.email ∧ s.userRoles = p.roles

/-! ## One event -/

section Step

variable {compte profilDe}

/-- A closed session with nothing stored is coherent … -/
theorem coherent_of_out {s : AuthService τ} (hlog : s.isLoggedIn = false) (htoken : s.token = none)
    (huser : s.user = none) (hemail : s.userEmail = "") (hroles : s.userRoles = []) :
    Coherent compte profilDe s := by
  refine ⟨fun _ => ⟨htoken, huser, hemail, hroles⟩, ?_⟩
  intro hin
  rw [hlog] at hin
  cases hin

/-- … and backed. -/
theorem backed_of_out {s : AuthService τ} (hlog : s.isLoggedIn = false) (huser : s.user = none) :
    Backed s := by
  constructor
  · intro hin
    rw [hlog] at hin
    cases hin
  · intro p hp
    rw [huser] at hp
    cases hp

theorem coherent_clearSession (s : AuthService τ) : Coherent compte profilDe s.clearSession :=
  coherent_of_out rfl rfl rfl rfl rfl

theorem backed_clearSession (s : AuthService τ) : Backed s.clearSession := backed_of_out rfl rfl

variable {s : AuthService τ}

/-- The page is loaded in a coherent browser: no token means nothing stored at all, and the cached
user is what was shown before. -/
theorem construct_keeps (hb : Backed s) (hc : Coherent compte profilDe s) (hf : Filled empty s) :
    Backed (construct empty expired s) ∧ Coherent compte profilDe (construct empty expired s) := by
  cases htoken : s.token with
  | none =>
      -- an open session has a token, so the one before was closed and had nothing cached
      have hout : s.isLoggedIn = false := by
        cases hlog : s.isLoggedIn with
        | false => rfl
        | true =>
            obtain ⟨t, ht⟩ := hb.token hlog
            rw [htoken] at ht
            cases ht
      obtain ⟨-, huser, -, -⟩ := hc.out hout
      rw [construct_of_none empty expired htoken]
      exact ⟨backed_of_out rfl huser, coherent_of_out rfl htoken huser rfl rfl⟩
  | some t =>
      have hin : s.isLoggedIn = true := by
        cases hlog : s.isLoggedIn with
        | true => rfl
        | false =>
            have hnone := (hc.out hlog).1
            rw [htoken] at hnone
            cases hnone
      rw [construct_of_some empty expired htoken (hf t htoken)]
      split
      · exact ⟨backed_clearSession _, coherent_clearSession _⟩
      · constructor
        · refine ⟨fun _ => ⟨t, htoken⟩, ?_⟩
          intro p hp
          rw [show s.user = some p from hp]
          exact ⟨rfl, rfl⟩
        · refine ⟨fun hout => Bool.noConfusion hout, fun _ => ?_⟩
          cases huser : s.user with
          | none => exact Or.inl ⟨rfl, rfl⟩
          | some p =>
              -- the cached user is what the page showed before it was reloaded
              obtain ⟨hemail, hroles⟩ := hb.cached p huser
              have hshown := hc.shown hin
              rw [hemail, hroles] at hshown
              exact hshown

theorem backed_onResponse (hb : Backed s) (r : Reponse) : Backed (onResponse r s) := by
  cases r with
  | user p =>
      refine ⟨hb.token, ?_⟩
      intro q hq
      obtain rfl := Option.some.inj hq
      exact ⟨rfl, rfl⟩
  | erreur status =>
      simp only [onResponse]
      split
      · exact backed_clearSession s
      · exact hb

/-- Loaded on an empty token, the page leaves it where it is and is logged out. -/
theorem filled_of_construct (hc : Coherent compte profilDe (construct empty expired s)) :
    Filled empty s := by
  intro t htoken
  cases hempty : empty t with
  | false => rfl
  | true =>
      rw [construct_of_empty empty expired htoken hempty] at hc
      have hnone : s.token = none := (hc.out rfl).1
      rw [htoken] at hnone
      cases hnone

theorem backed_step (e : Event τ) (hb : Backed s) (hc : Coherent compte profilDe s)
    (hc' : Coherent compte profilDe (step empty expired s e)) : Backed (step empty expired s e) := by
  cases e with
  | construct =>
      exact (construct_keeps empty expired hb hc (filled_of_construct empty expired hc')).1
  | handleLoginSuccess t =>
      rw [step, handleLoginSuccess_eq]
      split
      · exact ⟨fun _ => ⟨t, rfl⟩, hb.cached⟩
      · split
        · exact backed_of_out rfl rfl
        · exact ⟨fun _ => ⟨t, rfl⟩, hb.cached⟩
  | logout => exact backed_clearSession s
  | getToken =>
      rw [step]
      rcases getToken_snd empty expired s with heq | heq
      · rw [heq]; exact hb
      · rw [heq]; exact backed_clearSession s
  | response i r =>
      rw [step]
      split
      · have hb' : Backed { s with pending := s.pending.eraseIdx i } := ⟨hb.token, hb.cached⟩
        exact backed_onResponse hb' r
      · exact hb
  | tick δ => exact ⟨hb.token, hb.cached⟩

theorem coherent_login (t : τ) :
    Coherent compte profilDe (handleLoginSuccess empty expired t s) ↔
      (empty t = true ∨ expired s.now t = false →
        Shows compte profilDe (some t) s.userEmail s.userRoles) := by
  -- the session is open with the new token, unless that is refused
  have hopen : ∀ pending, Coherent compte profilDe
      { s with token := some t, isLoggedIn := true, pending := pending } ↔
        Shows compte profilDe (some t) s.userEmail s.userRoles := by
    intro pending
    exact ⟨fun h => h.shown rfl, fun h => ⟨fun hout => Bool.noConfusion hout, fun _ => h⟩⟩
  rw [handleLoginSuccess_eq]
  split
  · next hempty =>
    rw [hopen]
    exact ⟨fun h _ => h, fun h => h (Or.inl hempty)⟩
  · next hempty =>
    split
    · next hexp =>
      refine iff_of_true (coherent_of_out rfl rfl rfl rfl rfl) ?_
      rintro (hyes | hgood)
      · exact absurd hyes hempty
      · rw [hgood] at hexp
        cases hexp
    · next hgood =>
      rw [hopen]
      exact ⟨fun h _ => h, fun h => h (Or.inr (Bool.eq_false_iff.mpr hgood))⟩

/-- A profile is stored and shown whatever the session. -/
theorem coherent_onResponse (p : Profil) :
    Coherent compte profilDe (onResponse (.user p) s) ↔
      s.isLoggedIn = true ∧ Shows compte profilDe s.token p.email p.roles := by
  constructor
  · intro h
    cases hlog : s.isLoggedIn with
    | false =>
        -- the profile has just been stored, and a closed session stores none
        have hnone : some p = none := (h.out hlog).2.1
        cases hnone
    | true => exact ⟨rfl, h.shown hlog⟩
  · rintro ⟨hlog, hshown⟩
    refine ⟨?_, fun _ => hshown⟩
    intro hout
    rw [show s.isLoggedIn = false from hout] at hlog
    cases hlog

/-- **Which events keep a session coherent.** -/
theorem coherent_step (e : Event τ) (hb : Backed s) (hc : Coherent compte profilDe s) :
    Coherent compte profilDe (step empty expired s e) ↔
      Fits empty expired compte profilDe s e := by
  cases e with
  | construct =>
      exact ⟨filled_of_construct empty expired, fun hf => (construct_keeps empty expired hb hc hf).2⟩
  | handleLoginSuccess t => exact coherent_login empty expired t
  | logout => exact iff_of_true (coherent_clearSession s) trivial
  | getToken =>
      refine iff_of_true ?_ trivial
      rw [step]
      rcases getToken_snd empty expired s with heq | heq
      · rw [heq]; exact hc
      · rw [heq]; exact coherent_clearSession s
  | response i r =>
      rw [step]
      split
      · next hi =>
        have hc' : Coherent compte profilDe { s with pending := s.pending.eraseIdx i } :=
          ⟨hc.out, hc.shown⟩
        cases r with
        | user p =>
            rw [coherent_onResponse]
            exact ⟨fun h _ => h, fun h => h hi⟩
        | erreur status =>
            refine iff_of_true ?_ trivial
            simp only [onResponse]
            split
            · exact coherent_clearSession _
            · exact hc'
      · next hi =>
        cases r with
        | user p => exact iff_of_true hc fun h => absurd h hi
        | erreur status => exact iff_of_true hc trivial
  | tick δ => exact iff_of_true ⟨hc.out, hc.shown⟩ trivial

/-- Orderly events with a truthful server fit. -/
theorem fits_of_orderly {e : Event τ} (hc : Coherent compte profilDe s) (hf : Filled empty s)
    (htrue : Truthful compte profilDe s e) (hord : Orderly empty compte s e) :
    Fits empty expired compte profilDe s e := by
  cases e with
  | handleLoginSuccess t =>
      intro _
      cases hlog : s.isLoggedIn with
      | false =>
          obtain ⟨-, -, hemail, hroles⟩ := hc.out hlog
          exact Or.inl ⟨hemail, hroles⟩
      | true =>
          obtain ⟨t', ht', hsame⟩ := hord.2 hlog
          rcases hc.shown hlog with hempty | ⟨t'', ht'', hp⟩
          · exact Or.inl hempty
          · rw [ht'] at ht''
            obtain rfl := Option.some.inj ht''
            rw [hsame] at hp
            exact Or.inr ⟨t, rfl, hp⟩
  | response i r =>
      cases r with
      | user p =>
          intro hi
          obtain ⟨t, ht, hp⟩ := htrue _ (List.getElem?_eq_getElem hi)
          obtain ⟨hlog, t', ht', hsame⟩ := hord t (by rw [List.getElem?_eq_getElem hi, ht])
          rw [← hsame] at hp
          exact ⟨hlog, Or.inr ⟨t', ht', hp⟩⟩
      | erreur status => trivial
  | construct => exact hf
  | logout => trivial
  | getToken => trivial
  | tick δ => trivial

theorem filled_step {e : Event τ} (hf : Filled empty s) (hord : Orderly empty compte s e) :
    Filled empty (step empty expired s e) := by
  intro t ht
  cases effect_step empty expired s e with
  | same _ htoken => exact hf t (htoken ▸ ht)
  | ended _ htoken =>
      rw [htoken] at ht
      cases ht
  | opened htoken =>
      rw [htoken] at ht
      obtain rfl := Option.some.inj ht
      exact hord.1
  | refused _ htoken =>
      rw [htoken] at ht
      cases ht
  | resumed hold htoken => exact hf t (by rw [hold, ← htoken, ht])
  | ticked htoken => exact hf t (htoken ▸ ht)

end Step

/-! ## Whole runs -/

/-- **When the client session is coherent.** For every run of the service: it is coherent in every
state if sessions follow each other in order and the server answers truthfully; and it is coherent in
every state exactly when every login and every profile fits the session it comes to. -/
theorem session_coherent (s : AuthService τ) (hb : Backed s) (hc : Coherent compte profilDe s)
    (es : List (Event τ)) :
    (Filled empty s →
      Along (step empty expired)
        (fun s e => Truthful compte profilDe s e ∧ Orderly empty compte s e) s es →
      Always (step empty expired) (Coherent compte profilDe) s es) ∧
    (Always (step empty expired) (Coherent compte profilDe) s es ↔
      Along (step empty expired) (Fits empty expired compte profilDe) s es) := by
  have hexact : Always (step empty expired) (Coherent compte profilDe) s es ↔
      Along (step empty expired) (Fits empty expired compte profilDe) s es :=
    always_iff_along (fun _ e hb hc hc' => backed_step empty expired e hb hc hc')
      (fun _ e hb hc => coherent_step empty expired e hb hc) hb hc
  refine ⟨fun hf hord => hexact.mpr ?_, hexact⟩
  refine along_of_along (I := fun s => Backed s ∧ Coherent compte profilDe s ∧ Filled empty s) ?_ ?_
    ⟨hb, hc, hf⟩ hord
  · rintro s e ⟨hb, hc, hf⟩ ⟨htrue, hord⟩
    have hc' := (coherent_step empty expired e hb hc).mpr
      (fits_of_orderly empty expired hc hf htrue hord)
    exact ⟨backed_step empty expired e hb hc hc', hc', filled_step empty expired hf hord⟩
  · rintro s e ⟨hb, hc, hf⟩ ⟨htrue, hord⟩
    exact fits_of_orderly empty expired hc hf htrue hord

/-- Tokens of two accounts for a concrete run: the account `n` has the tokens `(n, exp)` and a profile
with its own e-mail. -/
abbrev Jeton := Nat × Int

def jetonVide (_ : Jeton) : Bool := false

def jetonExpire (now : Int) (t : Jeton) : Bool := decide (t.2 ≤ now)

def profil (n : Nat) : Profil := ⟨toString n, ["ROLE_ADHERENT", "ROLE_USER"]⟩

def profilDuCompte (n : Nat) (p : Profil) : Prop := p = profil n

theorem coherent_initial : Coherent Prod.fst profilDuCompte (initial (τ := Jeton) 0) :=
  coherent_of_out rfl rfl rfl rfl rfl

theorem backed_initial : Backed (initial (τ := Jeton) 0) := backed_of_out rfl rfl

/-- Login, profile, logout, another login and its profile. -/
theorem session_coherent_enOrdre :
    let es : List (Event Jeton) :=
      [.construct, .handleLoginSuccess (1, 100), .response 0 (.user (profil 1)), .logout,
        .handleLoginSuccess (2, 100), .response 0 (.user (profil 2))]
    Along (step jetonVide jetonExpire)
      (fun s e => Truthful Prod.fst profilDuCompte s e ∧ Orderly jetonVide Prod.fst s e) (initial 0) es ∧
    Always (step jetonVide jetonExpire) (Coherent Prod.fst profilDuCompte) (initial 0) es := by
  intro es
  have hord : Along (step jetonVide jetonExpire)
      (fun s e => Truthful Prod.fst profilDuCompte s e ∧ Orderly jetonVide Prod.fst s e) (initial 0) es := by
    refine ⟨⟨trivial, trivial⟩, ⟨trivial, rfl, ?_⟩, ⟨?_, ?_⟩, ⟨trivial, trivial⟩, ⟨trivial, rfl, ?_⟩,
      ⟨?_, ?_⟩, trivial⟩
    · intro hin
      exact Bool.noConfusion hin
    · intro t ht
      exact ⟨(1, 100), (Option.some.inj ht).symm, rfl⟩
    · intro t ht
      obtain rfl := Option.some.inj (Option.some.inj ht)
      exact ⟨rfl, _, rfl, rfl⟩
    · intro hin
      exact Bool.noConfusion hin
    · intro t ht
      exact ⟨(2, 100), (Option.some.inj ht).symm, rfl⟩
    · intro t ht
      obtain rfl := Option.some.inj (Option.some.inj ht)
      exact ⟨rfl, _, rfl, rfl⟩
  exact ⟨hord, (session_coherent jetonVide jetonExpire Prod.fst profilDuCompte (initial 0)
    backed_initial coherent_initial es).1 (fun _ _ => rfl) hord⟩

/-- A profile that arrives after the logout is stored and shown; and the second account to log in is
shown the profile of the first. The server answers truthfully in both runs. -/
theorem session_incoherent :
    (let es : List (Event Jeton) :=
      [.construct, .handleLoginSuccess (1, 100), .logout, .response 0 (.user (profil 1))]
     let s := run (step jetonVide jetonExpire) (initial 0) es
     Along (step jetonVide jetonExpire) (Truthful Prod.fst profilDuCompte) (initial 0) es ∧
     s.isLoggedIn = false ∧ s.user = some (profil 1) ∧ ¬ Coherent Prod.fst profilDuCompte s) ∧
    (let es : List (Event Jeton) :=
      [.construct, .handleLoginSuccess (1, 100), .response 0 (.user (profil 1)),
        .handleLoginSuccess (2, 100)]
     let s := run (step jetonVide jetonExpire) (initial 0) es
     Along (step jetonVide jetonExpire) (Truthful Prod.fst profilDuCompte) (initial 0) es ∧
     s.token = some (2, 100) ∧ s.userEmail = (profil 1).email ∧
     ¬ Coherent Prod.fst profilDuCompte s) := by
  refine ⟨⟨⟨trivial, trivial, trivial, ?_, trivial⟩, rfl, rfl, ?_⟩,
    ⟨trivial, trivial, ?_, trivial, trivial⟩, rfl, rfl, ?_⟩
  · intro t ht
    exact ⟨(1, 100), (Option.some.inj ht).symm, rfl⟩
  · intro h
    have hnone : some (profil 1) = none := (h.out rfl).2.1
    cases hnone
  · intro t ht
    exact ⟨(1, 100), (Option.some.inj ht).symm, rfl⟩
  · intro h
    rcases h.shown rfl with ⟨hempty, -⟩ | ⟨t, ht, hp⟩
    · exact absurd hempty (by decide)
    · obtain rfl := Option.some.inj ht
      exact absurd (congrArg Profil.email hp) (by decide)

end Bibliotheque.Client
