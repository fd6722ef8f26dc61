import Bibliotheque.Lib.Run

/-! # The session of the front end

`AuthService` with `jwtInterceptor`: what is in `localStorage`, the three signals, the requests to
`/user/me` that have not been answered, and the clock. A request remembers the token the interceptor
put on it.

The tokens are an arbitrary type here. `empty` says which of them is the empty string, which counts as
no token, and `expired` stands for `isTokenExpired`: nothing about the session depends on how a token
is decoded. `JSON.stringify` and `JSON.parse` give back the cached user as it was. -/

namespace Bibliotheque.Client

open Lib

/-- The part of the answer of `/user/me` that the client reads. -/
structure Profil where
  email : String
  roles : List String
  deriving DecidableEq, Repr

/-- The service and what surrounds it. -/
structure AuthService (τ : Type) where
  /-- `localStorage['jwt_token']` -/
  token : Option τ
  /-- `localStorage['user']` -/
  user : Option Profil
  isLoggedIn : Bool
  userEmail : String
  userRoles : List String
  /-- unanswered requests to `/user/me`, with the token each carries -/
  pending : List (Option τ)
  /-- `Date.now()` -/
  now : Int
  deriving DecidableEq, Repr

/-- The response to a request. A request that could not be sent ends in an error without a status. -/
inductive Reponse where
  | user (p : Profil)
  | erreur (status : Option Nat)
  deriving DecidableEq, Repr

namespace AuthService

variable {τ : Type} (empty : τ → Bool) (expired : Int → τ → Bool)

/-- A browser that has never been here. -/
def initial (now : Int) : AuthService τ := ⟨none, none, false, "", [], [], now⟩

def clearSession (s : AuthService τ) : AuthService τ :=
  { s with token := none, user := none, isLoggedIn := false, userEmail := "", userRoles := [] }

def logout (s : AuthService τ) : AuthService τ := s.clearSession

/-- The token, if it is there and not expired; an expired one ends the session. The empty string is no
token and ends nothing. -/
def getToken (s : AuthService τ) : Option τ × AuthService τ :=
  match s.token with
  | none => (none, s)
  | some t =>
      if empty t then (none, s)
      else if expired s.now t then (none, s.clearSession) else (some t, s)

/-- The request goes through `jwtInterceptor`, which asks for the token. -/
def loadUserInfo (s : AuthService τ) : AuthService τ :=
  let r := getToken empty expired s
  { r.2 with pending := r.2.pending ++ [r.1] }

def handleLoginSuccess (t : τ) (s : AuthService τ) : AuthService τ :=
  loadUserInfo empty expired { s with token := some t, isLoggedIn := true }

/-- What the constructor does with the cached user. -/
def showCachedUser (s : AuthService τ) : AuthService τ :=
  match s.user with
  | none => s
  | some u => { s with userEmail := u.email, userRoles := u.roles }

/-- The fields of a new instance: the signals and the requests of an earlier page are gone, what is
stored is still there. -/
def freshPage (s : AuthService τ) : AuthService τ :=
  { s with isLoggedIn := false, userEmail := "", userRoles := [], pending := [] }

/-- The page is loaded. -/
def construct (s : AuthService τ) : AuthService τ :=
  match getToken empty expired s.freshPage with
  | (none, s) => s
  | (some _, s) => loadUserInfo empty expired (showCachedUser { s with isLoggedIn := true })

/-- The callbacks of `loadUserInfo`. -/
def onResponse (r : Reponse) (s : AuthService τ) : AuthService τ :=
  match r with
  | .user p => { s with userEmail := p.email, userRoles := p.roles, user := some p }
  | .erreur status => if status = some 401 ∨ status = some 403 then s.logout else s

/-- What can happen. `response i r` answers the `i`-th unanswered request; `getToken` is also what
every other HTTP request does. -/
inductive Event (τ : Type) where
  | construct
  | handleLoginSuccess (t : τ)
  | logout
  | getToken
  | response (i : Nat) (r : Reponse)
  | tick (δ : Nat)
  deriving DecidableEq, Repr

def step (s : AuthService τ) : Event τ → AuthService τ
  | .construct => construct empty expired s
  | .handleLoginSuccess t => handleLoginSuccess empty expired t s
  | .logout => s.logout
  | .getToken => (getToken empty expired s).2
  | .response i r =>
      if i < s.pending.length then onResponse r { s with pending := s.pending.eraseIdx i } else s
  | .tick δ => { s with now := s.now + δ }

/-- `getToken` leaves the service alone or ends the session. -/
theorem getToken_snd (s : AuthService τ) :
    (getToken empty expired s).2 = s ∨ (getToken empty expired s).2 = s.clearSession := by
  unfold getToken
  split
  · exact Or.inl rfl
  · split
    · exact Or.inl rfl
    · split
      · exact Or.inr rfl
      · exact Or.inl rfl

theorem getToken_of_some {s : AuthService τ} {t : τ} (htoken : s.token = some t) :
    getToken empty expired s =
      if empty t then (none, s)
      else if expired s.now t then (none, s.clearSession) else (some t, s) := by
  simp only [getToken, htoken]

/-- A request is sent with the stored token; if that has expired, the session ends instead and the
request carries none. -/
theorem loadUserInfo_eq {s : AuthService τ} {t : τ} (htoken : s.token = some t) :
    loadUserInfo empty expired s =
      if empty t then { s with pending := s.pending ++ [none] }
      else if expired s.now t then { s.clearSession with pending := s.pending ++ [none] }
      else { s with pending := s.pending ++ [some t] } := by
  rw [loadUserInfo, getToken_of_some empty expired htoken]
  split
  · rfl
  · split <;> rfl

/-- What loading the page does, by what is stored. -/
theorem construct_of_none {s : AuthService τ} (htoken : s.token = none) :
    construct empty expired s = s.freshPage := by
  simp only [construct, getToken, freshPage, htoken]

theorem construct_of_empty {s : AuthService τ} {t : τ} (htoken : s.token = some t)
    (hempty : empty t = true) : construct empty expired s = s.freshPage := by
  simp only [construct, getToken, freshPage, htoken, hempty, if_true]

theorem construct_of_some {s : AuthService τ} {t : τ} (htoken : s.token = some t)
    (hempty : empty t = false) :
    construct empty expired s =
      if expired s.now t then s.freshPage.clearSession
      else
        { s with
          isLoggedIn := true
          userEmail := (s.user.map (·.email)).getD ""
          userRoles := (s.user.map (·.roles)).getD []
          pending := [some t] } := by
  have hget : getToken empty expired s.freshPage =
      if expired s.now t then (none, s.freshPage.clearSession) else (some t, s.freshPage) := by
    rw [getToken_of_some empty expired (show s.freshPage.token = some t from htoken), hempty]
    rfl
  have hload : ∀ s' : AuthService τ, s'.token = some t → s'.now = s.now → s'.pending = [] →
      expired s.now t = false → loadUserInfo empty expired s' = { s' with pending := [some t] } := by
    intro s' htok hnow hpend hexp
    rw [loadUserInfo_eq empty expired htok, hnow, hempty, hexp, hpend]
    rfl
  rw [construct, hget]
  cases hexp : expired s.now t with
  | true => rfl
  | false =>
      cases s with
      | mk token user isLoggedIn userEmail userRoles pending now =>
          cases user with
          | none => exact hload _ htoken rfl rfl hexp
          | some u => exact hload _ htoken rfl rfl hexp

theorem handleLoginSuccess_eq (t : τ) (s : AuthService τ) :
    handleLoginSuccess empty expired t s =
      if empty t then
        { s with token := some t, isLoggedIn := true, pending := s.pending ++ [none] }
      else if expired s.now t then { s.clearSession with pending := s.pending ++ [none] }
      else { s with token := some t, isLoggedIn := true, pending := s.pending ++ [some t] } := by
  rw [handleLoginSuccess, loadUserInfo_eq empty expired rfl]
  rfl

/-- Neither a login nor the clock. -/
def Event.quiet : Event τ → Bool
  | .handleLoginSuccess _ => false
  | .tick _ => false
  | _ => true

/-- What an event can do to the stored token, to `isLoggedIn` and to the clock. -/
inductive Effect (s : AuthService τ) : Event τ → AuthService τ → Prop
  | same {e s'} (hquiet : e.quiet = true) (htoken : s'.token = s.token)
      (hlog : s'.isLoggedIn = s.isLoggedIn) (hnow : s'.now = s.now) : Effect s e s'
  | ended {e s'} (hquiet : e.quiet = true) (htoken : s'.token = none)
      (hlog : s'.isLoggedIn = false) : Effect s e s'
  | opened {t s'} (htoken : s'.token = some t) (hlog : s'.isLoggedIn = true) (hnow : s'.now = s.now)
      (hgood : empty t = false → expired s.now t = false) : Effect s (.handleLoginSuccess t) s'
  | refused {t s'} (hempty : empty t = false) (htoken : s'.token = none)
      (hlog : s'.isLoggedIn = false) : Effect s (.handleLoginSuccess t) s'
  | resumed {t s'} (hold : s.token = some t) (htoken : s'.token = some t)
      (hlog : s'.isLoggedIn = !empty t) (hnow : s'.now = s.now)
      (hgood : empty t = false → expired s.now t = false) : Effect s .construct s'
  | ticked {δ : Nat} {s'} (htoken : s'.token = s.token) (hlog : s'.isLoggedIn = s.isLoggedIn)
      (hnow : s'.now = s.now + δ) : Effect s (.tick δ) s'

theorem effect_construct (s : AuthService τ) :
    Effect empty expired s .construct (construct empty expired s) := by
  cases htoken : s.token with
  | none =>
      rw [construct_of_none empty expired htoken]
      exact .ended rfl htoken rfl
  | some t =>
      cases hempty : empty t with
      | true =>
          rw [construct_of_empty empty expired htoken hempty]
          refine .resumed htoken htoken (by rw [hempty]; rfl) rfl ?_
          intro hfalse
          rw [hempty] at hfalse
          cases hfalse
      | false =>
          rw [construct_of_some empty expired htoken hempty]
          split
          · exact .ended rfl rfl rfl
          · next hgood =>
            exact .resumed htoken htoken (by rw [hempty]; rfl) rfl
              fun _ => Bool.eq_false_iff.mpr hgood

theorem effect_login (t : τ) (s : AuthService τ) :
    Effect empty expired s (.handleLoginSuccess t) (handleLoginSuccess empty expired t s) := by
  rw [handleLoginSuccess_eq]
  split
  · next hempty =>
    refine .opened rfl rfl rfl ?_
    intro hfalse
    rw [hfalse] at hempty
    cases hempty
  · next hempty =>
    split
    · exact .refused (Bool.eq_false_iff.mpr hempty) rfl rfl
    · next hgood => exact .opened rfl rfl rfl fun _ => Bool.eq_false_iff.mpr hgood

/-- Every event has one of the effects. -/
theorem effect_step (s : AuthService τ) (e : Event τ) :
    Effect empty expired s e (step empty expired s e) := by
  cases e with
  | construct => exact effect_construct empty expired s
  | handleLoginSuccess t => exact effect_login empty expired t s
  | logout => exact .ended rfl rfl rfl
  | getToken =>
      rw [step]
      rcases getToken_snd empty expired s with heq | heq
      · rw [heq]; exact .same rfl rfl rfl rfl
      · rw [heq]; exact .ended rfl rfl rfl
  | response i r =>
      rw [step]
      split
      · cases r with
        | user p => exact .same rfl rfl rfl rfl
        | erreur status =>
            simp only [onResponse]
            split
            · exact .ended rfl rfl rfl
            · exact .same rfl rfl rfl rfl
      · exact .same rfl rfl rfl rfl
  | tick δ => exact .ticked rfl rfl rfl

end AuthService

end Bibliotheque.Client
