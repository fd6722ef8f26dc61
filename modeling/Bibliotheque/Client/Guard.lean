import Bibliotheque.Client.AuthService
import Bibliotheque.Client.Token

/-! # The guard of the protected routes

`authGuard` asks `isLoggedIn`; the requests behind the route ask `getToken`, which looks at the token
and the clock. The two part when a token expires and nobody asks for it: until the next request the
guard lets everybody through (`guard_perime`). And a login with an empty token opens a session that
has none.

`authGuard_agrees`: they agree throughout a run exactly when the clock does not pass the expiry of the
token of an open session, and every login brings a token. -/

namespace Bibliotheque.Client

open Lib JsString AuthService

/-- The route is activated; otherwise the router goes to `/login`. -/
def authGuard {τ : Type} (s : AuthService τ) : Bool := s.isLoggedIn

section Generic

variable {τ : Type} (empty : τ → Bool) (expired : Int → τ → Bool)

/-- The guard lets through exactly when `getToken` gives a token. -/
def Agree (s : AuthService τ) : Prop :=
  authGuard s = true ↔ ∃ t, (getToken empty expired s).1 = some t

/-- The token of an open session is there to be used. -/
def Usable (s : AuthService τ) : Prop :=
  s.isLoggedIn = true → ∀ t, s.token = some t → empty t = false ∧ expired s.now t = false

/-- An open session has a token, and a token that is not empty has an open session. -/
structure Paired (s : AuthService τ) : Prop where
  token : s.isLoggedIn = true → ∃ t, s.token = some t
  opened : ∀ t, s.token = some t → empty t = false → s.isLoggedIn = true

/-- Time does not pass the expiry of the token of an open session, and a login brings a token. -/
def Fresh (s : AuthService τ) : Event τ → Prop
  | .handleLoginSuccess t => empty t = false
  | .tick δ => s.isLoggedIn = true → ∀ t, s.token = some t → expired (s.now + δ) t = false
  | _ => True

variable {empty expired} {s : AuthService τ}

/-- When `getToken` gives a token. -/
theorem getToken_fst (t : τ) :
    (getToken empty expired s).1 = some t ↔
      s.token = some t ∧ empty t = false ∧ expired s.now t = false := by
  cases htoken : s.token with
  | none => simp [getToken, htoken]
  | some t' =>
      rw [getToken_of_some empty expired htoken]
      constructor
      · intro hget
        split_ifs at hget with hempty hexp
        obtain rfl := Option.some.inj hget
        exact ⟨rfl, Bool.eq_false_iff.mpr hempty, Bool.eq_false_iff.mpr hexp⟩
      · rintro ⟨heq, hempty, hexp⟩
        obtain rfl := Option.some.inj heq
        rw [hempty, hexp]
        rfl

theorem agree_iff (hp : Paired empty s) : Agree empty expired s ↔ Usable empty expired s := by
  constructor
  · intro hagree hlog t ht
    obtain ⟨t', ht'⟩ := hagree.mp hlog
    obtain ⟨htoken, hgood⟩ := (getToken_fst t').mp ht'
    rw [ht] at htoken
    obtain rfl := Option.some.inj htoken
    exact hgood
  · intro husable
    constructor
    · intro hlog
      obtain ⟨t, ht⟩ := hp.token hlog
      exact ⟨t, (getToken_fst t).mpr ⟨ht, husable hlog t ht⟩⟩
    · rintro ⟨t, ht⟩
      obtain ⟨htoken, hempty, -⟩ := (getToken_fst t).mp ht
      exact hp.opened t htoken hempty

/-! ## One event -/

theorem Paired.congr {s' : AuthService τ} (hp : Paired empty s) (htoken : s'.token = s.token)
    (hlog : s'.isLoggedIn = s.isLoggedIn) : Paired empty s' := by
  constructor
  · rw [htoken, hlog]
    exact hp.token
  · rw [htoken, hlog]
    exact hp.opened

theorem paired_of_out (htoken : s.token = none) (hlog : s.isLoggedIn = false) : Paired empty s := by
  constructor
  · intro hin
    rw [hlog] at hin
    cases hin
  · intro t ht
    rw [htoken] at ht
    cases ht

theorem usable_of_out (hlog : s.isLoggedIn = false) : Usable empty expired s := by
  intro hin
  rw [hlog] at hin
  cases hin

/-- Whatever happens, a session and its token come and go together. -/
theorem paired_step (e : Event τ) (hp : Paired empty s) : Paired empty (step empty expired s e) := by
  cases effect_step empty expired s e with
  | same _ htoken hlog => exact hp.congr htoken hlog
  | ended _ htoken hlog => exact paired_of_out htoken hlog
  | opened htoken hlog => exact ⟨fun _ => ⟨_, htoken⟩, fun _ _ _ => hlog⟩
  | refused _ htoken hlog => exact paired_of_out htoken hlog
  | resumed hold htoken hlog =>
      refine ⟨fun _ => ⟨_, htoken⟩, ?_⟩
      intro t ht hempty
      rw [htoken] at ht
      obtain rfl := Option.some.inj ht
      rw [hlog, hempty]
      rfl
  | ticked htoken hlog => exact hp.congr htoken hlog

theorem fresh_of_quiet {e : Event τ} (hquiet : e.quiet = true) : Fresh empty expired s e := by
  cases e with
  | handleLoginSuccess t => cases hquiet
  | tick δ => cases hquiet
  | construct => trivial
  | logout => trivial
  | getToken => trivial
  | response i r => trivial

/-- **Which events keep the token of the session usable.** -/
theorem usable_step (e : Event τ) (hu : Usable empty expired s) :
    Usable empty expired (step empty expired s e) ↔ Fresh empty expired s e := by
  cases effect_step empty expired s e with
  | same hquiet htoken hlog hnow =>
      refine iff_of_true ?_ (fresh_of_quiet hquiet)
      rw [Usable, htoken, hlog, hnow]
      exact hu
  | ended hquiet _ hlog => exact iff_of_true (usable_of_out hlog) (fresh_of_quiet hquiet)
  | refused hempty _ hlog => exact iff_of_true (usable_of_out hlog) hempty
  | opened htoken hlog hnow hgood =>
      constructor
      · intro h
        exact (h hlog _ htoken).1
      · intro hempty _ t ht
        rw [htoken] at ht
        obtain rfl := Option.some.inj ht
        exact ⟨hempty, by rw [hnow]; exact hgood hempty⟩
  | resumed hold htoken hlog hnow hgood =>
      refine iff_of_true ?_ trivial
      intro hin t ht
      have heq := Option.some.inj (htoken.symm.trans ht)
      rw [heq] at hlog hgood
      -- the page came up logged in, so the token is not empty
      have hempty : empty t = false := by
        rw [hin] at hlog
        simpa using hlog.symm
      exact ⟨hempty, by rw [hnow]; exact hgood hempty⟩
  | ticked htoken hlog hnow =>
      rw [Usable, htoken, hlog, hnow]
      constructor
      · intro h hin t ht
        exact (h hin t ht).2
      · intro h hin t ht
        exact ⟨(hu hin t ht).1, h hin t ht⟩

theorem agree_step (e : Event τ) (hp : Paired empty s) (ha : Agree empty expired s) :
    Agree empty expired (step empty expired s e) ↔ Fresh empty expired s e := by
  rw [agree_iff (paired_step e hp)]
  exact usable_step e ((agree_iff hp).mp ha)

theorem paired_initial (now : Int) : Paired empty (initial (τ := τ) now) :=
  paired_of_out rfl rfl

theorem agree_initial (now : Int) : Agree empty expired (initial (τ := τ) now) :=
  (agree_iff (paired_initial now)).mpr (usable_of_out rfl)

/-- In every state that can be reached, a session and its token go together. -/
theorem paired_run (now : Int) (es : List (Event τ)) :
    Paired empty (run (step empty expired) (initial now) es) :=
  (always_of_along (fun _ e hp _ => paired_step e hp) (paired_initial now)
    (along_of_forall (p := fun _ => True) fun _ _ => trivial)).last

end Generic

/-! ## The tokens of the application -/

/-- `!token`. -/
def vide (t : JsString) : Bool := t.isEmpty

/-- The answer of `isTokenExpired`, which never throws. -/
def perime (now : Int) (t : JsString) : Bool := (isTokenExpired t now).toOption.getD true

theorem perime_eq_false (now : Int) (t : JsString) :
    perime now t = false ↔
      ∃ exp, expires? t = some exp ∧ exp.le (Double.round (now / 1000)).floor = false := by
  rw [perime, isTokenExpired_eq]
  show (expires? t).elim true _ = false ↔ _
  cases expires? t with
  | none => simp
  | some exp => simp

/-- A token that has not expired has three parts, and is not empty. -/
theorem length_of_perime {now : Int} {t : JsString} (h : perime now t = false) :
    (t.splitOn (unit '.')).length = 3 ∧ vide t = false := by
  obtain ⟨exp, hexp, -⟩ := (perime_eq_false now t).mp h
  have hparts : (t.splitOn (unit '.')).length = 3 := by
    by_contra hne
    rw [expires?_of_length hne] at hexp
    cases hexp
  refine ⟨hparts, ?_⟩
  cases t with
  | nil => exact absurd hparts (by decide)
  | cons c t => rfl

/-- **When the guard and the token check agree.** In every state of every run: `getToken` gives a
token exactly when one with three parts and a future `exp` is stored; the guard agrees with it exactly
when the token of an open session has not expired. They agree in every state of a run exactly when
time never passes the expiry of the token of an open session and no login brings an empty token. -/
theorem authGuard_agrees (now : Int) (es : List (Event JsString)) :
    let s := run (step vide perime) (initial now) es
    (∀ t, (getToken vide perime s).1 = some t ↔
      s.token = some t ∧ (t.splitOn (unit '.')).length = 3 ∧
        ∃ exp, expires? t = some exp ∧ exp.le (Double.round (s.now / 1000)).floor = false) ∧
    (Agree vide perime s ↔
      (s.isLoggedIn = true → ∀ t, s.token = some t → perime s.now t = false)) ∧
    (Always (step vide perime) (Agree vide perime) (initial now) es ↔
      Along (step vide perime) (Fresh vide perime) (initial now) es) := by
  intro s
  refine ⟨?_, ?_, ?_⟩
  · intro t
    rw [getToken_fst, ← perime_eq_false]
    constructor
    · rintro ⟨htoken, -, hgood⟩
      exact ⟨htoken, (length_of_perime hgood).1, hgood⟩
    · rintro ⟨htoken, -, hgood⟩
      exact ⟨htoken, (length_of_perime hgood).2, hgood⟩
  · rw [agree_iff (paired_run now es)]
    constructor
    · intro h hin t ht
      exact (h hin t ht).2
    · intro h hin t ht
      exact ⟨(length_of_perime (h hin t ht)).2, h hin t ht⟩
  · exact always_iff_along (fun _ e hp _ _ => paired_step e hp) (fun _ e hp ha => agree_step e hp ha)
      (paired_initial now) (agree_initial now)

/-- A token that expires after a quarter of an hour. -/
def jetonCourt : JsString := jwt [unit 'h'] (utf8 chargeUtile.chars) [unit 's']

theorem perime_jetonCourt (now : TimeValue) :
    perime now.ms jetonCourt = decide (900 ≤ now.ms / 1000) := by
  rw [perime, jetonCourt,
    isTokenExpired_jwt (by decide) (by decide) chargeUtile_exp (by norm_num) now]
  rfl

/-- The session that a login with it opens. -/
def connecte : AuthService JsString :=
  ⟨some jetonCourt, none, true, "", [], [some jetonCourt], 0⟩

theorem run_connecte :
    run (step vide perime) (initial 0) [.construct, .handleLoginSuccess jetonCourt] = connecte := by
  have hgood : perime 0 jetonCourt = false := perime_jetonCourt ⟨0, by decide⟩
  have hlogin : ∀ s : AuthService JsString, s.now = 0 →
      handleLoginSuccess vide perime jetonCourt s =
        { s with token := some jetonCourt, isLoggedIn := true,
                 pending := s.pending ++ [some jetonCourt] } := by
    intro s hnow
    rw [handleLoginSuccess_eq, hnow, hgood]
    rfl
  rw [run_cons, run_cons, run_nil, step, step, construct_of_none vide perime rfl, hlogin _ rfl]
  rfl

theorem authGuard_agrees_aTemps :
    Always (step vide perime) (Agree vide perime) (initial 0)
      [.construct, .handleLoginSuccess jetonCourt, .tick 899999] := by
  refine (authGuard_agrees 0 _).2.2.mpr ⟨trivial, rfl, ?_, trivial⟩
  show Fresh vide perime
    (run (step vide perime) (initial 0) [.construct, .handleLoginSuccess jetonCourt]) (.tick 899999)
  rw [run_connecte]
  intro _ t ht
  obtain rfl := Option.some.inj ht
  exact perime_jetonCourt ⟨899999, by decide⟩

/-- After the token has expired, and until the next request, the guard lets through while `getToken`
gives none. The same after a login with an empty token. -/
theorem guard_perime :
    (let s := run (step vide perime) (initial 0)
      [.construct, .handleLoginSuccess jetonCourt, .tick 900000]
     authGuard s = true ∧ (getToken vide perime s).1 = none ∧ ¬ Agree vide perime s) ∧
    (let s := run (step vide perime) (initial 0) [.construct, .handleLoginSuccess []]
     authGuard s = true ∧ (getToken vide perime s).1 = none ∧ ¬ Agree vide perime s) := by
  -- a guard that lets through without a token is a disagreement
  have hdisagree : ∀ s : AuthService JsString, authGuard s = true →
      (getToken vide perime s).1 = none → ¬ Agree vide perime s := by
    intro s hguard hnone hagree
    obtain ⟨t, ht⟩ := hagree.mp hguard
    rw [hnone] at ht
    cases ht
  constructor
  · intro s
    have hs : s = step vide perime connecte (.tick 900000) := by
      rw [← run_connecte]
      rfl
    have hlate : perime 900000 jetonCourt = true := perime_jetonCourt ⟨900000, by decide⟩
    have hguard : authGuard s = true := by rw [hs]; rfl
    have hnone : (getToken vide perime s).1 = none := by
      rw [hs, step, getToken_of_some vide perime rfl, if_neg (by decide)]
      exact congrArg Prod.fst (if_pos hlate)
    exact ⟨hguard, hnone, hdisagree s hguard hnone⟩
  · intro s
    exact ⟨rfl, rfl, hdisagree s rfl rfl⟩

end Bibliotheque.Client
