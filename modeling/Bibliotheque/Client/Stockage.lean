import Bibliotheque.Client.Guard
import Bibliotheque.Lib.Json.Stringify
import Bibliotheque.Fixtures
import Bibliotheque.Serialization

/-! # What is stored is text

`AuthService` was modelled with the cached user as a record. In the browser `localStorage` holds texts:
the user is written by `JSON.stringify` and read back by `JSON.parse` when the page is loaded, and what
the types say of the result is checked nowhere. `Navigateur` is the service as it runs there, on values
of JavaScript.

`stockage_run`: as long as `/user/me` answers with what `serializeUser` makes of an account, the service
with texts goes through exactly the states of the service with records. So nothing is lost in between,
whatever characters an e-mail or a name consists of, and what was shown about the one holds for the
other. -/

namespace Bibliotheque.Client

open Lib JsString

/-- A text as a string of JavaScript. -/
def texte (s : String) : JsString := s.toList.flatMap utf16

/-- A value that a signal holds; `none` is `undefined`. -/
abbrev Valeur := Option (Lib.Json Double)

/-- `v ?? d`. -/
def ou (v : Valeur) (d : Lib.Json Double) : Lib.Json Double :=
  match v with
  | none => d
  | some .null => d
  | some v => v

/-- The service and what surrounds it, in the browser. -/
structure Navigateur where
  /-- `localStorage['jwt_token']` -/
  token : Option JsString
  /-- `localStorage['user']` -/
  user : Option JsString
  isLoggedIn : Bool
  userEmail : Valeur
  userRoles : Valeur
  /-- unanswered requests to `/user/me`, with the token each carries -/
  pending : List (Option JsString)
  /-- `Date.now()` -/
  now : Int

/-- The response to a request, with the body as `HttpClient` has parsed it. -/
inductive ReponseJs where
  | user (v : Lib.Json Double)
  | erreur (status : Option Nat)

namespace Navigateur

variable (print : Double → Option Lib.Json.Literal)

def initial (now : Int) : Navigateur := ⟨none, none, false, some (.str []), some (.arr []), [], now⟩

def clearSession (s : Navigateur) : Navigateur :=
  { s with
    token := none
    user := none
    isLoggedIn := false
    userEmail := some (.str [])
    userRoles := some (.arr []) }

def getToken (s : Navigateur) : Option JsString × Navigateur :=
  match s.token with
  | none => (none, s)
  | some t =>
      if vide t then (none, s) else if perime s.now t then (none, s.clearSession) else (some t, s)

def getUserFromStorage (s : Navigateur) : Lib.Json Double :=
  match s.user with
  | none => .null
  | some raw => if raw.isEmpty then .null else (parse raw).toOption.getD .null

def loadUserInfo (s : Navigateur) : Navigateur :=
  let r := s.getToken
  { r.2 with pending := r.2.pending ++ [r.1] }

def handleLoginSuccess (t : JsString) (s : Navigateur) : Navigateur :=
  loadUserInfo { s with token := some t, isLoggedIn := true }

/-- What the constructor does with the cached user. -/
def showCachedUser (s : Navigateur) : Navigateur :=
  let cachedUser := s.getUserFromStorage
  if truthy cachedUser then
    { s with
      userEmail := cachedUser.get? (texte "email")
      userRoles := some (ou (cachedUser.get? (texte "roles")) (.arr [])) }
  else s

/-- The fields of a new instance. -/
def freshPage (s : Navigateur) : Navigateur :=
  { s with
    isLoggedIn := false, userEmail := some (.str []), userRoles := some (.arr []), pending := [] }

def construct (s : Navigateur) : Navigateur :=
  match s.freshPage.getToken with
  | (none, s) => s
  | (some _, s) => loadUserInfo (showCachedUser { s with isLoggedIn := true })

/-- The callbacks of `loadUserInfo`. A property of `null` throws, before anything is set. -/
def onResponse (r : ReponseJs) (s : Navigateur) : Navigateur :=
  match r with
  | .user .null => s
  | .user v =>
      { s with
        userEmail := v.get? (texte "email")
        userRoles := v.get? (texte "roles")
        user := some (Lib.Json.stringify print v) }
  | .erreur status => if status = some 401 ∨ status = some 403 then s.clearSession else s

inductive Event where
  | construct
  | handleLoginSuccess (t : JsString)
  | logout
  | getToken
  | response (i : Nat) (r : ReponseJs)
  | tick (δ : Nat)

def step (s : Navigateur) : Event → Navigateur
  | .construct => s.construct
  | .handleLoginSuccess t => s.handleLoginSuccess t
  | .logout => s.clearSession
  | .getToken => s.getToken.2
  | .response i r =>
      if i < s.pending.length then onResponse print r { s with pending := s.pending.eraseIdx i } else s
  | .tick δ => { s with now := s.now + δ }

end Navigateur

/-! ## The answer of `/user/me` -/

/-- The names of the roles. -/
def nomRole : Role → String
  | .user => "ROLE_USER"
  | .adherent => "ROLE_ADHERENT"
  | .bibliothecaire => "ROLE_BIBLIOTHECAIRE"
  | .responsable => "ROLE_RESPONSABLE"
  | .admin => "ROLE_ADMIN"
  | .autre nom => nom

/-- The account as it comes, `date` being `format('Y-m-d')`. -/
def utilisateurJson (date : Int → String) (v : UtilisateurVue) : Lib.Json Double :=
  .obj [(texte "id", .num (.finite v.id)), (texte "email", .str (texte v.email)),
    (texte "nom", .str (texte v.nom)), (texte "prenom", .str (texte v.prenom)),
    (texte "dateNaiss", .str (texte (date v.dateNaiss))), (texte "numTel", .str (texte v.numTel)),
    (texte "adressePostale", .str (texte v.adressePostale)),
    (texte "dateAdhesion", .str (texte (date v.dateAdhesion))),
    (texte "photo", v.photo.elim .null fun photo => .str (texte photo)),
    (texte "roles", .arr (v.roles.map fun r => .str (texte (nomRole r))))]

/-- What the client reads of it. -/
def profilLu (v : UtilisateurVue) : Profil := ⟨v.email, v.roles.map nomRole⟩

/-- The value is a user: it can be written, and under the two names is what the types say. -/
structure EstUtilisateur (print : Double → Option Lib.Json.Literal) (p : Profil)
    (v : Lib.Json Double) : Prop where
  objet : truthy v = true
  printable : Lib.Json.Printable print Double.round v
  email : v.get? (texte "email") = some (.str (texte p.email))
  roles : v.get? (texte "roles") = some (.arr (p.roles.map fun r => .str (texte r)))

/-- `Number::toString` on the keys of the database: a natural number is printed in decimal digits. -/
def ImprimeLesCles (print : Double → Option Lib.Json.Literal) : Prop :=
  ∀ n : Nat, n < 2 ^ 53 → print (.finite n) = some (Lib.Json.natLiteral n)

/-- A key is read back as it was. -/
theorem round_natLiteral {n : Nat} (hn : n < 2 ^ 53) :
    Double.round (Lib.Json.natLiteral n).value = .finite n := by
  have hexact := Double.round_intCast (z := n) (by rw [Nat.abs_cast]; exact_mod_cast hn)
  rw [Int.cast_natCast] at hexact
  rw [Lib.Json.value_natLiteral, hexact]

theorem estUtilisateur_json {print : Double → Option Lib.Json.Literal}
    (hprint : ImprimeLesCles print) (date : Int → String) {v : UtilisateurVue} (hid : v.id < 2 ^ 53) :
    EstUtilisateur print (profilLu v) (utilisateurJson date v) where
  objet := rfl
  printable := by
    have hphoto : Lib.Json.Printable print Double.round
        (v.photo.elim .null fun photo => .str (texte photo)) := by
      cases v.photo with
      | none => exact .null
      | some photo => exact .str _
    have hroles : Lib.Json.Printable print Double.round
        (.arr (v.roles.map fun r => .str (texte (nomRole r)))) := by
      refine .arr _ fun w hw => ?_
      obtain ⟨r, -, rfl⟩ := List.mem_map.mp hw
      exact .str _
    refine .obj _ ?_
    simp only [List.forall_mem_cons, List.not_mem_nil, false_imp_iff, implies_true, and_true]
    exact ⟨.num _ _ (hprint v.id hid) (round_natLiteral hid), .str _, .str _, .str _, .str _, .str _,
      .str _, .str _, hphoto, hroles⟩
  email := rfl
  roles := by
    rw [profilLu, List.map_map]
    rfl

/-! ## The two levels -/

variable (print : Double → Option Lib.Json.Literal)

/-- The same thing happens on both levels. -/
inductive Correspond : AuthService.Event JsString → Navigateur.Event → Prop
  | construct : Correspond .construct .construct
  | handleLoginSuccess (t : JsString) : Correspond (.handleLoginSuccess t) (.handleLoginSuccess t)
  | logout : Correspond .logout .logout
  | getToken : Correspond .getToken .getToken
  | user (i : Nat) (p : Profil) (v : Lib.Json Double) : EstUtilisateur print p v →
      Correspond (.response i (.user p)) (.response i (.user v))
  | erreur (i : Nat) (status : Option Nat) :
      Correspond (.response i (.erreur status)) (.response i (.erreur status))
  | tick (δ : Nat) : Correspond (.tick δ) (.tick δ)

/-- The text under `user`, if there is one, is that of a user. -/
inductive Stocke : Option Profil → Option JsString → Prop
  | rien : Stocke none none
  | user (p : Profil) (v : Lib.Json Double) : EstUtilisateur print p v →
      Stocke (some p) (some (Lib.Json.stringify print v))

/-- The state of the browser is the state of the service, in texts. -/
structure Represente (a : AuthService JsString) (c : Navigateur) : Prop where
  token : c.token = a.token
  user : Stocke print a.user c.user
  isLoggedIn : c.isLoggedIn = a.isLoggedIn
  userEmail : c.userEmail = some (.str (texte a.userEmail))
  userRoles : c.userRoles = some (.arr (a.userRoles.map fun r => .str (texte r)))
  pending : c.pending = a.pending
  now : c.now = a.now

namespace Represente

variable {print} {a : AuthService JsString} {c : Navigateur}

theorem clearSession (h : Represente print a c) : Represente print a.clearSession c.clearSession :=
  ⟨rfl, .rien, rfl, rfl, rfl, h.pending, h.now⟩

theorem getToken (h : Represente print a c) :
    c.getToken.1 = (AuthService.getToken vide perime a).1 ∧
      Represente print (AuthService.getToken vide perime a).2 c.getToken.2 := by
  unfold Navigateur.getToken AuthService.getToken
  rw [h.token, h.now]
  cases a.token with
  | none => exact ⟨rfl, h⟩
  | some t =>
      dsimp only
      split
      · exact ⟨rfl, h⟩
      · split
        · exact ⟨rfl, h.clearSession⟩
        · exact ⟨rfl, h⟩

theorem loadUserInfo (h : Represente print a c) :
    Represente print (AuthService.loadUserInfo vide perime a) c.loadUserInfo := by
  obtain ⟨htoken, hr⟩ := h.getToken
  refine ⟨hr.token, hr.user, hr.isLoggedIn, hr.userEmail, hr.userRoles, ?_, hr.now⟩
  show c.getToken.2.pending ++ [c.getToken.1] = _
  rw [hr.pending, htoken]
  rfl

/-- **What was stored is found again.** -/
theorem getUserFromStorage (h : Represente print a c) :
    (a.user = none ∧ c.getUserFromStorage = .null) ∨
      ∃ p, a.user = some p ∧ EstUtilisateur print p c.getUserFromStorage := by
  have huser := h.user
  unfold Navigateur.getUserFromStorage
  generalize a.user = x at huser ⊢
  generalize c.user = y at huser ⊢
  cases huser with
  | rien => exact Or.inl ⟨rfl, rfl⟩
  | user p v hv =>
      have hlen := Lib.Json.length_text transparent_utf16 (Lib.Json.canonical print v)
      have hempty : (Lib.Json.stringify print v).isEmpty = false :=
        Bool.eq_false_iff.mpr fun h => by
          rw [List.isEmpty_iff] at h
          rw [← Lib.Json.stringify, h] at hlen
          exact Nat.lt_irrefl 0 hlen
      have hparse : parse (Lib.Json.stringify print v) = .ok v := by
        rw [parse, Lib.Json.parse_stringify hv.printable]
      refine Or.inr ⟨p, rfl, ?_⟩
      simp only [hempty, Bool.false_eq_true, if_false, hparse]
      exact hv

theorem showCachedUser (h : Represente print a c) :
    Represente print a.showCachedUser c.showCachedUser := by
  unfold AuthService.showCachedUser Navigateur.showCachedUser
  rcases h.getUserFromStorage with ⟨hnone, hnull⟩ | ⟨p, hsome, hv⟩
  · rw [hnone, hnull]
    exact h
  · rw [hsome]
    simp only [hv.objet, if_true, hv.email, hv.roles, ou]
    exact ⟨h.token, hsome ▸ h.user, h.isLoggedIn, rfl, rfl, h.pending, h.now⟩

theorem construct (h : Represente print a c) :
    Represente print (AuthService.construct vide perime a) c.construct := by
  have hfresh : Represente print a.freshPage c.freshPage :=
    ⟨h.token, h.user, rfl, rfl, rfl, rfl, h.now⟩
  obtain ⟨htoken, hr⟩ := hfresh.getToken
  unfold AuthService.construct Navigateur.construct
  generalize AuthService.getToken vide perime a.freshPage = ra at htoken hr ⊢
  generalize c.freshPage.getToken = rc at htoken hr ⊢
  obtain ⟨t, a'⟩ := ra
  obtain ⟨t', c'⟩ := rc
  obtain rfl : t' = t := htoken
  cases t' with
  | none => exact hr
  | some t =>
      have hopen : Represente print { a' with isLoggedIn := true } { c' with isLoggedIn := true } :=
        ⟨hr.token, hr.user, rfl, hr.userEmail, hr.userRoles, hr.pending, hr.now⟩
      exact hopen.showCachedUser.loadUserInfo

/-- **One event on both levels.** -/
theorem step (h : Represente print a c) {e : AuthService.Event JsString} {e' : Navigateur.Event}
    (he : Correspond print e e') :
    Represente print (AuthService.step vide perime a e) (Navigateur.step print c e') := by
  cases he with
  | construct => exact h.construct
  | handleLoginSuccess t =>
      have hopen : Represente print { a with token := some t, isLoggedIn := true }
          { c with token := some t, isLoggedIn := true } :=
        ⟨rfl, h.user, rfl, h.userEmail, h.userRoles, h.pending, h.now⟩
      exact hopen.loadUserInfo
  | logout => exact h.clearSession
  | getToken => exact h.getToken.2
  | user i p v hv =>
      simp only [AuthService.step, Navigateur.step, h.pending]
      split
      · have hset : Navigateur.onResponse print (.user v) { c with pending := a.pending.eraseIdx i } =
            { c with
              pending := a.pending.eraseIdx i
              userEmail := v.get? (texte "email")
              userRoles := v.get? (texte "roles")
              user := some (Lib.Json.stringify print v) } := by
          cases v with
          | null => cases hv.objet
          | _ => rfl
        rw [hset]
        exact ⟨h.token, .user p v hv, h.isLoggedIn, hv.email, hv.roles, rfl, h.now⟩
      · exact h
  | erreur i status =>
      simp only [AuthService.step, Navigateur.step, h.pending]
      split
      · have hrest : Represente print { a with pending := a.pending.eraseIdx i }
            { c with pending := a.pending.eraseIdx i } :=
          ⟨h.token, h.user, h.isLoggedIn, h.userEmail, h.userRoles, rfl, h.now⟩
        simp only [AuthService.onResponse, Navigateur.onResponse]
        split
        · exact hrest.clearSession
        · exact hrest
      · exact h
  | tick δ =>
      exact ⟨h.token, h.user, h.isLoggedIn, h.userEmail, h.userRoles, h.pending, by
        simp only [AuthService.step, Navigateur.step, h.now]⟩

theorem run (h : Represente print a c) {es : List (AuthService.Event JsString)}
    {es' : List Navigateur.Event} (hes : List.Forall₂ (Correspond print) es es') :
    Represente print (Lib.run (AuthService.step vide perime) a es)
      (Lib.run (Navigateur.step print) c es') := by
  induction hes generalizing a c with
  | nil => exact h
  | cons he _ ih => exact ih (h.step he)

end Represente

/-- The server answers `/user/me` with an account. PHP writes the roles as an array, since the stored
ones are all different. -/
def Navigateur.Event.DuServeur (date : Int → String) : Navigateur.Event → Prop
  | .response _ (.user v) => ∃ u : Utilisateur, u.id < 2 ^ 53 ∧ u.roles.Nodup ∧
      v = utilisateurJson date (serializeUser u)
  | _ => True

/-- What happens in the browser, with the record in place of the text. -/
theorem exists_correspond {print : Double → Option Lib.Json.Literal} (hprint : ImprimeLesCles print)
    {date : Int → String} {e' : Navigateur.Event} (he : e'.DuServeur date) :
    ∃ e, Correspond print e e' := by
  cases e' with
  | construct => exact ⟨_, .construct⟩
  | handleLoginSuccess t => exact ⟨_, .handleLoginSuccess t⟩
  | logout => exact ⟨_, .logout⟩
  | getToken => exact ⟨_, .getToken⟩
  | response i r =>
      cases r with
      | user v =>
          obtain ⟨u, hid, -, rfl⟩ := he
          exact ⟨_, .user i _ _ (estUtilisateur_json hprint date hid)⟩
      | erreur status => exact ⟨_, .erreur i status⟩
  | tick δ => exact ⟨_, .tick δ⟩

/-- **The service with texts is the service with records.** Whatever happens in a browser whose server
answers `/user/me` with accounts, there is a run of `AuthService` in which the same happens, event by
event, and at the end of which the stored token, the signals and the requests under way are the same
and the cached text is that of the cached user. -/
theorem stockage_run {print : Double → Option Lib.Json.Literal} (hprint : ImprimeLesCles print)
    (date : Int → String) (now : Int) (es' : List Navigateur.Event)
    (hes' : ∀ e' ∈ es', e'.DuServeur date) :
    ∃ es : List (AuthService.Event JsString), List.Forall₂ (Correspond print) es es' ∧
      Represente print (run (AuthService.step vide perime) (AuthService.initial now) es)
        (run (Navigateur.step print) (Navigateur.initial now) es') := by
  have hes : ∃ es, List.Forall₂ (Correspond print) es es' := by
    induction es' with
    | nil => exact ⟨[], .nil⟩
    | cons e' es' ih =>
        obtain ⟨e, he⟩ := exists_correspond hprint (hes' e' List.mem_cons_self)
        obtain ⟨es, hes⟩ := ih fun x hx => hes' x (List.mem_cons_of_mem e' hx)
        exact ⟨e :: es, .cons he hes⟩
  obtain ⟨es, hes⟩ := hes
  refine ⟨es, hes, Represente.run ?_ hes⟩
  exact ⟨rfl, .rien, rfl, rfl, rfl, rfl, rfl⟩

/-- `Number::toString` on natural numbers. -/
def imprime : Double → Option Lib.Json.Literal
  | .finite x => if x.den = 1 ∧ 0 ≤ x.num then some (Lib.Json.natLiteral x.num.toNat) else none
  | .infinite _ => none

theorem imprimeLesCles_imprime : ImprimeLesCles imprime := by
  intro n _
  rw [imprime, if_pos ⟨Rat.den_natCast n, by rw [Rat.num_natCast]; exact Int.natCast_nonneg n⟩,
    Rat.num_natCast, Int.toNat_natCast]

/-- The two dates of Alice's account. -/
def dateAlice (d : Int) : String :=
  if d = date 1998 5 12 then "1998-05-12" else "2025-01-15"

/-- Alice logs in, her account arrives, and she loads the page again. -/
def visite : List Navigateur.Event :=
  [.handleLoginSuccess jetonCourt,
    .response 0 (.user (utilisateurJson dateAlice (serializeUser AppFixtures.alice))), .construct]

theorem stockage_run_visite :
    ∃ es : List (AuthService.Event JsString), List.Forall₂ (Correspond imprime) es visite ∧
      Represente imprime (run (AuthService.step vide perime) (AuthService.initial 0) es)
        (run (Navigateur.step imprime) (Navigateur.initial 0) visite) := by
  refine stockage_run imprimeLesCles_imprime dateAlice 0 visite ?_
  simp only [visite, List.forall_mem_cons, List.not_mem_nil, false_imp_iff, implies_true, and_true]
  exact ⟨trivial, ⟨AppFixtures.alice, by decide, by decide, rfl⟩, trivial⟩

end Bibliotheque.Client
