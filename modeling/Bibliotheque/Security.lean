import Bibliotheque.Php
import Bibliotheque.Schema

/-! # Who is asking, and what he may reach

`config/packages/security.yaml`: the role hierarchy, the ordered list of access rules of which only
the first match applies, and the three ways to be recognised — the form of the back office
(`AdminAuthenticator`), `json_login` and the bearer token of the API. All three look an account up by
the current value of its e-mail.

`accessGranted_api` is the fact the API rests on: the second rule matches every path below `/api`,
so the more specific rules after it never apply. -/

namespace Bibliotheque

open Lib

/-! ## Roles -/

namespace Role

/-- `role_hierarchy`. -/
def inclut : Role → List Role
  | bibliothecaire => [adherent]
  | responsable => [bibliothecaire]
  | _ => []

/-- The roles reachable from a role; the hierarchy is two levels deep. -/
def atteints (r : Role) : List Role := r :: (r.inclut ++ r.inclut.flatMap inclut)

end Role

/-- Does the user have the role, through the hierarchy? -/
def Utilisateur.atteint (u : Utilisateur) (r : Role) : Bool :=
  u.getRoles.any fun r' => decide (r ∈ r'.atteints)

theorem Utilisateur.mem_getRoles {u : Utilisateur} {r : Role} :
    r ∈ u.getRoles ↔ r ∈ u.roles ∨ r = .user := by
  simp [getRoles]

theorem Utilisateur.atteint_eq_true {u : Utilisateur} {r : Role} :
    u.atteint r = true ↔ ∃ r', (r' ∈ u.roles ∨ r' = .user) ∧ r ∈ r'.atteints := by
  simp only [atteint, List.any_eq_true, decide_eq_true_eq, mem_getRoles]

/-- A responsable is also a bibliothécaire. -/
theorem Utilisateur.atteint_bibliothecaire {u : Utilisateur} (h : u.atteint .responsable = true) :
    u.atteint .bibliothecaire = true := by
  rw [atteint_eq_true] at h ⊢
  obtain ⟨r, hr, hmem⟩ := h
  have hresp : r = .responsable := by
    cases r <;> simp [Role.atteints, Role.inclut] at hmem ⊢
  subst hresp
  exact ⟨.responsable, hr, by decide⟩

/-! ## Access rules -/

/-- What an access rule or an `IsGranted` attribute asks for. -/
inductive Attribut where
  | publicAccess
  | fullyAuthenticated
  | role (r : Role)
  deriving DecidableEq, Repr

/-- Does the requester, anonymous or not, have the attribute? -/
def isGranted (user : Option Utilisateur) : Attribut → Bool
  | .publicAccess => true
  | .fullyAuthenticated => user.isSome
  | .role r => user.any (·.atteint r)

/-- A rule of `access_control`: the pattern is `^` and a literal path. -/
structure AccessRule where
  path : String
  roles : List Attribut
  deriving DecidableEq, Repr

def AccessRule.matchesPath (path : String) (rule : AccessRule) : Bool :=
  rule.path.toList.isPrefixOf path.toList

/-- `access_control`, in the order of the file. -/
def accessControl : List AccessRule :=
  [⟨"/api/login", [.publicAccess]⟩,
    ⟨"/api", [.publicAccess]⟩,
    ⟨"/admin", [.role .bibliothecaire, .role .responsable]⟩,
    ⟨"/api/user/me", [.fullyAuthenticated]⟩,
    ⟨"/api/emprunts", [.fullyAuthenticated]⟩,
    ⟨"/api/livres/recherche", [.publicAccess]⟩,
    ⟨"/api/reservations", [.fullyAuthenticated]⟩]

/-- Only the first matching rule is applied; one of its attributes is enough. -/
def accessGranted (user : Option Utilisateur) (path : String) : Bool :=
  match accessControl.find? (·.matchesPath path) with
  | none => true
  | some rule => rule.roles.any (isGranted user)

/-- **Below `/api` everything is public** as far as the access rules go. -/
theorem accessGranted_api (user : Option Utilisateur) {path : String}
    (h : "/api".toList.isPrefixOf path.toList = true) : accessGranted user path = true := by
  have hapi : AccessRule.matchesPath path ⟨"/api", [.publicAccess]⟩ = true := h
  cases hlogin : AccessRule.matchesPath path ⟨"/api/login", [.publicAccess]⟩ with
  | true => simp only [accessGranted, accessControl, List.find?_cons, hlogin]; rfl
  | false => simp only [accessGranted, accessControl, List.find?_cons, hlogin, hapi]; rfl

/-- The back office asks for a bibliothécaire; a responsable is one. -/
theorem accessGranted_admin (user : Option Utilisateur) {path : String}
    (h : "/admin".toList.isPrefixOf path.toList = true) :
    accessGranted user path = user.any (·.atteint .bibliothecaire) := by
  obtain ⟨rest, hrest⟩ := List.isPrefixOf_iff_prefix.mp h
  have hmatch : ∀ rule : AccessRule, rule.matchesPath path =
      rule.path.toList.isPrefixOf ("/admin".toList ++ rest) := by
    intro rule
    rw [AccessRule.matchesPath, hrest]
  have hfirst : accessControl.find? (·.matchesPath path) =
      some ⟨"/admin", [.role .bibliothecaire, .role .responsable]⟩ := by
    simp [accessControl, hmatch]
  rw [accessGranted, hfirst]
  cases user with
  | none => rfl
  | some u =>
      simp only [List.any_cons, List.any_nil, isGranted, Option.any_some, Bool.or_false]
      cases hresp : u.atteint .responsable with
      | false => rw [Bool.or_false]
      | true => rw [u.atteint_bibliothecaire hresp, Bool.or_true]

/-! ## Authentication -/

/-- The entity provider: the account whose e-mail the database finds equal to the identifier. -/
def loadUserByIdentifier (env : Env) (identifier : String) (db : Db) : Option Utilisateur :=
  db.utilisateurs.rows.find? fun u => env.collation u.email == env.collation identifier

/-- `UNIQ_IDENTIFIER_EMAIL`. -/
def UniqueEmails (env : Env) (db : Db) : Prop :=
  ∀ u ∈ db.utilisateurs.rows, ∀ v ∈ db.utilisateurs.rows,
    env.collation u.email = env.collation v.email → u.id = v.id

/-- With the unique index, the provider finds exactly the account that has the e-mail. -/
theorem loadUserByIdentifier_eq_some {env : Env} {db : Db} (huniq : UniqueEmails env db)
    {identifier : String} {u : Utilisateur} :
    loadUserByIdentifier env identifier db = some u ↔
      u ∈ db.utilisateurs.rows ∧ env.collation u.email = env.collation identifier := by
  unfold loadUserByIdentifier
  constructor
  · intro h
    exact ⟨List.mem_of_find?_eq_some h, by simpa using List.find?_some h⟩
  · rintro ⟨hu, hmail⟩
    cases hfind : db.utilisateurs.rows.find?
        (fun u => env.collation u.email == env.collation identifier) with
    | none =>
        have := List.find?_eq_none.mp hfind u hu
        simp [hmail] at this
    | some v =>
        have hv : v ∈ db.utilisateurs.rows := List.mem_of_find?_eq_some hfind
        have hvmail : env.collation v.email = env.collation identifier := by
          simpa using List.find?_some hfind
        rw [db.utilisateurs.eq_of_id hv hu (huniq v hv u hu (hvmail.trans hmail.symm))]

/-- The unique index admits the e-mail for the row with key `id`. -/
def emailLibre (env : Env) (id : Nat) (email : String) (db : Db) : Bool :=
  db.utilisateurs.rows.all fun v =>
    decide (v.id = id) || !decide (env.collation v.email = env.collation email)

theorem emailLibre_eq_true {env : Env} {id : Nat} {email : String} {db : Db} :
    emailLibre env id email db = true ↔
      ∀ v ∈ db.utilisateurs.rows, env.collation v.email = env.collation email → v.id = id := by
  unfold emailLibre
  rw [List.all_eq_true]
  constructor
  · intro h v hv hmail
    simpa [hmail] using h v hv
  · intro h v hv
    by_cases hmail : env.collation v.email = env.collation email
    · simp [h v hv hmail]
    · simp [hmail]

/-- `PasswordCredentials`: an empty password is never presented to the hasher. -/
def credentialsValid (env : Env) (u : Utilisateur) (password : String) : Bool :=
  password != "" && env.verifyPassword u.password password

/-- What a signed token says: the identifier of the account at the time of the login, and when the
token expires. -/
structure Token where
  identifier : String
  exp : Int
  deriving DecidableEq, Repr

/-- `token_ttl`. -/
def tokenTtl : Int := 86400

def Token.valid (now : Int) (t : Token) : Bool := decide (now < t.exp)

/-- `UtilisateurRepository::upgradePassword`, after a successful `json_login` with a hash that is
out of date. -/
def upgradePassword (env : Env) (u : Utilisateur) (password : String) (db : Db) : Db :=
  if env.needsRehash u.password then
    { db with
      utilisateurs := db.utilisateurs.updateAt u.id
        (fun v => { v with password := env.hashPassword password }) (fun _ => rfl) }
  else db

/-- `POST /api/login_check`: the account it accepts, with the token it gets. -/
def jsonLogin (env : Env) (now : Int) (email password : String) (db : Db) :
    Option (Utilisateur × Token) :=
  match loadUserByIdentifier env email db with
  | none => none
  | some u =>
      if credentialsValid env u password then some (u, ⟨u.getUserIdentifier, now + tokenTtl⟩)
      else none

/-- The account as which a request with this token is served; the signature has been checked. -/
def jwt (env : Env) (now : Int) (t : Token) (db : Db) : Option Utilisateur :=
  if t.valid now then loadUserByIdentifier env t.identifier db else none

/-- `AdminAuthenticator::authenticate`: the account a session is opened for, or the error shown. -/
def AdminAuthenticator.authenticate (env : Env) (csrf : Bool) (email password : String) (db : Db) :
    Except String Utilisateur :=
  if !csrf then .error "Invalid CSRF token."
  else
    match loadUserByIdentifier env email db with
    | none => .error "Bad credentials."
    | some u =>
        if !u.enabled then
          .error "Votre compte est suspendu. Veuillez contacter la bibliothèque."
        else if credentialsValid env u password then .ok u
        else .error "The presented password is invalid."

end Bibliotheque
