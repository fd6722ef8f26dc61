import Bibliotheque.Lib.Run
import Bibliotheque.Api
import Bibliotheque.Fixtures

/-! # Tokens and the accounts they resolve to

A token carries the e-mail its account had at the login, and every request looks the account up by
the *current* e-mails. In each single state e-mails are unique; across states a member may give his
up and another may take it, and then the token of the first resolves to the second
(`token_takeover`).

That is the only way. `ownerStable_run`: tokens keep their owner throughout a run exactly when no
accepted `PUT /api/user/me` sets an e-mail that a token of another account, still valid, carries. -/

namespace Bibliotheque

open Lib

/-- The API server: the database, the clock, and the tokens signed so far with the account each was
issued to. -/
structure Serveur where
  db : Db
  now : Int
  issued : List (Token × Nat)

namespace Serveur

/-- A login, a request with or without a bearer token — `δ` seconds pass while it is handled — or
time passing. -/
inductive Event where
  | login (email password : String)
  | request (bearer : Option Token) (req : ApiRequest) (δ : Nat)
  | tick (δ : Nat)

/-- The `api` firewall: `none` is a 401, `some none` an anonymous requester. A token that was not
issued has no valid signature. -/
def authenticate (env : Env) (s : Serveur) : Option Token → Option (Option Utilisateur)
  | none => some none
  | some t => if t ∈ s.issued.map Prod.fst then (jwt env s.now t s.db).map some else none

def step (env : Env) (s : Serveur) : Event → Serveur
  | .login email password =>
      match jsonLogin env s.now email password s.db with
      | none => s
      -- the token is signed for the account the provider found
      | some (u, t) =>
          { s with db := upgradePassword env u password s.db, issued := s.issued ++ [(t, u.id)] }
  | .request bearer req δ =>
      match s.authenticate env bearer with
      | none => { s with now := s.now + δ }
      | some w =>
          { s with db := (handle env s.now (s.now + δ) w req s.db).2, now := s.now + δ }
  | .tick δ => { s with now := s.now + δ }

/-- No token, as long as it is valid, resolves to another account than the one it was issued to. -/
def OwnerStable (env : Env) (s : Serveur) : Prop :=
  ∀ p ∈ s.issued, ∀ v, jwt env s.now p.1 s.db = some v → v.id = p.2

/-- If the event is a `PUT /api/user/me` that will be accepted, the e-mail it leaves the requester
with is carried by no token of another account that is still valid. -/
def NoTakeover (env : Env) (s : Serveur) : Event → Prop
  | .request bearer (.userUpdate data) δ =>
      ∀ v, s.authenticate env bearer = some (some v) → data.isArray = true →
        AuthController.flushable env v (AuthController.bind v data) s.db = true →
        ∀ p ∈ s.issued, p.1.valid (s.now + δ) = true →
          env.collation p.1.identifier = env.collation (AuthController.bind v data).email →
            p.2 = v.id
  | _ => True

end Serveur

/-! ## The unique index is kept -/

section Emails

variable {env : Env} {db : Db}

/-- Keys and e-mails are all that matters. -/
theorem UniqueEmails.congr {db' : Db} (h : UniqueEmails env db)
    (heq : ∀ a ∈ db'.utilisateurs.rows, ∃ b ∈ db.utilisateurs.rows, b.id = a.id ∧ b.email = a.email) :
    UniqueEmails env db' := by
  intro u hu v hv hmail
  obtain ⟨u₀, hu₀, hid, he⟩ := heq u hu
  obtain ⟨v₀, hv₀, hid', he'⟩ := heq v hv
  rw [← hid, ← hid']
  exact h u₀ hu₀ v₀ hv₀ (by rw [he, he', hmail])

theorem UniqueEmails.of_utilisateurs {db' : Db} (huniq : UniqueEmails env db)
    (heq : db'.utilisateurs = db.utilisateurs) : UniqueEmails env db' := by
  unfold UniqueEmails
  rw [heq]
  exact huniq

/-- What the database accepts in place of `u` has an e-mail no other account has. -/
theorem AuthController.flushable_unique (huniq : UniqueEmails env db) {u u' : Utilisateur}
    (hu : u ∈ db.utilisateurs.rows) (hflush : flushable env u u' db = true) {v : Utilisateur}
    (hv : v ∈ db.utilisateurs.rows) (hmail : env.collation v.email = env.collation u'.email) :
    v.id = u.id := by
  simp only [flushable, Bool.and_eq_true, Bool.or_eq_true, decide_eq_true_eq] at hflush
  rcases hflush.2 with hsame | hlibre
  · rw [hsame] at hmail
    exact huniq v hv u hu hmail
  · exact emailLibre_eq_true.mp hlibre v hv hmail

/-- An account after a profile has been written: the written one, or another, unchanged one. -/
theorem AuthController.mem_ecrire {u u' a : Utilisateur}
    (ha : a ∈ (ecrire u u' db).utilisateurs.rows) :
    (a.id = u.id ∧ a.email = u'.email) ∨ (a ∈ db.utilisateurs.rows ∧ a.id ≠ u.id) := by
  obtain ⟨v, hv, rfl⟩ := List.mem_map.mp ha
  split
  · next hid => exact Or.inl ⟨hid, rfl⟩
  · next hid => exact Or.inr ⟨hv, hid⟩

theorem UniqueEmails.ecrire (huniq : UniqueEmails env db) {u u' : Utilisateur}
    (hu : u ∈ db.utilisateurs.rows) (hflush : AuthController.flushable env u u' db = true) :
    UniqueEmails env (AuthController.ecrire u u' db) := by
  intro a ha b hb hmail
  rcases AuthController.mem_ecrire ha with ⟨hid, he⟩ | ⟨hold, hne⟩
  · rcases AuthController.mem_ecrire hb with ⟨hid', -⟩ | ⟨hold', -⟩
    · rw [hid, hid']
    · rw [hid]
      rw [he] at hmail
      exact (AuthController.flushable_unique huniq hu hflush hold' hmail.symm).symm
  · rcases AuthController.mem_ecrire hb with ⟨hid', he'⟩ | ⟨hold', -⟩
    · rw [he'] at hmail
      exact absurd (AuthController.flushable_unique huniq hu hflush hold hmail) hne
    · exact huniq a hold b hold' hmail

theorem mem_upgradePassword {u a : Utilisateur} {password : String}
    (ha : a ∈ (upgradePassword env u password db).utilisateurs.rows) :
    ∃ b ∈ db.utilisateurs.rows, b.id = a.id ∧ b.email = a.email := by
  unfold upgradePassword at ha
  split at ha
  · obtain ⟨b, hb, rfl⟩ := List.mem_map.mp ha
    refine ⟨b, hb, ?_⟩
    split <;> exact ⟨rfl, rfl⟩
  · exact ⟨a, ha, rfl, rfl⟩

/-- Only `PUT /api/user/me` writes the accounts. -/
theorem utilisateurs_handle {now now' : Int} {user : Option Utilisateur} {req : ApiRequest}
    (hreq : ∀ data, req ≠ .userUpdate data) :
    (handle env now now' user req db).2.utilisateurs = db.utilisateurs := by
  have heff := handle_effect env now now' user req db
  generalize (handle env now now' user req db).2 = db' at heff
  cases heff with
  | rien => rfl
  | profil w data huser hflush => exact absurd rfl (hreq data)
  | categorie data nom hnom => rfl
  | purge w huser hadherent => rfl
  | reservation w data db' huser hadherent heff => cases heff <;> rfl
  | suppression w id db' huser hadherent heff => cases heff <;> rfl

theorem handle_userUpdate {now now' : Int} (user : Utilisateur) (data : Json) :
    (handle env now now' (some user) (.userUpdate data) db).2 =
      if data.isArray && AuthController.flushable env user (AuthController.bind user data) db then
        AuthController.ecrire user (AuthController.bind user data) db
      else db := by
  rw [handle_eq_dispatch, dispatch, AuthController.update_snd]

end Emails

namespace Serveur

variable {env : Env} {s : Serveur}

/-- Who is served has an account. -/
theorem authenticate_mem {bearer : Option Token} {v : Utilisateur}
    (h : s.authenticate env bearer = some (some v)) : v ∈ s.db.utilisateurs.rows := by
  cases bearer with
  | none => cases h
  | some t =>
      simp only [authenticate] at h
      split at h
      · obtain ⟨w, hw, heq⟩ := Option.map_eq_some_iff.mp h
        obtain rfl := Option.some.inj heq
        unfold jwt at hw
        split at hw
        · exact List.mem_of_find?_eq_some hw
        · cases hw
      · cases h

theorem uniqueEmails_step (huniq : UniqueEmails env s.db) (e : Event) :
    UniqueEmails env (s.step env e).db := by
  cases e with
  | login email password =>
      simp only [step]
      split
      · exact huniq
      · exact huniq.congr fun a ha => mem_upgradePassword ha
  | request bearer req δ =>
      simp only [step]
      split
      · exact huniq
      · next w hw =>
        have heff := handle_effect env s.now (s.now + δ) w req s.db
        generalize (handle env s.now (s.now + δ) w req s.db).2 = db' at heff
        cases heff with
        | rien => exact huniq
        | profil v data hv hflush =>
            subst hv
            exact huniq.ecrire (authenticate_mem hw) hflush
        | categorie data nom hnom => exact huniq
        | purge v hv hadherent => exact huniq
        | reservation v data db' hv hadherent heff => cases heff <;> exact huniq
        | suppression v id db' hv hadherent heff => cases heff <;> exact huniq
  | tick δ => exact huniq

/-! ## When tokens keep their owner -/

/-- The same, in terms of the e-mails: an account whose e-mail a valid token carries is its owner. -/
theorem ownerStable_iff (huniq : UniqueEmails env s.db) :
    OwnerStable env s ↔ ∀ p ∈ s.issued, p.1.valid s.now = true →
      ∀ v ∈ s.db.utilisateurs.rows, env.collation v.email = env.collation p.1.identifier →
        v.id = p.2 := by
  constructor
  · intro h p hp hvalid v hv hmail
    refine h p hp v ?_
    rw [jwt, if_pos hvalid]
    exact (loadUserByIdentifier_eq_some huniq).mpr ⟨hv, hmail⟩
  · intro h p hp v hjwt
    unfold jwt at hjwt
    split at hjwt
    · next hvalid =>
      obtain ⟨hv, hmail⟩ := (loadUserByIdentifier_eq_some huniq).mp hjwt
      exact h p hp hvalid v hv hmail
    · cases hjwt

theorem valid_of_later {t : Token} {now : Int} {δ : Nat} (h : t.valid (now + δ) = true) :
    t.valid now = true := by
  simp only [Token.valid, decide_eq_true_eq] at h ⊢
  omega

/-- Keys and e-mails unchanged, no new token, some time later: nothing to fear. -/
theorem OwnerStable.later {db' : Db} (h : OwnerStable env s) (huniq : UniqueEmails env s.db)
    (heq : db'.utilisateurs = s.db.utilisateurs) (δ : Nat) :
    OwnerStable env { s with db := db', now := s.now + δ } := by
  rw [ownerStable_iff huniq] at h
  rw [ownerStable_iff (huniq.of_utilisateurs heq)]
  intro p hp hvalid v hv
  rw [heq] at hv
  exact h p hp (valid_of_later hvalid) v hv

theorem OwnerStable.login (h : OwnerStable env s) (huniq : UniqueEmails env s.db)
    (email password : String) : OwnerStable env (s.step env (.login email password)) := by
  have huniq' := uniqueEmails_step huniq (.login email password)
  rw [ownerStable_iff huniq] at h
  rw [ownerStable_iff huniq']
  simp only [step, jsonLogin]
  split
  · exact h
  · next u t hlogin =>
    split at hlogin
    · cases hlogin
    · next u' hload =>
      split at hlogin
      · obtain ⟨rfl, rfl⟩ := Prod.mk.inj (Option.some.inj hlogin)
        obtain ⟨hu, -⟩ := (loadUserByIdentifier_eq_some huniq).mp hload
        intro p hp hvalid v hv hmail
        obtain ⟨w, hw, hid, he⟩ := mem_upgradePassword hv
        rw [← hid]
        rw [← he] at hmail
        rcases List.mem_append.mp hp with hold | hnew
        · exact h p hold hvalid w hw hmail
        -- the new token carries the e-mail of its owner, which nobody else has
        · rw [List.mem_singleton.mp hnew] at hmail ⊢
          exact huniq w hw u' hu hmail
      · cases hlogin

/-- An accepted change of profile keeps the owners exactly when nobody's e-mail is taken over. -/
theorem ownerStable_ecrire (h : OwnerStable env s) (huniq : UniqueEmails env s.db) {v v' : Utilisateur}
    (hv : v ∈ s.db.utilisateurs.rows) (hflush : AuthController.flushable env v v' s.db = true)
    (δ : Nat) :
    OwnerStable env { s with db := AuthController.ecrire v v' s.db, now := s.now + δ } ↔
      ∀ p ∈ s.issued, p.1.valid (s.now + δ) = true →
        env.collation p.1.identifier = env.collation v'.email → p.2 = v.id := by
  rw [ownerStable_iff huniq] at h
  rw [ownerStable_iff (huniq.ecrire hv hflush)]
  constructor
  · intro h' p hp hvalid hmail
    refine (h' p hp hvalid { v with
      email := v'.email, numTel := v'.numTel, adressePostale := v'.adressePostale } ?_
      hmail.symm).symm
    exact List.mem_map.mpr ⟨v, hv, if_pos rfl⟩
  · intro hsafe p hp hvalid a ha hmail
    rcases AuthController.mem_ecrire ha with ⟨hid, he⟩ | ⟨hold, -⟩
    -- the account that was written: here the condition is needed
    · rw [he] at hmail
      rw [hid, hsafe p hp hvalid hmail.symm]
    · exact h p hp (valid_of_later hvalid) a hold hmail

theorem ownerStable_userUpdate (h : OwnerStable env s) (huniq : UniqueEmails env s.db)
    (bearer : Option Token) (data : Json) (δ : Nat) :
    OwnerStable env (s.step env (.request bearer (.userUpdate data) δ)) ↔
      NoTakeover env s (.request bearer (.userUpdate data) δ) := by
  simp only [step, NoTakeover]
  cases hauth : s.authenticate env bearer with
  | none => exact iff_of_true (h.later huniq rfl δ) (fun v hv => by cases hv)
  | some w =>
      cases w with
      | none =>
          refine iff_of_true ?_ (fun v hv => by cases hv)
          refine h.later huniq ?_ δ
          rw [handle_eq_dispatch]
          rfl
      | some v =>
          simp only [handle_userUpdate]
          split
          · next hok =>
            rw [Bool.and_eq_true] at hok
            rw [ownerStable_ecrire h huniq (authenticate_mem hauth) hok.2]
            constructor
            · rintro hsafe v' heq - -
              obtain rfl := Option.some.inj (Option.some.inj heq)
              exact hsafe
            · intro hsafe
              exact hsafe v rfl hok.1 hok.2
          · next hrefused =>
            refine iff_of_true (h.later huniq rfl δ) ?_
            intro v' heq harray hflush
            obtain rfl := Option.some.inj (Option.some.inj heq)
            rw [harray, hflush] at hrefused
            exact absurd rfl hrefused

/-- **One event.** -/
theorem ownerStable_step (h : OwnerStable env s) (huniq : UniqueEmails env s.db) (e : Event) :
    OwnerStable env (s.step env e) ↔ NoTakeover env s e := by
  cases e with
  | login email password => exact iff_of_true (h.login huniq email password) trivial
  | tick δ => exact iff_of_true (h.later huniq rfl δ) trivial
  | request bearer req δ =>
      by_cases hreq : ∃ data, req = .userUpdate data
      · obtain ⟨data, rfl⟩ := hreq
        exact ownerStable_userUpdate h huniq bearer data δ
      · have hother : ∀ data, req ≠ .userUpdate data := fun data heq => hreq ⟨data, heq⟩
        refine iff_of_true ?_ ?_
        · simp only [step]
          split
          · exact h.later huniq rfl δ
          · exact h.later huniq (utilisateurs_handle hother) δ
        · cases req with
          | userUpdate data => exact absurd rfl (hother data)
          | _ => trivial

/-- **When a token never changes owner.** In a run of logins and API requests from a state with unique
e-mails, every valid token resolves to its own account or to none in every state exactly when no
accepted change of profile takes an e-mail that a valid token of another account carries. -/
theorem ownerStable_run (env : Env) (s : Serveur) (huniq : UniqueEmails env s.db)
    (hok : OwnerStable env s) (es : List Event) :
    Always (step env) (OwnerStable env) s es ↔ Along (step env) (NoTakeover env) s es :=
  always_iff_along (J := fun s => UniqueEmails env s.db) (fun _ e huniq _ _ => uniqueEmails_step huniq e)
    (fun _ e huniq h => ownerStable_step h huniq e) huniq hok

/-- The server over the fixtures, before any login. -/
def initial : Serveur := ⟨AppFixtures.load .plain, 0, []⟩

theorem uniqueEmails_initial : UniqueEmails .plain initial.db := by
  unfold UniqueEmails
  decide +kernel

theorem ownerStable_initial : OwnerStable .plain initial := fun _ hp => by cases hp

/-- The token of a login at time 0. -/
def tokenOf (email : String) : Token := ⟨email, tokenTtl⟩

/-- Alice renames herself: her token then resolves to nobody. -/
theorem ownerStable_run_alice :
    let es : List Event := [.login "alice.dupont@biblio.fr" "password",
      .request (some (tokenOf "alice.dupont@biblio.fr"))
        (.userUpdate (.obj [("email", .str "alice@biblio.fr")])) 0]
    Along (step .plain) (NoTakeover .plain) initial es ∧
    Always (step .plain) (OwnerStable .plain) initial es := by
  intro es
  have hno : Along (step .plain) (NoTakeover .plain) initial es := by
    refine ⟨trivial, ?_, trivial⟩
    intro v _ _ _ p hp _ hmail
    have hissued : (step .plain initial (.login "alice.dupont@biblio.fr" "password")).issued =
        [(tokenOf "alice.dupont@biblio.fr", 2)] := by decide +kernel
    rw [hissued, List.mem_singleton] at hp
    subst hp
    have hne : "alice.dupont@biblio.fr" ≠ "alice@biblio.fr" := by decide
    exact absurd hmail hne
  exact ⟨hno, (ownerStable_run .plain initial uniqueEmails_initial ownerStable_initial es).mpr hno⟩

/-- Alice renames herself, and Anthony takes the e-mail she had: within the day, her old token is
served as him. -/
theorem token_takeover :
    let s := run (step .plain) initial
      [.login "alice.dupont@biblio.fr" "password",
        .request (some (tokenOf "alice.dupont@biblio.fr"))
          (.userUpdate (.obj [("email", .str "alice@biblio.fr")])) 0,
        .login "anthony.durand@biblio.fr" "password",
        .request (some (tokenOf "anthony.durand@biblio.fr"))
          (.userUpdate (.obj [("email", .str "alice.dupont@biblio.fr")])) 0]
    UniqueEmails .plain initial.db ∧ (tokenOf "alice.dupont@biblio.fr", 2) ∈ s.issued ∧
    (jwt .plain s.now (tokenOf "alice.dupont@biblio.fr") s.db).map (·.id) = some 3 ∧
    ¬ OwnerStable .plain s := by
  intro s
  have hmem : (tokenOf "alice.dupont@biblio.fr", 2) ∈ s.issued := by decide +kernel
  have hjwt : (jwt .plain s.now (tokenOf "alice.dupont@biblio.fr") s.db).map (·.id) = some 3 := by
    decide +kernel
  refine ⟨uniqueEmails_initial, hmem, hjwt, ?_⟩
  intro h
  obtain ⟨v, hv, hid⟩ := Option.map_eq_some_iff.mp hjwt
  have howner := h _ hmem v hv
  omega

end Serveur

end Bibliotheque
