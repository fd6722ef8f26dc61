import Bibliotheque.Security.Tokens
import Bibliotheque.BackOffice

/-! # Suspended accounts

`enabled` is read in one place, `AdminAuthenticator`. There a suspended account is turned away
whatever it presents. `json_login` and the bearer tokens of the API treat it like any other: it gets
in exactly with the credentials or with a token that would let it in if it were not suspended
(`suspended_refused_iff`), and can go on reserving books (`suspended_reserves`). -/

namespace Bibliotheque

open Lib

/-! ## The server with its back office -/

namespace Serveur

/-- What happens to the server: the API, or a request to the back office. -/
inductive FullEvent where
  | api (e : Event)
  | admin (user : Option Nat) (req : AdminRequest)

def fullStep (env : Env) (s : Serveur) : FullEvent → Serveur
  | .api e => s.step env e
  | .admin user req =>
      { s with db := s.db.asRequester user fun w => adminHandle env s.now w req s.db }

end Serveur

section Emails

variable {env : Env} {db : Db}

/-- A new account is only taken with an e-mail no other has. -/
theorem UniqueEmails.insert (huniq : UniqueEmails env db) {u : Utilisateur}
    (hid : u.id = db.utilisateurs.next) (hlibre : emailLibre env u.id u.email db = true) :
    UniqueEmails env { db with utilisateurs := db.utilisateurs.insert u } := by
  have hnew : ∀ v ∈ db.utilisateurs.rows, env.collation v.email ≠ env.collation u.email := by
    intro v hv hmail
    have heq := emailLibre_eq_true.mp hlibre v hv hmail
    have hlt : v.id < db.utilisateurs.next := db.utilisateurs.lt_next v hv
    omega
  intro a ha b hb hmail
  rcases List.mem_append.mp ha with hold | ha
  · rcases List.mem_append.mp hb with hold' | hb
    · exact huniq a hold b hold' hmail
    · rw [List.mem_singleton.mp hb] at hmail
      exact absurd hmail (hnew a hold)
  · rcases List.mem_append.mp hb with hold' | hb
    · rw [List.mem_singleton.mp ha] at hmail
      exact absurd hmail.symm (hnew b hold')
    · rw [List.mem_singleton.mp ha, List.mem_singleton.mp hb]

/-- So is a changed one. -/
theorem UniqueEmails.updateAt (huniq : UniqueEmails env db) {id : Nat} {u' : Utilisateur}
    (hlibre : emailLibre env id u'.email db = true) :
    UniqueEmails env
      { db with
        utilisateurs := db.utilisateurs.updateAt id (fun v => { u' with id := v.id })
          (fun _ => rfl) } := by
  have hnew := emailLibre_eq_true.mp hlibre
  intro a ha b hb hmail
  obtain ⟨a₀, ha₀, rfl⟩ := List.mem_map.mp ha
  obtain ⟨b₀, hb₀, rfl⟩ := List.mem_map.mp hb
  split at hmail
  · next hida =>
    split at hmail
    · next hidb => rw [if_pos hida, if_pos hidb]; exact hida.trans hidb.symm
    · next hidb =>
      rw [if_pos hida, if_neg hidb]
      exact absurd (hnew b₀ hb₀ hmail.symm) hidb
  · next hida =>
    split at hmail
    · next hidb => exact absurd (hnew a₀ ha₀ hmail) hida
    · next hidb =>
      rw [if_neg hida, if_neg hidb]
      exact huniq a₀ ha₀ b₀ hb₀ hmail

/-- The requests on the controller of accounts. -/
def AdminRequest.ecritComptes : AdminRequest → Bool
  | utilisateurNew _ => true
  | utilisateurEdit _ _ => true
  | utilisateurDelete _ => true
  | _ => false

/-- The other controllers leave the accounts alone. -/
theorem utilisateurs_adminDispatch {now : Int} {req : AdminRequest} {db' : Db}
    (hreq : req.ecritComptes = false) (h : adminDispatch env now db req = some db') :
    db'.utilisateurs = db.utilisateurs := by
  cases req with
  | page => cases h
  | livreNew f =>
      obtain ⟨l, -, rfl⟩ := Option.map_eq_some_iff.mp h
      rfl
  | livreEdit id f =>
      simp only [adminDispatch, LivreCrudController.updateEntity, Option.bind_eq_bind,
        Option.bind_eq_some_iff, Option.pure_def, Option.some.injEq] at h
      obtain ⟨l, -, l', -, rfl⟩ := h
      rfl
  | livreDelete id =>
      simp only [adminDispatch, LivreCrudController.deleteEntity, Option.bind_eq_bind,
        Option.bind_eq_some_iff] at h
      obtain ⟨l, -, h⟩ := h
      split at h
      · cases h
      · obtain rfl := Option.some.inj h
        rfl
  | auteurNew f =>
      obtain ⟨a, -, rfl⟩ := Option.map_eq_some_iff.mp h
      rfl
  | auteurEdit id f =>
      simp only [adminDispatch, AuteurCrudController.updateEntity, Option.bind_eq_bind,
        Option.bind_eq_some_iff, Option.pure_def, Option.some.injEq] at h
      obtain ⟨a, -, a', -, rfl⟩ := h
      rfl
  | auteurDelete id =>
      simp only [adminDispatch, AuteurCrudController.deleteEntity, Option.bind_eq_bind,
        Option.bind_eq_some_iff, Option.pure_def, Option.some.injEq] at h
      obtain ⟨a, -, rfl⟩ := h
      rfl
  | categorieNew f =>
      obtain ⟨c, -, rfl⟩ := Option.map_eq_some_iff.mp h
      rfl
  | categorieEdit id f =>
      simp only [adminDispatch, CategorieCrudController.updateEntity, Option.bind_eq_bind,
        Option.bind_eq_some_iff, Option.pure_def, Option.some.injEq] at h
      obtain ⟨c, -, c', -, rfl⟩ := h
      rfl
  | categorieDelete id =>
      simp only [adminDispatch, CategorieCrudController.deleteEntity, Option.bind_eq_bind,
        Option.bind_eq_some_iff, Option.pure_def, Option.some.injEq] at h
      obtain ⟨c, -, rfl⟩ := h
      rfl
  | empruntNew f =>
      obtain rfl := Option.some.inj h
      have heff := EmpruntCrudController.persistEntity_effect now f db
      generalize (EmpruntCrudController.persistEntity now f db).commit db = db' at heff
      cases heff <;> rfl
  | empruntEdit id f =>
      obtain rfl := Option.some.inj h
      have heff := EmpruntCrudController.updateEntity_effect id f db
      generalize (EmpruntCrudController.updateEntity id f db).2 = db' at heff
      cases heff <;> rfl
  | empruntDelete id =>
      obtain rfl := Option.some.inj h
      rfl
  | reservationNew date => cases h
  | reservationEdit id date =>
      obtain rfl := Option.some.inj h
      rfl
  | reservationDelete id =>
      obtain rfl := Option.some.inj h
      rfl
  | utilisateurNew f => cases hreq
  | utilisateurEdit id f => cases hreq
  | utilisateurDelete id => cases hreq

/-- An account a form describes has the key it is made with. -/
theorem UtilisateurCrudController.entite_id {id : Nat} {dateAdhesion : Int}
    {password : Option String} {f : UtilisateurForm} {u : Utilisateur}
    (h : entite env id dateAdhesion password f = some u) : u.id = id := by
  simp only [entite, Option.bind_eq_bind, Option.bind_eq_some_iff] at h
  obtain ⟨_, -, _, -, _, -, _, -, _, -, _, -, _, -, _, -, h⟩ := h
  split at h
  · obtain rfl := Option.some.inj h
    rfl
  · cases h

/-- The unique index holds after every back-office request. -/
theorem UniqueEmails.adminDispatch (huniq : UniqueEmails env db) {now : Int} {req : AdminRequest}
    {db' : Db} (h : adminDispatch env now db req = some db') : UniqueEmails env db' := by
  cases hreq : req.ecritComptes with
  | false => exact huniq.of_utilisateurs (utilisateurs_adminDispatch hreq h)
  | true =>
      cases req with
      | utilisateurNew f =>
          simp only [Bibliotheque.adminDispatch, UtilisateurCrudController.persistEntity,
            Option.bind_eq_bind, Option.bind_eq_some_iff] at h
          obtain ⟨u, hu, h⟩ := h
          split at h
          · next hlibre =>
            obtain rfl := Option.some.inj h
            exact huniq.insert (UtilisateurCrudController.entite_id hu) hlibre
          · cases h
      | utilisateurEdit id f =>
          simp only [Bibliotheque.adminDispatch, UtilisateurCrudController.updateEntity,
            Option.bind_eq_bind, Option.bind_eq_some_iff] at h
          obtain ⟨u, -, u', -, h⟩ := h
          split at h
          · next hlibre =>
            obtain rfl := Option.some.inj h
            exact huniq.updateAt hlibre
          · cases h
      | utilisateurDelete id =>
          obtain rfl := Option.some.inj h
          intro a ha b hb
          exact huniq a (List.mem_filter.mp ha).1 b (List.mem_filter.mp hb).1
      | _ => cases hreq

end Emails

namespace Serveur

theorem uniqueEmails_fullStep {env : Env} {s : Serveur} (huniq : UniqueEmails env s.db)
    (e : FullEvent) : UniqueEmails env (s.fullStep env e).db := by
  cases e with
  | api e => exact uniqueEmails_step huniq e
  | admin user req =>
      refine Db.asRequester_ind huniq ?_
      intro w _ _
      rw [adminHandle_eq]
      split
      · cases hdisp : adminDispatch env s.now s.db req with
        | none => exact huniq
        | some db' => exact huniq.adminDispatch hdisp
      · exact huniq

theorem uniqueEmails_run {env : Env} {s : Serveur} (huniq : UniqueEmails env s.db)
    (es : List FullEvent) : UniqueEmails env (run (fullStep env) s es).db :=
  Always.last (I := fun s : Serveur => UniqueEmails env s.db)
    (always_of_along (P := fun _ _ => True) (fun _ e h _ => uniqueEmails_fullStep h e) huniq
      (along_of_forall fun _ _ => trivial))

/-! ## The ways in -/

/-- An attempt to be recognised: through the form of the back office, through `/api/login_check`, or by
a bearer token. A session that is open already, or a remember-me cookie, is no attempt. -/
inductive Attempt where
  | form (csrf : Bool) (email password : String)
  | login (email password : String)
  | bearer (t : Token)
  deriving DecidableEq, Repr

/-- The attempt is accepted as the account `u`: a session or a token is issued to it, or the request
is served as it. -/
def Accepted (env : Env) (s : Serveur) (u : Utilisateur) : Attempt → Prop
  | .form csrf email password =>
      AdminAuthenticator.authenticate env csrf email password s.db = .ok u
  | .login email password => ∃ t, jsonLogin env s.now email password s.db = some (u, t)
  | .bearer t => s.authenticate env (some t) = some (some u)

/-- The attempt presents what belongs to the account: its e-mail with its password, or a token, issued
and not expired, that carries its e-mail. -/
def Presents (env : Env) (s : Serveur) (u : Utilisateur) : Attempt → Prop
  | .form csrf email password =>
      csrf = true ∧ env.collation u.email = env.collation email ∧
        credentialsValid env u password = true
  | .login email password =>
      env.collation u.email = env.collation email ∧ credentialsValid env u password = true
  | .bearer t =>
      t ∈ s.issued.map Prod.fst ∧ t.valid s.now = true ∧
        env.collation u.email = env.collation t.identifier

section Paths

variable {env : Env} {s : Serveur} {u : Utilisateur}

/-- The form turns a suspended account away. -/
theorem form_refused (hsusp : u.enabled = false) (csrf : Bool) (email password : String) :
    ¬ Accepted env s u (.form csrf email password) := by
  simp only [Accepted, AdminAuthenticator.authenticate]
  intro h
  split at h
  · cases h
  · split at h
    · cases h
    · split at h
      · cases h
      · next henabled =>
        split at h
        -- the account accepted is the one whose flag was tested
        · obtain rfl := Except.ok.inj h
          rw [hsusp] at henabled
          exact henabled rfl
        · cases h

theorem login_accepted_iff (huniq : UniqueEmails env s.db) (hu : u ∈ s.db.utilisateurs.rows)
    (email password : String) :
    Accepted env s u (.login email password) ↔ Presents env s u (.login email password) := by
  simp only [Accepted, Presents, jsonLogin]
  constructor
  · rintro ⟨t, h⟩
    split at h
    · cases h
    · next v hload =>
      split at h
      · next hcred =>
        obtain ⟨rfl, -⟩ := Prod.mk.inj (Option.some.inj h)
        exact ⟨((loadUserByIdentifier_eq_some huniq).mp hload).2, hcred⟩
      · cases h
  · rintro ⟨hmail, hcred⟩
    rw [(loadUserByIdentifier_eq_some huniq).mpr ⟨hu, hmail⟩]
    exact ⟨_, if_pos hcred⟩

theorem bearer_accepted_iff (huniq : UniqueEmails env s.db) (hu : u ∈ s.db.utilisateurs.rows)
    (t : Token) : Accepted env s u (.bearer t) ↔ Presents env s u (.bearer t) := by
  simp only [Accepted, Presents, authenticate, jwt]
  constructor
  · intro h
    split at h
    · next hissued =>
      split at h
      · next hvalid =>
        obtain ⟨v, hv, heq⟩ := Option.map_eq_some_iff.mp h
        obtain rfl := Option.some.inj heq
        exact ⟨hissued, hvalid, ((loadUserByIdentifier_eq_some huniq).mp hv).2⟩
      · cases h
    · cases h
  · rintro ⟨hissued, hvalid, hmail⟩
    rw [if_pos hissued, if_pos hvalid, (loadUserByIdentifier_eq_some huniq).mpr ⟨hu, hmail⟩]
    rfl

end Paths

/-- **When a suspended account is refused.** In every state that logins, API requests and back-office
requests can lead to from one with unique e-mails, an attempt is refused to a suspended account
exactly when it goes through the form of the back office or does not present what belongs to the
account. -/
theorem suspended_refused_iff (env : Env) (s₀ : Serveur) (huniq : UniqueEmails env s₀.db)
    (es : List FullEvent) (u : Utilisateur)
    (hu : u ∈ (run (fullStep env) s₀ es).db.utilisateurs.rows) (hsusp : u.enabled = false)
    (a : Attempt) :
    ¬ Accepted env (run (fullStep env) s₀ es) u a ↔
      (∃ csrf email password, a = .form csrf email password) ∨
        ¬ Presents env (run (fullStep env) s₀ es) u a := by
  have huniq' := uniqueEmails_run huniq es
  cases a with
  | form csrf email password =>
      exact iff_of_true (form_refused hsusp csrf email password) (Or.inl ⟨_, _, _, rfl⟩)
  | login email password => simp [login_accepted_iff huniq' hu]
  | bearer t => simp [bearer_accepted_iff huniq' hu]

/-- Alice logs in, and then a bibliothécaire suspends her. -/
def suspensionDAlice : List FullEvent :=
  [.api (.login "alice.dupont@biblio.fr" "password"),
    .admin (some 5) (.utilisateurEdit 2
      { nom := some "Dupont", prenom := some "Alice", email := some "alice.dupont@biblio.fr"
        password := "", dateNaiss := some (date 1998 5 12)
        adressePostale := some "12 rue Victor Hugo, 31000 Toulouse", numTel := some "0612345678"
        photo := none, roles := [.adherent], enabled := false })]

/-- Her row after that. -/
def aliceSuspendue : Utilisateur :=
  ⟨2, date 2025 1 15, "Dupont", "Alice", date 1998 5 12, "alice.dupont@biblio.fr",
    "12 rue Victor Hugo, 31000 Toulouse", "0612345678", none, false, [.adherent], "password"⟩

theorem aliceSuspendue_mem :
    aliceSuspendue ∈ (run (fullStep .plain) initial suspensionDAlice).db.utilisateurs.rows := by
  decide +kernel

/-- The back office does not let her in. -/
theorem alice_form_refused :
    aliceSuspendue.enabled = false ∧
    ¬ Accepted .plain (run (fullStep .plain) initial suspensionDAlice) aliceSuspendue
      (.form true "alice.dupont@biblio.fr" "password") :=
  ⟨rfl, (suspended_refused_iff .plain initial uniqueEmails_initial suspensionDAlice aliceSuspendue
    aliceSuspendue_mem rfl _).mpr (Or.inl ⟨_, _, _, rfl⟩)⟩

/-- The API does: she logs in again, and with the token from before she reserves a book. -/
theorem suspended_reserves :
    let s := run (fullStep .plain) initial suspensionDAlice
    let token := tokenOf "alice.dupont@biblio.fr"
    (aliceSuspendue ∈ s.db.utilisateurs.rows ∧ aliceSuspendue.enabled = false) ∧
    Accepted .plain s aliceSuspendue (.login "alice.dupont@biblio.fr" "password") ∧
    Accepted .plain s aliceSuspendue (.bearer token) ∧
    (s.step .plain (.request (some token) (.reservationCreate (.obj [("livreId", .int 1)])) 0)
      ).db.reservations.rows = [⟨1, 0, 2, 1⟩] := by
  intro s token
  have huniq : UniqueEmails .plain s.db := uniqueEmails_run uniqueEmails_initial _
  refine ⟨⟨aliceSuspendue_mem, rfl⟩, ?_, ?_, ?_⟩
  · rw [login_accepted_iff huniq aliceSuspendue_mem]
    exact ⟨rfl, by decide +kernel⟩
  · rw [bearer_accepted_iff huniq aliceSuspendue_mem]
    exact ⟨by decide +kernel, by decide +kernel, rfl⟩
  · decide +kernel

end Serveur

end Bibliotheque
