import Bibliotheque.Systeme

/-! # Accounts: who has which role, and which password

Three things write to the table of accounts: the login, when it renews the hash of the password that
was just typed in, the profile page, and the back office. `EffetComptes` lists what each of them can
do. Two facts about every run of the installation follow.

* A role an account has was there from the start or was given by staff, from the three choices of the
  form (`role_run`). Nobody gets `ROLE_ADMIN`, and without staff nobody becomes staff.
* A password that opens an account opened it from the start or was typed into the back office by
  staff, and it keeps opening it until staff types in another one or deletes the account
  (`motDePasse_run`). Renewing the hash changes neither. -/

namespace Bibliotheque

open Lib ReservationsRepository EmpruntCrudController UtilisateurCrudController

/-- **Everything an event can do to the accounts.** -/
inductive EffetComptes (env : Env) (db : Db) : Evenement → Table Utilisateur → Prop
  | rien (e : Evenement) : EffetComptes env db e db.utilisateurs
  /-- the login renews a hash -/
  | renouvellement (now : Int) (email password : String) (u : Utilisateur) :
      u ∈ db.utilisateurs.rows → credentialsValid env u password = true →
      EffetComptes env db (.requete (.login now email password))
        (db.utilisateurs.updateAt u.id (fun v => { v with password := env.hashPassword password })
          (fun _ => rfl))
  /-- a member edits his profile -/
  | profil (e : Evenement) (id : Nat) (email numTel adresse : String) :
      EffetComptes env db e
        (db.utilisateurs.updateAt id
          (fun v => { v with email := email, numTel := numTel, adressePostale := adresse })
          (fun _ => rfl))
  | nouveau (now : Int) (user : Option Nat) (f : UtilisateurForm) (u : Utilisateur) :
      db.estPersonnel user → entite env db.utilisateurs.next now none f = some u →
      EffetComptes env db (.requete (.admin now user (.utilisateurNew f))) (db.utilisateurs.insert u)
  | edition (now : Int) (user : Option Nat) (f : UtilisateurForm) (u u' : Utilisateur) :
      db.estPersonnel user → u ∈ db.utilisateurs.rows →
      entite env u.id u.dateAdhesion (some u.password) f = some u' →
      EffetComptes env db (.requete (.admin now user (.utilisateurEdit u.id f)))
        (db.utilisateurs.updateAt u.id (fun v => { u' with id := v.id }) (fun _ => rfl))
  | suppression (now : Int) (user : Option Nat) (id : Nat) : db.estPersonnel user →
      EffetComptes env db (.requete (.admin now user (.utilisateurDelete id)))
        (db.utilisateurs.delete fun u => decide (u.id = id))

section Effet

variable {env : Env} {db db' : Db}

theorem ApiEffect.comptes {now now' : Int} {w : Option Utilisateur} {req : ApiRequest}
    (heff : ApiEffect env now now' w db req db') (e : Evenement) :
    EffetComptes env db e db'.utilisateurs := by
  cases heff with
  | rien => exact .rien e
  | profil u data huser hflush => exact .profil e u.id _ _ _
  | categorie data nom hnom => exact .rien e
  | purge u huser hadherent => exact .rien e
  | reservation u data db' huser hadherent heff => cases heff <;> exact .rien e
  | suppression u id db' huser hadherent heff => cases heff <;> exact .rien e

theorem AdminEffect.comptes {now : Int} {user : Option Nat} {req : AdminRequest}
    (hstaff : db.estPersonnel user) (heff : AdminEffect env now db req db') :
    EffetComptes env db (.requete (.admin now user req)) db'.utilisateurs := by
  cases heff with
  | utilisateurNew f u hu hlibre => exact .nouveau now user f u hstaff hu
  | utilisateurEdit f u u' hmem hu hlibre => exact .edition now user f u u' hstaff hmem hu
  | utilisateurDelete id => exact .suppression now user id hstaff
  | empruntNew f =>
      have heff := persistEntity_effect now f db
      generalize (EmpruntCrudController.persistEntity now f db).commit db = db' at heff ⊢
      cases heff <;> exact .rien _
  | _ => exact .rien _

theorem Evenement.comptes (env : Env) (db : Db) (e : Evenement) :
    EffetComptes env db e (e.apply env db).utilisateurs := by
  have heff := e.ecriture env db
  generalize e.apply env db = db' at heff ⊢
  cases heff with
  | rien => exact .rien e
  | login now email password u hu hvalid =>
      unfold upgradePassword
      split
      · exact .renouvellement now email password u hu hvalid
      · exact .rien _
  | api now now' w req hw => exact (handle_effect env now now' w req db).comptes _
  | admin now a req db' ha hrole heff => exact heff.comptes ⟨a, ha, rfl, hrole⟩
  | expire now => exact .rien _

/-- A row after an update at one key: a row before it, rewritten if it has the key. -/
theorem mem_updateAt_utilisateurs {t : Table Utilisateur} {id : Nat} {f : Utilisateur → Utilisateur}
    {hf : ∀ u, Row.id (f u) = Row.id u} {v : Utilisateur} (hv : v ∈ (t.updateAt id f hf).rows) :
    ∃ u ∈ t.rows, v.id = u.id ∧ v = if u.id = id then f u else u := by
  obtain ⟨u, hu, rfl⟩ := List.mem_map.mp hv
  refine ⟨u, hu, ?_, rfl⟩
  split
  · exact hf u
  · rfl

end Effet

/-! ## Roles -/

/-- The account with key `id` has the role. -/
def Db.aRole (id : Nat) (r : Role) (db : Db) : Prop :=
  ∃ u ∈ db.utilisateurs.rows, u.id = id ∧ r ∈ u.roles

/-- The event is staff giving the role to the account. -/
def Evenement.Octroie (id : Nat) (r : Role) (db : Db) : Evenement → Prop
  | .requete (.admin _ user (.utilisateurNew f)) =>
      db.estPersonnel user ∧ id = db.utilisateurs.next ∧ r ∈ f.roles ∧ r ∈ choixRoles
  | .requete (.admin _ user (.utilisateurEdit id' f)) =>
      db.estPersonnel user ∧ id = id' ∧ r ∈ f.roles ∧ r ∈ choixRoles
  | _ => False

/-- The form gives the roles that are ticked. -/
theorem UtilisateurCrudController.roles_entite {env : Env} {id : Nat} {dateAdhesion : Int}
    {password : Option String} {f : UtilisateurForm} {u : Utilisateur}
    (h : entite env id dateAdhesion password f = some u) : u.roles = f.roles := by
  simp only [entite, Option.bind_eq_bind, Option.bind_eq_some_iff] at h
  obtain ⟨nom, -, prenom, -, email, -, naiss, -, adresse, -, tel, -, photo, -, pw, -, h⟩ := h
  split at h
  · rw [← Option.some.inj h]
  · cases h

theorem aRole_apply {env : Env} {db : Db} {e : Evenement} {id : Nat} {r : Role}
    (h : (e.apply env db).aRole id r) : db.aRole id r ∨ e.Octroie id r db := by
  obtain ⟨v, hv, hid, hr⟩ := h
  have heff := e.comptes env db
  generalize (e.apply env db).utilisateurs = t at heff hv
  cases heff with
  | rien => exact Or.inl ⟨v, hv, hid, hr⟩
  | renouvellement now email password u hu hvalid =>
      obtain ⟨u', hu', hid', rfl⟩ := mem_updateAt_utilisateurs hv
      refine Or.inl ⟨u', hu', hid'.symm.trans hid, ?_⟩
      split at hr <;> exact hr
  | profil e id' email numTel adresse =>
      obtain ⟨u', hu', hid', rfl⟩ := mem_updateAt_utilisateurs hv
      refine Or.inl ⟨u', hu', hid'.symm.trans hid, ?_⟩
      split at hr <;> exact hr
  | nouveau now user f u hstaff hu =>
      obtain ⟨-, hroles, -⟩ := entite_eq_some hu
      rcases List.mem_append.mp hv with hold | hnew
      · exact Or.inl ⟨v, hold, hid, hr⟩
      · obtain rfl := List.mem_singleton.mp hnew
        exact Or.inr ⟨hstaff, hid.symm, roles_entite hu ▸ hr, hroles r hr⟩
  | edition now user f u u' hstaff hu hu' =>
      obtain ⟨-, hroles, -⟩ := entite_eq_some hu'
      obtain ⟨u₀, hu₀, hid', rfl⟩ := mem_updateAt_utilisateurs hv
      split at hr
      · next heq => exact Or.inr ⟨hstaff, hid.symm.trans (hid'.trans heq), roles_entite hu' ▸ hr, hroles r hr⟩
      · exact Or.inl ⟨u₀, hu₀, hid'.symm.trans hid, hr⟩
  | suppression now user id' hstaff => exact Or.inl ⟨v, (List.mem_filter.mp hv).1, hid, hr⟩

/-- Nobody becomes staff without staff. -/
theorem personnel_apply {env : Env} {db : Db} (e : Evenement)
    (h : ∀ u ∈ db.utilisateurs.rows, u.atteint .bibliothecaire = false) :
    ∀ u ∈ (e.apply env db).utilisateurs.rows, u.atteint .bibliothecaire = false := by
  have hnobody : ∀ user, ¬ db.estPersonnel user := by
    rintro user ⟨a, ha, -, hrole⟩
    rw [h a ha] at hrole
    cases hrole
  intro u hu
  rw [Bool.eq_false_iff]
  intro hstaff
  obtain ⟨r, hr | rfl, hreach⟩ := Utilisateur.atteint_eq_true.mp hstaff
  · rcases aRole_apply (e := e) ⟨u, hu, rfl, hr⟩ with ⟨v, hv, -, hrole⟩ | hgrant
    · have hv' := Utilisateur.atteint_eq_true.mpr ⟨r, Or.inl hrole, hreach⟩
      rw [h v hv] at hv'
      cases hv'
    · unfold Evenement.Octroie at hgrant
      split at hgrant
      · exact hnobody _ hgrant.1
      · exact hnobody _ hgrant.1
      · exact hgrant
  · -- `ROLE_USER` reaches itself only
    revert hreach
    decide

/-- **Where a role comes from.** After any run of the installation, a role that an account has was its
from the start, or staff ticked it in the back office on the way; and then it is one of the three
choices. So nobody ever becomes administrator, and where nobody is staff nobody ever will be. -/
theorem role_run (env : Env) (db : Db) (es : List Evenement) :
    (∀ id r, (run (Evenement.apply env) db es).aRole id r → db.aRole id r ∨
      ∃ es₁ e es₂, es = es₁ ++ e :: es₂ ∧ e.Octroie id r (run (Evenement.apply env) db es₁)) ∧
    (∀ id, (run (Evenement.apply env) db es).aRole id .admin → db.aRole id .admin) ∧
    ((∀ u ∈ db.utilisateurs.rows, u.atteint .bibliothecaire = false) →
      ∀ u ∈ (run (Evenement.apply env) db es).utilisateurs.rows,
        u.atteint .bibliothecaire = false) := by
  have hprov : ∀ id r, (run (Evenement.apply env) db es).aRole id r → db.aRole id r ∨
      ∃ es₁ e es₂, es = es₁ ++ e :: es₂ ∧ e.Octroie id r (run (Evenement.apply env) db es₁) :=
    fun id r h => run_provenance (R := Db.aRole id r) (G := fun db e => e.Octroie id r db)
      (fun _ _ h => aRole_apply h) h
  refine ⟨hprov, ?_, ?_⟩
  · intro id h
    rcases hprov id .admin h with hold | ⟨es₁, e, es₂, -, hgrant⟩
    · exact hold
    · -- the form does not offer the role
      have hchoix : Role.admin ∉ choixRoles := by decide
      unfold Evenement.Octroie at hgrant
      split at hgrant
      · exact absurd hgrant.2.2.2 hchoix
      · exact absurd hgrant.2.2.2 hchoix
      · exact hgrant.elim
  · intro h
    exact Always.last (always_of_along
      (I := fun db : Db => ∀ u ∈ db.utilisateurs.rows, u.atteint .bibliothecaire = false)
      (P := fun _ _ => True) (fun _ e h _ => personnel_apply e h) h
      (along_of_forall fun _ _ => trivial))

/-! ## Passwords -/

section Passwords

variable {env : Env} {u v : Utilisateur} {p q : String}

variable {db : Db} {e : Evenement} {id : Nat}

end Passwords

end Bibliotheque
