import Bibliotheque.Client.ApiService
import Bibliotheque.Fixtures
import Bibliotheque.Security.Tokens

/-! # The page of the member's profile

`MonProfil` loads the account once and sends the three fields of its form with each save; the button is
disabled meanwhile. `profil_fidele`: never are two requests under way, the button turns exactly while a
save is, and what the page shows is the account as the server has it, unless the answer to a save was
lost after the last one that came. When it says that a save has succeeded, the account has the values
that stood in the form at the click.

The requests carry the token of the login, and the token carries the e-mail of the login. So the page
can change the e-mail once: afterwards the server does not know the token any more, and no save
succeeds until the next login (`email_une_fois`). All this as long as nobody takes over the e-mail that
the token carries: then the server would take the member for somebody else. -/

namespace Bibliotheque

/-- The account a successful response carries. -/
def Response.utilisateur? (r : Response) : Option UtilisateurVue :=
  match r.body with
  | .utilisateur v => if r.ok then some v else none
  | _ => none

namespace Client

open Lib

/-- The fields bound to the form. -/
structure Coordonnees where
  email : String
  numTel : String
  adressePostale : String
  deriving DecidableEq, Repr

structure MonProfil where
  profil : Option UtilisateurVue
  loading : Bool
  saving : Bool
  succes : String
  erreur : String
  coordonnees : Coordonnees
  deriving DecidableEq, Repr

namespace MonProfil

def initial : MonProfil := ⟨none, true, false, "", "", ⟨"", "", ""⟩⟩

inductive Demande where
  | getProfil
  | updateProfil (data : Coordonnees)
  deriving DecidableEq, Repr

def Demande.api : Demande → ApiRequest
  | getProfil => .userMe
  | updateProfil data => .userUpdate (.obj [("email", .str data.email),
      ("numTel", .str data.numTel), ("adressePostale", .str data.adressePostale)])

inductive Appel where
  | ngOnInit
  | saisir (coordonnees : Coordonnees)
  | sauvegarder
  deriving DecidableEq, Repr

def call (s : MonProfil) : Appel → MonProfil × List Demande
  | .ngOnInit => (s, [.getProfil])
  | .saisir coordonnees => ({ s with coordonnees := coordonnees }, [])
  | .sauvegarder =>
      ({ s with saving := true, succes := "", erreur := "" }, [.updateProfil s.coordonnees])

/-- The callbacks of `ngOnInit`. -/
def onProfil (s : MonProfil) (r : Option Response) : MonProfil :=
  match r.bind (·.utilisateur?) with
  | some data =>
      { s with
        profil := some data
        coordonnees := ⟨data.email, data.numTel, data.adressePostale⟩
        loading := false }
  | none => { s with erreur := "Impossible de charger votre profil.", loading := false }

/-- The callbacks of `sauvegarder`. -/
def onUpdate (s : MonProfil) (r : Option Response) : MonProfil :=
  match r.bind (·.utilisateur?) with
  | some data =>
      { s with profil := some data, saving := false, succes := "Profil mis à jour avec succès !" }
  | none => { s with saving := false, erreur := "Erreur lors de la mise à jour." }

def answer (s : MonProfil) (q : Demande) (r : Option Response) : MonProfil × List Demande :=
  match q with
  | .getProfil => (s.onProfil r, [])
  | .updateProfil _ => (s.onUpdate r, [])

def component : Page MonProfil Appel Demande Response := ⟨call, answer⟩

/-- The template shows the form. -/
def formulaireAffiche (s : MonProfil) : Bool := !s.loading && s.profil.isSome

/-! ## The server's side -/

/-- The API, asked with the token of the login. The page does not look at the text of a refusal. -/
def serveur (env : Env) (jeton : Token) (now : Int) (q : Demande) (db : Db) : Response × Db :=
  match Bibliotheque.jwt env now jeton db with
  | none => (.message 401 "Invalid JWT Token", db)
  | some u => handle env now now (some u) q.api db

/-- The account has the values of the form. -/
def Porte (c : Coordonnees) (u : Utilisateur) : Prop :=
  u.email = c.email ∧ u.numTel = c.numTel ∧ u.adressePostale = c.adressePostale

/-- **What the server does with a request of the page**, for the account `k`: it refuses and changes
nothing, it shows the account, or it writes the three fields and shows the account. -/
inductive Traite (k : Nat) (db : Db) : Demande → Response → Db → Prop
  | refus (q : Demande) (r : Response) : r.utilisateur? = none → Traite k db q r db
  | profil (u : Utilisateur) (r : Response) : db.utilisateurs.find? k = some u →
      r.utilisateur? = some (serializeUser u) → Traite k db .getProfil r db
  | ecriture (c : Coordonnees) (u' : Utilisateur) (r : Response) (db' : Db) : Porte c u' →
      db'.utilisateurs.find? k = some u' → r.utilisateur? = some (serializeUser u') →
      Traite k db (.updateProfil c) r db'

section Serveur

variable {env : Env} {jeton : Token} {now : Int} {db : Db} {k : Nat}

theorem find?_ecrire {u u' : Utilisateur} (hu : u ∈ db.utilisateurs.rows) :
    (AuthController.ecrire u u' db).utilisateurs.find? u.id =
      some { u with
        email := u'.email, numTel := u'.numTel, adressePostale := u'.adressePostale } := by
  rw [Table.find?_eq_some]
  refine ⟨?_, rfl⟩
  rw [AuthController.ecrire, Table.rows_updateAt]
  exact List.mem_map.mpr ⟨u, hu, if_pos rfl⟩

theorem find?_ecrire_of_ne {u u' : Utilisateur} (hne : k ≠ u.id) :
    (AuthController.ecrire u u' db).utilisateurs.find? k = db.utilisateurs.find? k :=
  db.utilisateurs.find?_updateAt_of_ne
    (fun v => { v with
      email := u'.email, numTel := u'.numTel, adressePostale := u'.adressePostale })
    (fun _ => rfl) hne

/-- The account of a token is found by its e-mail. -/
theorem mem_of_jwt {u : Utilisateur} (h : Bibliotheque.jwt env now jeton db = some u) :
    u ∈ db.utilisateurs.rows ∧ env.collation u.email = env.collation jeton.identifier := by
  unfold Bibliotheque.jwt at h
  split at h
  · exact ⟨List.mem_of_find?_eq_some h, by simpa using List.find?_some h⟩
  · cases h

/-- The e-mail that the token carries is nobody else's. -/
def Propre (env : Env) (jeton : Token) (k : Nat) (db : Db) : Prop :=
  ∀ v ∈ db.utilisateurs.rows, env.collation v.email = env.collation jeton.identifier → v.id = k

/-- At the login it is not: e-mails are unique. -/
theorem propre_of_unique (huniq : UniqueEmails env db) {u : Utilisateur}
    (hu : u ∈ db.utilisateurs.rows) (hjeton : env.collation jeton.identifier = env.collation u.email) :
    Propre env jeton u.id db :=
  fun v hv hmail => huniq v hv u hu (hmail.trans hjeton)

/-- Then the token resolves to the account of the login, if to any. -/
theorem Propre.jwt (h : Propre env jeton k db) {v : Utilisateur}
    (hv : Bibliotheque.jwt env now jeton db = some v) : v.id = k :=
  h v (mem_of_jwt hv).1 (mem_of_jwt hv).2

/-- What others make of the database: the account is as it was, and no other account has come to have
the e-mail that the token carries. -/
structure Etranger (env : Env) (jeton : Token) (k : Nat) (db db' : Db) : Prop where
  compte : db'.utilisateurs.find? k = db.utilisateurs.find? k
  email : ∀ v ∈ db'.utilisateurs.rows, v.id ≠ k →
    env.collation v.email = env.collation jeton.identifier →
      ∃ v₀ ∈ db.utilisateurs.rows, v₀.id = v.id ∧
        env.collation v₀.email = env.collation jeton.identifier

theorem Etranger.of_eq {db' : Db} (h : db'.utilisateurs = db.utilisateurs) :
    Etranger env jeton k db db' where
  compte := by rw [h]
  email := fun v hv _ hmail => ⟨v, h ▸ hv, rfl, hmail⟩

/-- Other members' requests are such, unless one of them changes its e-mail to that one. -/
theorem Etranger.api {db' : Db} {now' : Int} {w : Option Utilisateur} {req : ApiRequest}
    (hw : ∀ v, w = some v → v.id ≠ k)
    (hmail : ∀ v data, w = some v → req = .userUpdate data →
      env.collation (AuthController.bind v data).email ≠ env.collation jeton.identifier)
    (heff : ApiEffect env now now' w db req db') : Etranger env jeton k db db' := by
  cases heff with
  | rien => exact .of_eq rfl
  | profil v data hv hflush =>
      refine ⟨find?_ecrire_of_ne (hw v hv).symm, ?_⟩
      intro a ha _ hsame
      rcases AuthController.mem_ecrire ha with ⟨-, he⟩ | ⟨hold, -⟩
      · rw [he] at hsame
        exact absurd hsame (hmail v data hv rfl)
      · exact ⟨a, hold, rfl, hsame⟩
  | categorie data nom hnom => exact .of_eq rfl
  | purge v hv hadherent => exact .of_eq rfl
  | reservation v data db' hv hadherent heff => cases heff <;> exact .of_eq rfl
  | suppression v id db' hv hadherent heff => cases heff <;> exact .of_eq rfl

theorem Propre.etranger {db' : Db} (h : Propre env jeton k db) (he : Etranger env jeton k db db') :
    Propre env jeton k db' := by
  intro v hv hmail
  by_contra hne
  obtain ⟨v₀, hv₀, hid, hmail₀⟩ := he.email v hv hne hmail
  exact hne (hid.symm.trans (h v₀ hv₀ hmail₀))

/-- The page writes to the account only. -/
theorem Propre.repond (h : Propre env jeton k db) (now : Int) (q : Demande) :
    Propre env jeton k (serveur env jeton now q db).2 := by
  unfold MonProfil.serveur
  cases hjwt : Bibliotheque.jwt env now jeton db with
  | none => exact h
  | some u =>
      have heff := handle_effect env now now (some u) q.api db
      generalize (handle env now now (some u) q.api db).2 = db' at heff ⊢
      cases q with
      | getProfil =>
          cases heff
          exact h
      | updateProfil c =>
          cases heff with
          | rien => exact h
          | profil v data hv hflush =>
              obtain rfl := Option.some.inj hv
              intro a ha hmail
              rcases AuthController.mem_ecrire ha with ⟨hid, -⟩ | ⟨hold, -⟩
              · exact hid.trans (h.jwt hjwt)
              · exact h a hold hmail

/-- As long as the e-mail is nobody else's. -/
theorem serveur_traite (h : Propre env jeton k db) (now : Int) (q : Demande) :
    Traite k db q (serveur env jeton now q db).1 (serveur env jeton now q db).2 := by
  unfold serveur
  cases hjwt : Bibliotheque.jwt env now jeton db with
  | none => exact .refus q _ rfl
  | some u =>
      obtain rfl := h.jwt hjwt
      obtain ⟨hu, -⟩ := mem_of_jwt hjwt
      have hfind : db.utilisateurs.find? u.id = some u := db.utilisateurs.find?_eq_some.mpr ⟨hu, rfl⟩
      simp only [handle_eq_dispatch]
      cases q with
      | getProfil => exact .profil u _ hfind rfl
      | updateProfil c =>
          simp only [Demande.api, dispatch, AuthController.update, Json.isArray, Bool.not_true,
            Bool.false_eq_true, if_false]
          split
          · exact .ecriture c _ _ _ ⟨rfl, rfl, rfl⟩ (find?_ecrire hu) rfl
          · exact .refus _ _ rfl

end Serveur

theorem answer_snd (s : MonProfil) (q : Demande) (r : Option Response) : (answer s q r).2 = [] := by
  cases q <;> rfl

/-! ## Where the page is -/

abbrev Monde := World MonProfil Db Demande Response

/-- The answer to a request was lost, and no answer with a profile has come since. -/
def incertain (log : List (Exchange Demande Response)) : Bool :=
  log.foldl (fun doute x =>
    match x.phase with
    | .done none => true
    | .done (some r) => doute && r.utilisateur?.isNone
    | _ => doute) false

theorem incertain_concat (log : List (Exchange Demande Response)) (q : Demande)
    (r : Option Response) :
    incertain (log ++ [⟨q, .done r⟩]) =
      match r with
      | none => true
      | some r => incertain log && r.utilisateur?.isNone := by
  cases r with
  | none => simp [incertain]
  | some r => simp [incertain]

/-- `v` is the account `k`, as the server has it. -/
def AJour (k : Nat) (db : Db) (v : UtilisateurVue) : Prop :=
  ∃ u, db.utilisateurs.find? k = some u ∧ v = serializeUser u

/-- The form is there: what is shown is the account, unless that is uncertain. -/
structure Affiche (k : Nat) (w : Monde) (log : List (Exchange Demande Response)) : Prop where
  settled : World.pending log = []
  loading : w.page.loading = false
  profil : ∃ v, w.page.profil = some v ∧ (incertain log = false → AJour k w.server v)

/-- The last request is a save that was confirmed, and the account has the values that were sent. -/
def Enregistre (k : Nat) (w : Monde) : Prop :=
  ∃ l c r u, w.log = l ++ [⟨.updateProfil c, .done (some r)⟩] ∧
    w.server.utilisateurs.find? k = some u ∧ Porte c u

/-- The stages of the page: the profile is asked for or on its way, it could not be had, or it is there
and a save is sent, answered, or none is under way. -/
inductive Etape (k : Nat) (w : Monde) : Prop
  | demande : w.page = .initial → w.log = [⟨.getProfil, .sent⟩] → Etape k w
  | charge (r : Response) : w.page = .initial → w.log = [⟨.getProfil, .served r⟩] →
      (∀ v, r.utilisateur? = some v → AJour k w.server v) → Etape k w
  | echec : World.pending w.log = [] → w.page.profil = none → w.page.saving = false →
      w.page.succes = "" → Etape k w
  | repos : Affiche k w w.log → w.page.saving = false → (w.page.succes ≠ "" → Enregistre k w) →
      Etape k w
  | envoi (l : List (Exchange Demande Response)) (c : Coordonnees) :
      w.log = l ++ [⟨.updateProfil c, .sent⟩] → Affiche k w l → w.page.saving = true →
      w.page.succes = "" → Etape k w
  | reponse (l : List (Exchange Demande Response)) (c : Coordonnees) (r : Response) :
      w.log = l ++ [⟨.updateProfil c, .served r⟩] → Affiche k w l → w.page.saving = true →
      w.page.succes = "" → r.utilisateur? = none → Etape k w
  | confirmation (l : List (Exchange Demande Response)) (c : Coordonnees) (r : Response)
      (u : Utilisateur) : w.log = l ++ [⟨.updateProfil c, .served r⟩] → World.pending l = [] →
      w.page.loading = false → w.page.profil.isSome = true → w.page.saving = true →
      w.page.succes = "" → r.utilisateur? = some (serializeUser u) →
      w.server.utilisateurs.find? k = some u → Porte c u → Etape k w

/-- The member has this page open: he types and clicks where there is something to type into and to
click. Others leave the account alone and do not take over the e-mail of the token. Requests and
answers may be lost. -/
def Seul (env : Env) (jeton : Token) (k : Nat) (w : Monde) : Happening Appel Int Db → Prop
  | .call .ngOnInit => False
  | .call (.saisir _) => w.page.formulaireAffiche = true
  | .call .sauvegarder => w.page.formulaireAffiche = true ∧ w.page.saving = false
  | .other db => Etranger env jeton k w.server db
  | _ => True

section Step

variable {env : Env} {jeton : Token} {k : Nat} {w : Monde}

theorem AJour.congr {db db' : Db} (hdb : db'.utilisateurs.find? k = db.utilisateurs.find? k)
    {v : UtilisateurVue} (h : AJour k db v) : AJour k db' v := by
  unfold AJour
  rwa [hdb]

/-- What is shown, and what is known of it, is the same. -/
theorem Affiche.congr {w' : Monde} {l : List (Exchange Demande Response)} (h : Affiche k w l)
    (hloading : w'.page.loading = w.page.loading) (hprofil : w'.page.profil = w.page.profil)
    (hserver : w'.server.utilisateurs.find? k = w.server.utilisateurs.find? k) :
    Affiche k w' l := by
  obtain ⟨v, hv, hjour⟩ := h.profil
  exact ⟨h.settled, hloading ▸ h.loading, v, hprofil ▸ hv, fun hsur => (hjour hsur).congr hserver⟩

theorem not_formulaireAffiche_initial : initial.formulaireAffiche = false := rfl

/-- Nothing can be typed or clicked where no form is. -/
theorem Seul.affiche {m : Appel} (h : Seul env jeton k w (.call m)) :
    w.page.formulaireAffiche = true := by
  cases m with
  | ngOnInit => exact h.elim
  | saisir c => exact h
  | sauvegarder => exact h.1

/-- The answer to the first request is there, or will not come. -/
theorem etape_charge {r : Option Response} (hpage : w.page = initial.onProfil r)
    (hlog : w.log = [⟨.getProfil, .done r⟩])
    (hjour : ∀ v, r.bind (·.utilisateur?) = some v → AJour k w.server v) : Etape k w := by
  have hsettled : World.pending w.log = [] := by simp [hlog]
  cases hr : r.bind (·.utilisateur?) with
  | none =>
      have hpage' : w.page =
          { initial with erreur := "Impossible de charger votre profil.", loading := false } := by
        rw [hpage, onProfil, hr]
      exact .echec hsettled (by rw [hpage']; rfl) (by rw [hpage']; rfl) (by rw [hpage']; rfl)
  | some v =>
      have hpage' : w.page = { initial with
          profil := some v
          coordonnees := ⟨v.email, v.numTel, v.adressePostale⟩
          loading := false } := by
        rw [hpage, onProfil, hr]
      refine .repos ⟨hsettled, by rw [hpage'], v, by rw [hpage'], fun _ => hjour v hr⟩
        (by rw [hpage']; rfl) ?_
      intro hsucces
      rw [hpage'] at hsucces
      exact absurd rfl hsucces

theorem Etape.step_demande (hpropre : Propre env jeton k w.server) (hpage : w.page = .initial)
    (hlog : w.log = [⟨.getProfil, .sent⟩]) {e : Happening Appel Int Db} (hseul : Seul env jeton k w e) :
    Etape k (World.step component (serveur env jeton) w e) := by
  have heffect := World.last_effect component (serveur env jeton) (l := []) hlog rfl e
  generalize World.step component (serveur env jeton) w e = w' at heffect ⊢
  cases heffect with
  | idle => exact .demande hpage hlog
  | call m =>
      have hform := hseul.affiche
      rw [hpage, not_formulaireAffiche_initial] at hform
      cases hform
  | serve q t hx =>
      cases hx
      have htraite := serveur_traite hpropre t .getProfil
      generalize (serveur env jeton t .getProfil w.server).1 = r at htraite ⊢
      generalize (serveur env jeton t .getProfil w.server).2 = db' at htraite ⊢
      refine .charge r hpage rfl ?_
      intro v hv
      cases htraite with
      | refus _ _ hr =>
          rw [hr] at hv
          cases hv
      | profil u _ hfind hr =>
          rw [hr] at hv
          exact ⟨u, hfind, (Option.some.inj hv).symm⟩
  | arrive q a hx => cases hx
  | fail hx => exact etape_charge (r := none) (by rw [World.page_react, hpage]; rfl) rfl (by simp)
  | other db => exact .demande hpage hlog

theorem Etape.step_charge {r : Response} (hpage : w.page = .initial)
    (hlog : w.log = [⟨.getProfil, .served r⟩])
    (hjour : ∀ v, r.utilisateur? = some v → AJour k w.server v)
    {e : Happening Appel Int Db} (hseul : Seul env jeton k w e) :
    Etape k (World.step component (serveur env jeton) w e) := by
  have heffect := World.last_effect component (serveur env jeton) (l := []) hlog rfl e
  generalize World.step component (serveur env jeton) w e = w' at heffect ⊢
  cases heffect with
  | idle => exact .charge r hpage hlog hjour
  | call m =>
      have hform := hseul.affiche
      rw [hpage, not_formulaireAffiche_initial] at hform
      cases hform
  | serve q t hx => cases hx
  | arrive q a hx =>
      cases hx
      exact etape_charge (r := some r) (by rw [World.page_react, hpage]; rfl) rfl hjour
  | fail hx => exact etape_charge (r := none) (by rw [World.page_react, hpage]; rfl) rfl (by simp)
  | other db => exact .charge r hpage hlog fun v hv => (hjour v hv).congr hseul.compte

theorem Etape.step_echec (hsettled : World.pending w.log = []) (hprofil : w.page.profil = none)
    (hsaving : w.page.saving = false) (hsucces : w.page.succes = "") {e : Happening Appel Int Db}
    (hseul : Seul env jeton k w e) : Etape k (World.step component (serveur env jeton) w e) := by
  have heffect := World.rest_effect component (serveur env jeton) hsettled e
  generalize World.step component (serveur env jeton) w e = w' at heffect ⊢
  cases heffect with
  | idle => exact .echec hsettled hprofil hsaving hsucces
  | call m =>
      have hform := hseul.affiche
      simp [formulaireAffiche, hprofil] at hform
  | other db => exact .echec hsettled hprofil hsaving hsucces

theorem Etape.step_repos (h : Affiche k w w.log) (hsaving : w.page.saving = false)
    (hsucces : w.page.succes ≠ "" → Enregistre k w) {e : Happening Appel Int Db}
    (hseul : Seul env jeton k w e) : Etape k (World.step component (serveur env jeton) w e) := by
  have heffect := World.rest_effect component (serveur env jeton) h.settled e
  generalize World.step component (serveur env jeton) w e = w' at heffect ⊢
  cases heffect with
  | idle => exact .repos h hsaving hsucces
  | call m =>
      cases m with
      | ngOnInit => exact hseul.elim
      | saisir c =>
          have hreact : w.react w.log (component.call w.page (.saisir c)) =
              { w with page := { w.page with coordonnees := c } } := by
            simp [World.react, component, call]
          rw [hreact]
          exact .repos (h.congr rfl rfl rfl) hsaving hsucces
      | sauvegarder => exact .envoi w.log w.page.coordonnees rfl (h.congr rfl rfl rfl) rfl rfl
  | other db =>
      refine .repos (h.congr rfl rfl hseul.compte) hsaving fun hne => ?_
      obtain ⟨l, c, r, u, hlog, hfind, hporte⟩ := hsucces hne
      exact ⟨l, c, r, u, hlog, hseul.compte.trans hfind, hporte⟩

/-- The answer to a save is there, or will not come: if it carries the account, that is the account
with the values of the form, and otherwise what was shown before is shown still. -/
theorem etape_reponse {l : List (Exchange Demande Response)} {c : Coordonnees} (r : Option Response)
    (hl : World.pending l = []) (hloading : w.page.loading = false) (hsucces : w.page.succes = "")
    {v : UtilisateurVue} (hv : w.page.profil = some v)
    (hrefus : ∀ r', r = some r' → r'.utilisateur? = none → incertain l = false → AJour k w.server v)
    (hconfirme : ∀ v, r.bind (·.utilisateur?) = some v →
      ∃ u, w.server.utilisateurs.find? k = some u ∧ Porte c u ∧ v = serializeUser u) :
    Etape k (w.react (l ++ [⟨.updateProfil c, .done r⟩]) (answer w.page (.updateProfil c) r)) := by
  have hlog : (w.react (l ++ [⟨.updateProfil c, .done r⟩]) (answer w.page (.updateProfil c) r)).log =
      l ++ [⟨.updateProfil c, .done r⟩] := List.append_nil _
  have hpage : (w.react (l ++ [⟨.updateProfil c, .done r⟩]) (answer w.page (.updateProfil c) r)).page =
      w.page.onUpdate r := rfl
  have hserver : (w.react (l ++ [⟨.updateProfil c, .done r⟩])
      (answer w.page (.updateProfil c) r)).server = w.server := rfl
  generalize w.react (l ++ [⟨.updateProfil c, .done r⟩]) (answer w.page (.updateProfil c) r) = w'
    at hlog hpage hserver ⊢
  have hsettled : World.pending w'.log = [] := by
    rw [hlog, World.pending_append, World.pending_done, hl]
    rfl
  cases hr : r.bind (·.utilisateur?) with
  | none =>
      rw [onUpdate, hr] at hpage
      refine .repos ⟨hsettled, ?_, v, ?_, ?_⟩ ?_ (fun hne => absurd ?_ hne)
      · rw [hpage, hloading]
      · rw [hpage, hv]
      · intro hsur
        rw [hlog, incertain_concat] at hsur
        cases r with
        | none => cases hsur
        | some r' =>
            have hnone : r'.utilisateur? = none := hr
            simp only [hnone, Option.isNone_none, Bool.and_true] at hsur
            exact (hrefus r' rfl hnone hsur).congr (by rw [hserver])
      · rw [hpage]
      · rw [hpage, hsucces]
  | some v' =>
      rw [onUpdate, hr] at hpage
      obtain ⟨u, hfind, hporte, rfl⟩ := hconfirme v' hr
      rw [← hserver] at hfind
      obtain ⟨r', rfl, -⟩ := Option.bind_eq_some_iff.mp hr
      refine .repos ⟨hsettled, ?_, _, ?_, fun _ => ⟨u, hfind, rfl⟩⟩ ?_
        (fun _ => ⟨l, c, r', u, hlog, hfind, hporte⟩)
      · rw [hpage, hloading]
      · rw [hpage]
      · rw [hpage]

/-- While a save is under way the member may type on, and not click. -/
theorem Seul.saisie {m : Appel} (hseul : Seul env jeton k w (.call m)) (hsaving : w.page.saving = true) :
    ∃ c, w.react w.log (component.call w.page m) =
      { w with page := { w.page with coordonnees := c } } := by
  cases m with
  | ngOnInit => exact hseul.elim
  | saisir c => exact ⟨c, by simp [World.react, component, call]⟩
  | sauvegarder =>
      rw [Seul, hsaving] at hseul
      cases hseul.2

theorem Etape.step_envoi (hpropre : Propre env jeton k w.server)
    {l : List (Exchange Demande Response)} {c : Coordonnees} (hlog : w.log = l ++ [⟨.updateProfil c, .sent⟩]) (h : Affiche k w l)
    (hsaving : w.page.saving = true) (hsucces : w.page.succes = "") {e : Happening Appel Int Db}
    (hseul : Seul env jeton k w e) : Etape k (World.step component (serveur env jeton) w e) := by
  have heffect := World.last_effect component (serveur env jeton) hlog h.settled e
  generalize World.step component (serveur env jeton) w e = w' at heffect ⊢
  cases heffect with
  | idle => exact .envoi l c hlog h hsaving hsucces
  | call m =>
      obtain ⟨c', hreact⟩ := hseul.saisie hsaving
      rw [hreact]
      exact .envoi l c hlog (h.congr rfl rfl rfl) hsaving hsucces
  | serve q t hx =>
      cases hx
      have htraite := serveur_traite hpropre t (.updateProfil c)
      generalize (serveur env jeton t (.updateProfil c) w.server).1 = r at htraite ⊢
      generalize (serveur env jeton t (.updateProfil c) w.server).2 = db' at htraite ⊢
      cases htraite with
      | refus _ _ hr => exact .reponse l c r rfl (h.congr rfl rfl rfl) hsaving hsucces hr
      | ecriture _ u _ _ hporte hfind hr =>
          obtain ⟨v, hv, -⟩ := h.profil
          exact .confirmation l c r u rfl h.settled h.loading (by simp [hv]) hsaving hsucces hr hfind
            hporte
  | arrive q a hx => cases hx
  | fail hx =>
      obtain ⟨v, hv, -⟩ := h.profil
      exact etape_reponse none h.settled h.loading hsucces hv (by simp) (by simp)
  | other db => exact .envoi l c hlog (h.congr rfl rfl hseul.compte) hsaving hsucces

theorem Etape.step_reponse {l : List (Exchange Demande Response)} {c : Coordonnees} {r : Response}
    (hlog : w.log = l ++ [⟨.updateProfil c, .served r⟩]) (h : Affiche k w l)
    (hsaving : w.page.saving = true) (hsucces : w.page.succes = "") (hr : r.utilisateur? = none)
    {e : Happening Appel Int Db} (hseul : Seul env jeton k w e) :
    Etape k (World.step component (serveur env jeton) w e) := by
  have heffect := World.last_effect component (serveur env jeton) hlog h.settled e
  generalize World.step component (serveur env jeton) w e = w' at heffect ⊢
  obtain ⟨v, hv, hjour⟩ := h.profil
  cases heffect with
  | idle => exact .reponse l c r hlog h hsaving hsucces hr
  | call m =>
      obtain ⟨c', hreact⟩ := hseul.saisie hsaving
      rw [hreact]
      exact .reponse l c r hlog (h.congr rfl rfl rfl) hsaving hsucces hr
  | serve q t hx => cases hx
  | arrive q a hx =>
      cases hx
      refine etape_reponse (some r) h.settled h.loading hsucces hv (fun _ _ _ => hjour) ?_
      intro v' hv'
      rw [Option.bind_some, hr] at hv'
      cases hv'
  | fail hx =>
      exact etape_reponse none h.settled h.loading hsucces hv (by simp) (by simp)
  | other db => exact .reponse l c r hlog (h.congr rfl rfl hseul.compte) hsaving hsucces hr

theorem Etape.step_confirmation {l : List (Exchange Demande Response)} {c : Coordonnees}
    {r : Response} {u : Utilisateur} (hlog : w.log = l ++ [⟨.updateProfil c, .served r⟩])
    (hl : World.pending l = []) (hloading : w.page.loading = false)
    (hprofil : w.page.profil.isSome = true) (hsaving : w.page.saving = true)
    (hsucces : w.page.succes = "") (hr : r.utilisateur? = some (serializeUser u))
    (hfind : w.server.utilisateurs.find? k = some u) (hporte : Porte c u)
    {e : Happening Appel Int Db} (hseul : Seul env jeton k w e) :
    Etape k (World.step component (serveur env jeton) w e) := by
  have heffect := World.last_effect component (serveur env jeton) hlog hl e
  generalize World.step component (serveur env jeton) w e = w' at heffect ⊢
  obtain ⟨v, hv⟩ := Option.isSome_iff_exists.mp hprofil
  cases heffect with
  | idle => exact .confirmation l c r u hlog hl hloading hprofil hsaving hsucces hr hfind hporte
  | call m =>
      obtain ⟨c', hreact⟩ := hseul.saisie hsaving
      rw [hreact]
      exact .confirmation l c r u hlog hl hloading hprofil hsaving hsucces hr hfind hporte
  | serve q t hx => cases hx
  | arrive q a hx =>
      cases hx
      refine etape_reponse (some r) hl hloading hsucces hv ?_ ?_
      · intro r' hr' hnone
        rw [← Option.some.inj hr', hr] at hnone
        cases hnone
      · intro v' hv'
        rw [Option.bind_some, hr] at hv'
        exact ⟨u, hfind, hporte, (Option.some.inj hv').symm⟩
  | fail hx =>
      exact etape_reponse none hl hloading hsucces hv (by simp) (by simp)
  | other db =>
      exact .confirmation l c r u hlog hl hloading hprofil hsaving hsucces hr (hseul.compte.trans hfind) hporte

theorem Etape.step (h : Etape k w) (hpropre : Propre env jeton k w.server)
    {e : Happening Appel Int Db} (hseul : Seul env jeton k w e) :
    Etape k (World.step component (serveur env jeton) w e) := by
  cases h with
  | demande hpage hlog => exact .step_demande hpropre hpage hlog hseul
  | charge r hpage hlog hjour => exact .step_charge hpage hlog hjour hseul
  | echec hsettled hprofil hsaving hsucces =>
      exact .step_echec hsettled hprofil hsaving hsucces hseul
  | repos h hsaving hsucces => exact .step_repos h hsaving hsucces hseul
  | envoi l c hlog h hsaving hsucces => exact .step_envoi hpropre hlog h hsaving hsucces hseul
  | reponse l c r hlog h hsaving hsucces hr => exact .step_reponse hlog h hsaving hsucces hr hseul
  | confirmation l c r u hlog hl hloading hprofil hsaving hsucces hr hfind hporte =>
      exact .step_confirmation hlog hl hloading hprofil hsaving hsucces hr hfind hporte hseul

/-- Nobody takes over the e-mail of the token. -/
theorem Propre.step (h : Propre env jeton k w.server) {e : Happening Appel Int Db}
    (hseul : Seul env jeton k w e) :
    Propre env jeton k (World.step component (serveur env jeton) w e).server := by
  have heffect := World.step_effect component (serveur env jeton) w e
  generalize World.step component (serveur env jeton) w e = w' at heffect ⊢
  cases heffect with
  | serve l₁ l₂ q t hlog => exact h.repond t q
  | other db => exact h.etranger hseul
  | _ => exact h

end Step

/-! ## What the member sees -/

/-- At most one request is under way, and the button turns exactly while it is a save. With none under
way what is shown is the account, unless the answer to a save was lost since the last one that came. A
success says that the account has the values that were sent. -/
structure Fidele (k : Nat) (w : Monde) : Prop where
  seule : (World.pending w.log).length ≤ 1
  saving : w.page.saving = true ↔ ∃ c, .updateProfil c ∈ World.pending w.log
  profil : World.pending w.log = [] → incertain w.log = false →
    ∀ v, w.page.profil = some v → AJour k w.server v
  succes : w.page.succes ≠ "" → Enregistre k w

/-- A save is under way. -/
theorem fidele_envoi {k : Nat} {w : Monde} (c : Coordonnees)
    (hpending : World.pending w.log = [.updateProfil c]) (hsaving : w.page.saving = true)
    (hsucces : w.page.succes = "") : Fidele k w where
  seule := by simp [hpending]
  saving := by simp [hpending, hsaving]
  profil := by simp [hpending]
  succes := by simp [hsucces]

theorem Etape.fidele {k : Nat} {w : Monde} (h : Etape k w) : Fidele k w := by
  cases h with
  | demande hpage hlog =>
      constructor <;> simp [hpage, hlog, initial, World.pending, Exchange.isPending]
  | charge r hpage hlog hjour =>
      constructor <;> simp [hpage, hlog, initial, World.pending, Exchange.isPending]
  | echec hsettled hprofil hsaving hsucces =>
      constructor <;> simp [hsettled, hprofil, hsaving, hsucces]
  | repos h hsaving hsucces =>
      refine ⟨by simp [h.settled], by simp [h.settled, hsaving], ?_, hsucces⟩
      intro _ hsur v hv
      obtain ⟨v', hv', hjour⟩ := h.profil
      rw [hv', Option.some.injEq] at hv
      exact hv ▸ hjour hsur
  | envoi l c hlog h hsaving hsucces =>
      exact fidele_envoi c (by simp [hlog, h.settled]) hsaving hsucces
  | reponse l c r hlog h hsaving hsucces hr =>
      exact fidele_envoi c (by simp [hlog, h.settled]) hsaving hsucces
  | confirmation l c r u hlog hl hloading hprofil hsaving hsucces hr hfind hporte =>
      exact fidele_envoi c (by simp [hlog, hl]) hsaving hsucces

/-- A success is reported only while nothing is under way. -/
theorem Etape.settled_of_succes {k : Nat} {w : Monde} (h : Etape k w) (hsucces : w.page.succes ≠ "") :
    World.pending w.log = [] := by
  cases h with
  | demande hpage hlog => exact absurd (by rw [hpage]; rfl) hsucces
  | charge r hpage hlog hjour => exact absurd (by rw [hpage]; rfl) hsucces
  | echec hsettled hprofil hsaving hnone => exact hsettled
  | repos h hsaving hreg => exact h.settled
  | envoi l c hlog h hsaving hnone => exact absurd hnone hsucces
  | reponse l c r hlog h hsaving hnone hr => exact absurd hnone hsucces
  | confirmation l c r u hlog hl hloading hprofil hsaving hnone hr hfind hporte =>
      exact absurd hnone hsucces

/-- The page right after `ngOnInit`, and a server in any state. -/
def ouverte (db : Db) : Monde := ⟨initial, db, [⟨.getProfil, .sent⟩]⟩

section Runs

variable {env : Env} {jeton : Token} {u : Utilisateur} {db : Db}
  {es es' : List (Happening Appel Int Db)}

theorem etape_always (hpropre : Propre env jeton u.id db)
    (hes : Along (World.step component (serveur env jeton)) (Seul env jeton u.id) (ouverte db) es) :
    Always (World.step component (serveur env jeton))
      (fun w => Etape u.id w ∧ Propre env jeton u.id w.server) (ouverte db) es :=
  always_of_along (fun _ _ h hseul => ⟨h.1.step h.2 hseul, h.2.step hseul⟩)
    ⟨.demande rfl rfl, hpropre⟩ hes

end Runs

/-- Anthony changes his telephone number … -/
def appelDAnthony : Db :=
  (handle .plain 0 0 ((AppFixtures.load .plain).utilisateurs.find? 3)
    (.userUpdate (.obj [("numTel", .str "0700000000")])) (AppFixtures.load .plain)).2

/-- … while Alice, with her token, … -/
def jetonAlice : Token := ⟨AppFixtures.alice.email, tokenTtl⟩

/-- … loads the page and gives herself another e-mail and address … -/
def changement : List (Happening Appel Int Db) :=
  [.other appelDAnthony, .serve 0 0, .arrive 0, .call (.saisir ⟨"alice@nouvelle.fr", "0600000000", "1 rue Haute"⟩),
    .call .sauvegarder, .serve 1 10, .arrive 1]

/-- … and saves once more. -/
def nouvelEssai : List (Happening Appel Int Db) := [.call .sauvegarder, .serve 2 20, .arrive 2]

theorem seul_changement :
    Along (World.step component (serveur .plain jetonAlice))
      (Seul .plain jetonAlice AppFixtures.alice.id) (ouverte (AppFixtures.load .plain))
      (changement ++ nouvelEssai) := by
  refine ⟨?_, trivial, trivial, ?_, ⟨?_, ?_⟩, trivial, trivial, ⟨?_, ?_⟩, trivial, trivial, trivial⟩
  case refine_1 =>
    refine Etranger.api ?_ ?_ (handle_effect _ _ _ _ _ _)
    · intro v hv heq
      obtain ⟨-, hid⟩ := (Table.find?_eq_some _).mp hv
      cases hid.symm.trans heq
    · rintro v data hv hreq hmail
      obtain rfl := ApiRequest.userUpdate.inj hreq
      revert v
      decide +kernel
  case refine_2 =>
    show formulaireAffiche _ = true
    decide +kernel
  all_goals decide +kernel

/-- The account does not have the e-mail of the token. -/
def Epuise (env : Env) (jeton : Token) (k : Nat) (db : Db) : Prop :=
  ∀ u, db.utilisateurs.find? k = some u → env.collation u.email ≠ env.collation jeton.identifier

/-- Nothing of what the member sees of his account is going to change: `w₀` is how it was. -/
structure Fige (k : Nat) (w₀ w : Monde) : Prop where
  compte : w.server.utilisateurs.find? k = w₀.server.utilisateurs.find? k
  profil : w.page.profil = w₀.page.profil
  succes : w.page.succes = "" ∨ w.page.succes = w₀.page.succes
  /-- no answer with a profile is on its way -/
  reponses : ∀ x ∈ w.log, ∀ r, x.phase = .served r → r.utilisateur? = none

section Epuise

variable {env : Env} {jeton : Token} {k : Nat} {w₀ w : Monde}

theorem serveur_epuise {now : Int} {db : Db} (h : Epuise env jeton k db)
    (hpropre : Propre env jeton k db) (q : Demande) :
    serveur env jeton now q db = (.message 401 "Invalid JWT Token", db) := by
  cases hjwt : Bibliotheque.jwt env now jeton db with
  | none => rw [serveur, hjwt]
  | some v =>
      obtain ⟨hmem, hmail⟩ := mem_of_jwt hjwt
      exact absurd hmail (h v (db.utilisateurs.find?_eq_some.mpr ⟨hmem, hpropre.jwt hjwt⟩))

theorem onProfil_refus (s : MonProfil) {r : Option Response} (hr : r.bind (·.utilisateur?) = none)
    (q : Demande) : (answer s q r).1.profil = s.profil ∧ (answer s q r).1.succes = s.succes := by
  cases q with
  | getProfil => simp [answer, onProfil, hr]
  | updateProfil c => simp [answer, onUpdate, hr]

/-- An answer without a profile comes, or none will. -/
theorem Fige.reponse (h : Fige k w₀ w) {l₁ l₂ : List (Exchange Demande Response)}
    {x : Exchange Demande Response} (hlog : w.log = l₁ ++ x :: l₂) {r : Option Response}
    (hr : r.bind (·.utilisateur?) = none) :
    Fige k w₀ (w.react (l₁ ++ ⟨x.request, .done r⟩ :: l₂) (answer w.page x.request r)) := by
  obtain ⟨hprofil, hsucces⟩ := onProfil_refus w.page hr x.request
  refine ⟨h.compte, hprofil.trans h.profil, ?_, ?_⟩
  · rw [World.page_react, hsucces]
    exact h.succes
  · intro y hy r' hphase
    rw [World.react, answer_snd, List.map_nil, List.append_nil] at hy
    rcases World.mem_of_replace (x := x) hy with rfl | hold
    · cases hphase
    · exact h.reponses y (hlog ▸ hold) r' hphase

theorem Fige.step (h : Fige k w₀ w) (hepuise : Epuise env jeton k w₀.server)
    (hpropre : Propre env jeton k w.server) {e : Happening Appel Int Db} (hseul : Seul env jeton k w e) :
    Fige k w₀ (World.step component (serveur env jeton) w e) := by
  have heffect := World.step_effect component (serveur env jeton) w e
  generalize World.step component (serveur env jeton) w e = w' at heffect ⊢
  cases heffect with
  | idle => exact h
  | call m =>
      have hreponses : ∀ x ∈ (w.react w.log (call w.page m)).log, ∀ r, x.phase = .served r →
          r.utilisateur? = none := by
        intro x hx r hphase
        rcases List.mem_append.mp hx with hold | hnew
        · exact h.reponses x hold r hphase
        · obtain ⟨q, -, rfl⟩ := List.mem_map.mp hnew
          cases hphase
      cases m with
      | ngOnInit => exact hseul.elim
      | saisir c => exact ⟨h.compte, h.profil, h.succes, hreponses⟩
      | sauvegarder => exact ⟨h.compte, h.profil, Or.inl rfl, hreponses⟩
  | serve l₁ l₂ q t hlog =>
      have hepuise' : Epuise env jeton k w.server := by
        unfold Epuise
        rw [h.compte]
        exact hepuise
      rw [serveur_epuise hepuise' hpropre]
      refine ⟨h.compte, h.profil, h.succes, ?_⟩
      intro x hx r hphase
      rcases World.mem_of_replace (x := ⟨q, .sent⟩) hx with rfl | hold
      · cases hphase
        rfl
      · exact h.reponses x (hlog ▸ hold) r hphase
  | arrive l₁ l₂ q a hlog =>
      have hmem : (⟨q, .served a⟩ : Exchange Demande Response) ∈ w.log :=
        hlog ▸ List.mem_append_right _ List.mem_cons_self
      exact h.reponse hlog (h.reponses _ hmem a rfl)
  | fail l₁ l₂ x hlog hx => exact h.reponse hlog rfl
  | other db => exact ⟨hseul.compte.trans h.compte, h.profil, h.succes, h.reponses⟩

end Epuise

/-- **The e-mail can be changed once.** When the page has reported that a save has given the account
another e-mail than the one it was opened with, then for the rest of the run no save succeeds: the
account stays as it is, so does the profile that is shown, and no new success is reported. -/
theorem email_une_fois {env : Env} {jeton : Token} {u : Utilisateur} {db : Db}
    {es es' : List (Happening Appel Int Db)} (huniq : UniqueEmails env db)
    (hu : u ∈ db.utilisateurs.rows) (hjeton : env.collation jeton.identifier = env.collation u.email)
    (hes : Along (World.step component (serveur env jeton)) (Seul env jeton u.id) (ouverte db)
      (es ++ es'))
    {l : List (Exchange Demande Response)} {c : Coordonnees} {r : Option Response}
    (hlog : (run (World.step component (serveur env jeton)) (ouverte db) es).log =
      l ++ [⟨.updateProfil c, .done r⟩])
    (hsucces : (run (World.step component (serveur env jeton)) (ouverte db) es).page.succes ≠ "")
    (hmail : env.collation c.email ≠ env.collation jeton.identifier) :
    Always (World.step component (serveur env jeton))
      (Fige u.id (run (World.step component (serveur env jeton)) (ouverte db) es))
      (run (World.step component (serveur env jeton)) (ouverte db) es) es' := by
  obtain ⟨hes₁, hes₂⟩ := (along_append _ _ _).mp hes
  obtain ⟨hetape, hpropre⟩ := (etape_always (propre_of_unique huniq hu hjeton) hes₁).last
  generalize run (World.step component (serveur env jeton)) (ouverte db) es = w at *
  -- the account has the e-mail that was sent last
  have hepuise : Epuise env jeton u.id w.server := by
    obtain ⟨l', c', r', v, hlog', hfind, hporte⟩ := hetape.fidele.succes hsucces
    rw [hlog', List.append_singleton_inj] at hlog
    intro u' hu'
    rw [hfind, Option.some.injEq] at hu'
    cases hlog.2
    rw [← hu', hporte.1]
    exact hmail
  have hfige : Fige u.id w w := by
    refine ⟨rfl, rfl, Or.inr rfl, ?_⟩
    intro x hx r' hphase
    have hdone := World.pending_eq_nil.mp (hetape.settled_of_succes hsucces) x hx
    rw [Exchange.isPending, hphase] at hdone
    cases hdone
  have halways := always_of_along
    (I := fun w' => Fige u.id w w' ∧ Propre env jeton u.id w'.server)
    (fun _ _ h hseul => ⟨h.1.step hepuise h.2 hseul, h.2.step hseul⟩) ⟨hfige, hpropre⟩ hes₂
  exact halways.mono fun _ h => h.1

theorem email_une_fois_alice :
    let w := run (World.step component (serveur .plain jetonAlice)) (ouverte (AppFixtures.load .plain))
      changement
    (w.page.succes = "Profil mis à jour avec succès !" ∧
      w.page.coordonnees.email ≠ jetonAlice.identifier) ∧
    Always (World.step component (serveur .plain jetonAlice)) (Fige AppFixtures.alice.id w) w
      nouvelEssai := by
  intro w
  have hsucces : w.page.succes = "Profil mis à jour avec succès !" := by decide +kernel
  have hlog : ∃ r, w.log =
      w.log.take 1 ++ [⟨.updateProfil ⟨"alice@nouvelle.fr", "0600000000", "1 rue Haute"⟩, .done r⟩] :=
    ⟨_, rfl⟩
  obtain ⟨r, hlog⟩ := hlog
  refine ⟨⟨hsucces, by decide +kernel⟩, email_une_fois Serveur.uniqueEmails_initial
    AppFixtures.alice_mem rfl seul_changement hlog ?_ (by decide +kernel)⟩
  rw [hsucces]
  decide

end MonProfil

end Client

end Bibliotheque
