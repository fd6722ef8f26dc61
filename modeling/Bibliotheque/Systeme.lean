import Bibliotheque.Security.Catalogue
import Bibliotheque.Security.Tokens

/-! # The whole installation

The API, the back office, the login and the expire command all write to one database. An `Evenement`
is one of them, handled from start to end, and a run is any sequence of them, by anybody, in any
order.

`AdminEffect` lists everything a back-office request can write, as `ApiEffect` does for the API, and
`Ecriture` puts the lists together. Results about whole runs of the installation go through these
lists only: a change to a controller changes its case there. -/

namespace Bibliotheque

open Lib ReservationsRepository EmpruntCrudController

/-- A request, or a run of the command on the server. -/
inductive Evenement where
  | requete (r : Requete)
  | expire (now : Int)

def Evenement.apply (env : Env) (db : Db) : Evenement → Db
  | .requete r => r.apply env db
  | .expire now => (ExpireReservationsCommand.execute now db).2

/-- The account behind a back-office request is staff. -/
def Db.estPersonnel (user : Option Nat) (db : Db) : Prop :=
  ∃ a ∈ db.utilisateurs.rows, user = some a.id ∧ a.atteint .bibliothecaire = true

/-- The account behind an API request is a member's. -/
def Db.estAdherent (user : Option Nat) (db : Db) : Prop :=
  ∃ a ∈ db.utilisateurs.rows, user = some a.id ∧ a.atteint .adherent = true

/-! ## What a back-office request can write -/

/-- A choice of the form is a row of the table. -/
theorem LivreCrudController.entite_eq_some {id : Nat} {f : LivreForm} {db : Db} {l : Livre}
    (h : LivreCrudController.entite id f db = some l) :
    l.id = id ∧ l.emprunt = none ∧ (∀ a ∈ f.auteurs, (db.auteurs.find? a).isSome = true) ∧
      ∀ c ∈ f.categories, (db.categories.find? c).isSome = true := by
  simp only [entite, Option.bind_eq_bind, Option.bind_eq_some_iff] at h
  obtain ⟨titre, -, date, -, langue, -, photo, -, h⟩ := h
  split at h
  · next hchoix =>
    rw [Bool.and_eq_true, List.all_eq_true, List.all_eq_true] at hchoix
    rw [← Option.some.inj h]
    exact ⟨rfl, rfl, hchoix.1, hchoix.2⟩
  · cases h

/-- The roles an account gets from a form are among the choices, and its password is the one before or
the hash of the one typed in. -/
theorem UtilisateurCrudController.entite_eq_some {env : Env} {id : Nat} {dateAdhesion : Int}
    {password : Option String} {f : UtilisateurForm} {u : Utilisateur}
    (h : UtilisateurCrudController.entite env id dateAdhesion password f = some u) :
    u.id = id ∧ (∀ r ∈ u.roles, r ∈ choixRoles) ∧
      hashUserPassword env f password = some u.password := by
  simp only [entite, Option.bind_eq_bind, Option.bind_eq_some_iff] at h
  obtain ⟨nom, -, prenom, -, email, -, naiss, -, adresse, -, tel, -, photo, -, pw, hpw, h⟩ := h
  split at h
  · next hroles =>
    rw [List.all_eq_true] at hroles
    rw [← Option.some.inj h]
    exact ⟨rfl, fun r hr => of_decide_eq_true (hroles r hr), hpw⟩
  · cases h

/-- **Everything a request to the back office can do to the database.** -/
inductive AdminEffect (env : Env) (now : Int) (db : Db) : AdminRequest → Db → Prop
  | rien (req : AdminRequest) : AdminEffect env now db req db
  | livreNew (f : LivreForm) (l : Livre) : LivreCrudController.entite 0 f db = some l →
      AdminEffect env now db (.livreNew f)
        { db with
          livres := db.livres.insert l
          livreAuteur := LivreCrudController.associer db.livres.next f.auteurs db.livreAuteur
          livreCategorie :=
            LivreCrudController.associer db.livres.next f.categories db.livreCategorie }
  | livreEdit (f : LivreForm) (l l' : Livre) : l ∈ db.livres.rows →
      LivreCrudController.entite l.id f db = some l' →
      AdminEffect env now db (.livreEdit l.id f)
        { db with
          livres := db.livres.updateAt l.id
            (fun x => { l' with id := x.id, emprunt := x.emprunt }) (fun _ => rfl)
          livreAuteur := LivreCrudController.associer l.id f.auteurs db.livreAuteur
          livreCategorie := LivreCrudController.associer l.id f.categories db.livreCategorie }
  | livreDelete (l : Livre) : l ∈ db.livres.rows →
      (∀ e ∈ db.emprunts.rows, e.livre ≠ l.id) → (∀ r ∈ db.reservations.rows, r.livre ≠ l.id) →
      AdminEffect env now db (.livreDelete l.id)
        { db with
          livres := db.livres.delete fun x => decide (x.id = l.id)
          livreAuteur := db.livreAuteur.filter fun p => !decide (p.1 = l.id)
          livreCategorie := db.livreCategorie.filter fun p => !decide (p.1 = l.id) }
  | auteurNew (f : AuteurForm) (a : Auteur) :
      AdminEffect env now db (.auteurNew f) { db with auteurs := db.auteurs.insert a }
  | auteurEdit (id : Nat) (f : AuteurForm) (a a' : Auteur) :
      AdminEffect env now db (.auteurEdit id f)
        { db with
          auteurs := db.auteurs.updateAt a.id (fun x => { a' with id := x.id }) (fun _ => rfl) }
  | auteurDelete (a : Auteur) : a ∈ db.auteurs.rows →
      AdminEffect env now db (.auteurDelete a.id)
        { db with
          auteurs := db.auteurs.delete fun x => decide (x.id = a.id)
          livreAuteur := db.livreAuteur.filter fun p => !decide (p.2 = a.id) }
  | categorieNew (f : CategorieForm) (c : Categorie) :
      AdminEffect env now db (.categorieNew f) { db with categories := db.categories.insert c }
  | categorieEdit (id : Nat) (f : CategorieForm) (c c' : Categorie) :
      AdminEffect env now db (.categorieEdit id f)
        { db with
          categories := db.categories.updateAt c.id
            (fun x => { x with nom := c'.nom, description := c'.description }) (fun _ => rfl) }
  | categorieDelete (c : Categorie) : c ∈ db.categories.rows →
      AdminEffect env now db (.categorieDelete c.id)
        { db with
          categories := db.categories.delete fun x => decide (x.id = c.id)
          livreCategorie := db.livreCategorie.filter fun p => !decide (p.2 = c.id) }
  | utilisateurNew (f : UtilisateurForm) (u : Utilisateur) :
      UtilisateurCrudController.entite env db.utilisateurs.next now none f = some u →
      emailLibre env u.id u.email db = true →
      AdminEffect env now db (.utilisateurNew f)
        { db with utilisateurs := db.utilisateurs.insert u }
  | utilisateurEdit (f : UtilisateurForm) (u u' : Utilisateur) : u ∈ db.utilisateurs.rows →
      UtilisateurCrudController.entite env u.id u.dateAdhesion (some u.password) f = some u' →
      emailLibre env u.id u'.email db = true →
      AdminEffect env now db (.utilisateurEdit u.id f)
        { db with
          utilisateurs := db.utilisateurs.updateAt u.id (fun v => { u' with id := v.id })
            (fun _ => rfl) }
  | utilisateurDelete (id : Nat) :
      AdminEffect env now db (.utilisateurDelete id) (db.deleteUtilisateur id)
  | empruntNew (f : EmpruntForm) :
      AdminEffect env now db (.empruntNew f)
        ((EmpruntCrudController.persistEntity now f db).commit db)
  | empruntEdit (f : EmpruntForm) (e : Emprunt) (u : Utilisateur) (l : Livre) (dateEmprunt : Int) :
      e ∈ db.emprunts.rows → u ∈ db.utilisateurs.rows → l ∈ db.livres.rows →
      f.utilisateur = some u.id → f.livre = some l.id →
      AdminEffect env now db (.empruntEdit e.id f)
        (edition e.id u.id l.id dateEmprunt f.dateRetour db)
  | empruntDelete (id : Nat) : AdminEffect env now db (.empruntDelete id) (db.deleteEmprunt id)
  | reservationEdit (id : Nat) (date : Int) :
      AdminEffect env now db (.reservationEdit id date) (db.editDateResa id date)
  | reservationDelete (id : Nat) :
      AdminEffect env now db (.reservationDelete id)
        { db with reservations := db.reservations.delete fun r => decide (r.id = id) }

section Dispatch

variable {env : Env} {now : Int} {db : Db}

/-- A request that fails writes nothing. -/
theorem AdminEffect.getD {req : AdminRequest} {res : Option Db}
    (h : ∀ db', res = some db' → AdminEffect env now db req db') :
    AdminEffect env now db req (res.getD db) := by
  cases res with
  | none => exact .rien req
  | some db' => exact h db' rfl

theorem livreEdit_effect (id : Nat) (f : LivreForm) (db' : Db)
    (h : LivreCrudController.updateEntity id f db = some db') :
    AdminEffect env now db (.livreEdit id f) db' := by
  simp only [LivreCrudController.updateEntity, Option.bind_eq_bind, Option.bind_eq_some_iff] at h
  obtain ⟨l, hl, l', hl', h⟩ := h
  obtain ⟨hmem, rfl⟩ := db.livres.find?_eq_some.mp hl
  rw [← Option.some.inj h]
  exact .livreEdit f l l' hmem hl'

theorem livreDelete_effect (id : Nat) (db' : Db)
    (h : LivreCrudController.deleteEntity id db = some db') :
    AdminEffect env now db (.livreDelete id) db' := by
  simp only [LivreCrudController.deleteEntity, Option.bind_eq_bind, Option.bind_eq_some_iff] at h
  obtain ⟨l, hl, h⟩ := h
  obtain ⟨hmem, rfl⟩ := db.livres.find?_eq_some.mp hl
  split at h
  · cases h
  · next hfree =>
    rw [Bool.or_eq_true, not_or, List.any_eq_true, List.any_eq_true] at hfree
    rw [← Option.some.inj h]
    refine .livreDelete l hmem ?_ ?_
    · intro e he hlivre
      exact hfree.1 ⟨e, he, decide_eq_true hlivre⟩
    · intro r hr hlivre
      exact hfree.2 ⟨r, hr, decide_eq_true hlivre⟩

theorem utilisateurNew_effect (f : UtilisateurForm) (db' : Db)
    (h : UtilisateurCrudController.persistEntity env now f db = some db') :
    AdminEffect env now db (.utilisateurNew f) db' := by
  simp only [UtilisateurCrudController.persistEntity, Option.bind_eq_bind,
    Option.bind_eq_some_iff] at h
  obtain ⟨u, hu, h⟩ := h
  split at h
  · next hlibre =>
    rw [← Option.some.inj h]
    exact .utilisateurNew f u hu hlibre
  · cases h

theorem utilisateurEdit_effect (id : Nat) (f : UtilisateurForm) (db' : Db)
    (h : UtilisateurCrudController.updateEntity env id f db = some db') :
    AdminEffect env now db (.utilisateurEdit id f) db' := by
  simp only [UtilisateurCrudController.updateEntity, Option.bind_eq_bind,
    Option.bind_eq_some_iff] at h
  obtain ⟨u, hu, u', hu', h⟩ := h
  obtain ⟨hmem, rfl⟩ := db.utilisateurs.find?_eq_some.mp hu
  split at h
  · next hlibre =>
    rw [← Option.some.inj h]
    exact .utilisateurEdit f u u' hmem hu' hlibre
  · cases h

theorem empruntEdit_effect (id : Nat) (f : EmpruntForm) :
    AdminEffect env now db (.empruntEdit id f) (EmpruntCrudController.updateEntity id f db).2 := by
  unfold EmpruntCrudController.updateEntity
  split
  · next e u l dateEmprunt he hu hl _ =>
    obtain ⟨hmem, rfl⟩ := db.emprunts.find?_eq_some.mp he
    obtain ⟨_, hfu, hu'⟩ := Option.bind_eq_some_iff.mp hu
    obtain ⟨_, hfl, hl'⟩ := Option.bind_eq_some_iff.mp hl
    obtain ⟨humem, rfl⟩ := db.utilisateurs.find?_eq_some.mp hu'
    obtain ⟨hlmem, rfl⟩ := db.livres.find?_eq_some.mp hl'
    exact .empruntEdit f e u l dateEmprunt hmem humem hlmem hfu hfl
  · exact .rien _

theorem adminDispatch_effect (env : Env) (now : Int) (db : Db) (req : AdminRequest) :
    AdminEffect env now db req ((adminDispatch env now db req).getD db) := by
  cases req with
  | page => exact .rien _
  | livreNew f =>
      refine AdminEffect.getD fun db' h => ?_
      obtain ⟨l, hl, rfl⟩ := Option.map_eq_some_iff.mp h
      exact .livreNew f l hl
  | livreEdit id f => exact AdminEffect.getD (livreEdit_effect id f)
  | livreDelete id => exact AdminEffect.getD (livreDelete_effect id)
  | auteurNew f =>
      refine AdminEffect.getD fun db' h => ?_
      obtain ⟨a, -, rfl⟩ := Option.map_eq_some_iff.mp h
      exact .auteurNew f a
  | auteurEdit id f =>
      refine AdminEffect.getD fun db' h => ?_
      simp only [adminDispatch, AuteurCrudController.updateEntity, Option.bind_eq_bind,
        Option.bind_eq_some_iff] at h
      obtain ⟨a, -, a', -, h⟩ := h
      rw [← Option.some.inj h]
      exact .auteurEdit id f a a'
  | auteurDelete id =>
      refine AdminEffect.getD fun db' h => ?_
      simp only [adminDispatch, AuteurCrudController.deleteEntity, Option.bind_eq_bind,
        Option.bind_eq_some_iff] at h
      obtain ⟨a, ha, h⟩ := h
      obtain ⟨hmem, rfl⟩ := db.auteurs.find?_eq_some.mp ha
      rw [← Option.some.inj h]
      exact .auteurDelete a hmem
  | categorieNew f =>
      refine AdminEffect.getD fun db' h => ?_
      obtain ⟨c, -, rfl⟩ := Option.map_eq_some_iff.mp h
      exact .categorieNew f c
  | categorieEdit id f =>
      refine AdminEffect.getD fun db' h => ?_
      simp only [adminDispatch, CategorieCrudController.updateEntity, Option.bind_eq_bind,
        Option.bind_eq_some_iff] at h
      obtain ⟨c, -, c', -, h⟩ := h
      rw [← Option.some.inj h]
      exact .categorieEdit id f c c'
  | categorieDelete id =>
      refine AdminEffect.getD fun db' h => ?_
      simp only [adminDispatch, CategorieCrudController.deleteEntity, Option.bind_eq_bind,
        Option.bind_eq_some_iff] at h
      obtain ⟨c, hc, h⟩ := h
      obtain ⟨hmem, rfl⟩ := db.categories.find?_eq_some.mp hc
      rw [← Option.some.inj h]
      exact .categorieDelete c hmem
  | utilisateurNew f => exact AdminEffect.getD (utilisateurNew_effect f)
  | utilisateurEdit id f => exact AdminEffect.getD (utilisateurEdit_effect id f)
  | utilisateurDelete id => exact .utilisateurDelete id
  | empruntNew f => exact .empruntNew f
  | empruntEdit id f => exact empruntEdit_effect id f
  | empruntDelete id => exact .empruntDelete id
  | reservationNew date => exact .rien _
  | reservationEdit id date => exact .reservationEdit id date
  | reservationDelete id => exact .reservationDelete id

end Dispatch

/-! ## What any event can write -/

/-- **Everything that can happen to the database**, and who can make it happen. -/
inductive Ecriture (env : Env) (db : Db) : Evenement → Db → Prop
  | rien (e : Evenement) : Ecriture env db e db
  | login (now : Int) (email password : String) (u : Utilisateur) : u ∈ db.utilisateurs.rows →
      credentialsValid env u password = true →
      Ecriture env db (.requete (.login now email password)) (upgradePassword env u password db)
  | api (now now' : Int) (w : Option Utilisateur) (req : ApiRequest) :
      (∀ u, w = some u → u ∈ db.utilisateurs.rows) →
      Ecriture env db (.requete (.api now now' (w.map (·.id)) req))
        (handle env now now' w req db).2
  | admin (now : Int) (u : Utilisateur) (req : AdminRequest) (db' : Db) :
      u ∈ db.utilisateurs.rows → u.atteint .bibliothecaire = true →
      AdminEffect env now db req db' →
      Ecriture env db (.requete (.admin now (some u.id) req)) db'
  | expire (now : Int) : Ecriture env db (.expire now) (purgeExpired (cutoff now) db).2

theorem Requete.ecriture_login (env : Env) (db : Db) (now : Int) (email password : String) :
    Ecriture env db (.requete (.login now email password))
      ((Requete.login now email password).apply env db) := by
  simp only [Requete.apply]
  split
  · exact .rien _
  · next u t hlogin =>
    unfold jsonLogin at hlogin
    split at hlogin
    · cases hlogin
    · next v hload =>
      split at hlogin
      · next hvalid =>
        obtain ⟨rfl, -⟩ := Prod.mk.inj (Option.some.inj hlogin)
        exact .login now email password v (List.mem_of_find?_eq_some hload) hvalid
      · cases hlogin

/-- What a requester does is listed if it is listed for each account that he can be. -/
theorem Db.asRequester_cases {motive : Option Nat → Db → Prop} {user : Option Nat}
    {f : Option Utilisateur → Db} {db : Db} (hnobody : motive user db)
    (hsome : ∀ w, (∀ u, w = some u → u ∈ db.utilisateurs.rows) → motive (w.map (·.id)) (f w)) :
    motive user (db.asRequester user f) := by
  refine Db.asRequester_ind (motive := motive user) hnobody ?_
  intro w huser hfind
  rw [huser]
  refine hsome w ?_
  rintro u rfl
  rw [huser] at hfind
  exact (db.utilisateurs.find?_eq_some.mp hfind).1

/-- **Nothing else happens.** -/
theorem Evenement.ecriture (env : Env) (db : Db) (e : Evenement) :
    Ecriture env db e (e.apply env db) := by
  cases e with
  | expire now => exact .expire now
  | requete r =>
      cases r with
      | login now email password => exact Requete.ecriture_login env db now email password
      | api now now' user req =>
          rw [Evenement.apply, Requete.apply]
          refine Db.asRequester_cases
            (motive := fun user => Ecriture env db (.requete (.api now now' user req)))
            (.rien _) ?_
          intro w hw
          exact .api now now' w req hw
      | admin now user req =>
          rw [Evenement.apply, Requete.apply]
          refine Db.asRequester_cases
            (motive := fun user => Ecriture env db (.requete (.admin now user req)))
            (.rien _) ?_
          intro w hw
          rw [adminHandle_eq]
          cases w with
          | none => exact .rien _
          | some u =>
              rw [Option.any_some]
              split
              · next hrole =>
                exact .admin now u req _ (hw u rfl) hrole (adminDispatch_effect env now db req)
              · exact .rien _

end Bibliotheque
