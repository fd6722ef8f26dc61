import Bibliotheque.Client.ApiService
import Bibliotheque.Fixtures

/-! # The page of a book

`LivreDetail` reads the id of its URL once, in `ngOnInit`, fetches the book and then the first author
of the book, of whom it lists the other books. These are links to the same page. Following one changes
only the parameter `:id` of the route, so the router keeps the component, and nothing is fetched again.

`montre_iff`: after any sequence of navigations, when all answers have arrived, the page shows the book
of the *first* URL. -/

namespace Bibliotheque.Client

open Lib

structure LivreDetail where
  livre : Option LivreVue
  auteur : Option AuteurVue
  autresLivres : List LivreDate
  loading : Bool
  error : Option String
  deriving DecidableEq, Repr

namespace LivreDetail

def initial : LivreDetail := ⟨none, none, [], true, none⟩

/-- `id` is the parameter of the route as a number; 0 is falsy. -/
def ngOnInit (s : LivreDetail) (id : Nat) : LivreDetail × List Requete :=
  if id = 0 then ({ s with error := some "Livre introuvable.", loading := false }, [])
  else (s, [.getLivre id])

/-- The callbacks of `getLivre`. -/
def onLivre (s : LivreDetail) (r : Option Response) : LivreDetail × List Requete :=
  match r.bind (·.livre?) with
  | some livre =>
      ({ s with livre := some livre, loading := false },
        -- `livre.auteurs?.[0]?.id`, if it is truthy
        match livre.auteurs.head? with
        | some auteur => if auteur.id = 0 then [] else [.getAuteur auteur.id livre]
        | none => [])
  | none => ({ s with error := some "Livre introuvable.", loading := false }, [])

/-- The callbacks of `getAuteur`. -/
def onAuteur (s : LivreDetail) (livre : LivreVue) (r : Option Response) : LivreDetail :=
  match r.bind (·.auteur?) with
  | some auteur =>
      { s with
        auteur := some auteur
        autresLivres := auteur.livre.filter fun l => decide (l.id ≠ livre.id) }
  | none => { s with auteur := none, autresLivres := [] }

end LivreDetail

/-- The tab: the id in the current URL, and the component, once there is one. -/
structure Onglet where
  url : Option Nat
  page : Option LivreDetail
  deriving DecidableEq, Repr

namespace Onglet

def initial : Onglet := ⟨none, none⟩

/-- Navigation to `/livres/id`. -/
inductive Navigation where
  | livres (id : Nat)
  deriving DecidableEq, Repr

/-- The first navigation makes the component; with the default route reuse strategy the others keep
it. -/
def call (o : Onglet) : Navigation → Onglet × List Requete
  | .livres id =>
      match o.page with
      | none =>
          let r := LivreDetail.initial.ngOnInit id
          (⟨some id, some r.1⟩, r.2)
      | some _ => ({ o with url := some id }, [])

def answer (o : Onglet) (q : Requete) (r : Option Response) : Onglet × List Requete :=
  match o.page with
  | none => (o, [])
  | some p =>
      match q with
      | .getLivre _ => ({ o with page := some (p.onLivre r).1 }, (p.onLivre r).2)
      | .getAuteur _ livre => ({ o with page := some (p.onAuteur livre r) }, [])
      | _ => (o, [])

def component : Page Onglet Navigation Requete Response := ⟨call, answer⟩

end Onglet

/-! ## What the page should show -/

/-- The first author of the book with this id. -/
def premierAuteur (db : Db) (id : Nat) : Option Auteur :=
  (db.livres.find? id).bind fun l => (db.auteursDe l.id).head?

/-- The page shows the book with this id, if there is one, and the other books of its first author. -/
structure Montre (db : Db) (id : Nat) (p : LivreDetail) : Prop where
  livre : p.livre = (db.livres.find? id).map db.livreVue
  autres : ∀ x, x ∈ p.autresLivres ↔ ∃ a l, premierAuteur db id = some a ∧ l ∈ db.livres.rows ∧
    (l.id, a.id) ∈ db.livreAuteur ∧ l.id ≠ id ∧ x = ⟨l.id, l.titre, l.dateSortie⟩

/-- The keys are generated by the database, from 1 on. -/
structure ClesGenerees (db : Db) : Prop where
  livres : ∀ l ∈ db.livres.rows, l.id ≠ 0
  auteurs : ∀ a ∈ db.auteurs.rows, a.id ≠ 0

section Montre

variable {db : Db} {i j : Nat} {p : LivreDetail}

theorem find?_zero (h : ClesGenerees db) : db.livres.find? 0 = none := by
  rw [Option.eq_none_iff_forall_not_mem]
  intro l hl
  obtain ⟨hmem, hid⟩ := db.livres.find?_eq_some.mp hl
  exact h.livres l hmem hid

/-- Without a first author there is nothing to list. -/
theorem montre_of_premierAuteur_eq_none (hlivre : p.livre = (db.livres.find? i).map db.livreVue)
    (hautres : p.autresLivres = []) (hnone : premierAuteur db i = none) : Montre db i p := by
  refine ⟨hlivre, ?_⟩
  intro x
  simp [hautres, hnone]

/-- The books an author is serialized with are his books. -/
theorem mem_auteurVue_livre {a : Auteur} {x : LivreDate} :
    x ∈ (db.auteurVue a).livre ↔
      ∃ l ∈ db.livres.rows, (l.id, a.id) ∈ db.livreAuteur ∧ x = ⟨l.id, l.titre, l.dateSortie⟩ := by
  simp only [Db.auteurVue, List.mem_filterMap, List.mem_filter, decide_eq_true_eq,
    Option.map_eq_some_iff]
  constructor
  · rintro ⟨⟨n, m⟩, ⟨hmem, rfl⟩, l, hfind, rfl⟩
    obtain ⟨hl, rfl⟩ := db.livres.find?_eq_some.mp hfind
    exact ⟨l, hl, hmem, rfl⟩
  · rintro ⟨l, hl, hmem, rfl⟩
    exact ⟨(l.id, a.id), ⟨hmem, rfl⟩, l, db.livres.find?_eq_some.mpr ⟨hl, rfl⟩, rfl⟩

/-- A page shows one book: another one only if neither is there. -/
theorem Montre.iff (h : Montre db i p) :
    Montre db j p ↔ j = i ∨ (db.livres.find? i = none ∧ db.livres.find? j = none) := by
  constructor
  · intro h'
    have heq := h.livre.symm.trans h'.livre
    cases hi : db.livres.find? i with
    | none =>
        rw [hi, Option.map_none] at heq
        exact Or.inr ⟨rfl, Option.map_eq_none_iff.mp heq.symm⟩
    | some l =>
        rw [hi, Option.map_some] at heq
        obtain ⟨l', hj, hvue⟩ := Option.map_eq_some_iff.mp heq.symm
        have hid : l'.id = l.id := congrArg LivreVue.id hvue
        have hli := (db.livres.find?_eq_some.mp hi).2
        have hlj := (db.livres.find?_eq_some.mp hj).2
        exact Or.inl (hlj.symm.trans (hid.trans hli))
  · rintro (rfl | ⟨hi, hj⟩)
    · exact h
    · have hlivre := h.livre
      rw [hi] at hlivre
      refine montre_of_premierAuteur_eq_none (hj.symm ▸ hlivre) ?_ (by simp [premierAuteur, hj])
      rw [List.eq_nil_iff_forall_not_mem]
      intro x hx
      obtain ⟨a, l, ha, -⟩ := (h.autres x).mp hx
      simp [premierAuteur, hi] at ha

end Montre

/-! ## How far the page has come

Other users leave the catalogue alone and no request fails. At most one request is pending then, and
nothing that the server answers depends on when it does. -/

/-- The catalogue is the same, the pointers of the books included; accounts and reservations may
differ. -/
structure MemeCatalogue (db db' : Db) : Prop where
  livres : db'.livres = db.livres
  auteurs : db'.auteurs = db.auteurs
  categories : db'.categories = db.categories
  livreAuteur : db'.livreAuteur = db.livreAuteur
  livreCategorie : db'.livreCategorie = db.livreCategorie

theorem MemeCatalogue.refl (db : Db) : MemeCatalogue db db := ⟨rfl, rfl, rfl, rfl, rfl⟩

/-- Requests are taken up and answered, and what others do leaves the catalogue alone. -/
def Calme (db : Db) : Happening Onglet.Navigation Instant Db → Prop
  | .call _ => True
  | .serve _ _ => True
  | .arrive _ => True
  | .fail _ => False
  | .other db' => MemeCatalogue db db'

/-- The page, opened on the book `i`, waits for the answer to a request, which will be `r`. -/
inductive Attend (db : Db) (i : Nat) : LivreDetail → Requete → Response → Prop
  | livre : Attend db i .initial (.getLivre i) (LivreController.showAction i db)
  | auteur {p : LivreDetail} {l : Livre} {a : Auteur} : db.livres.find? i = some l →
      (db.auteursDe l.id).head? = some a → p.livre = some (db.livreVue l) → p.autresLivres = [] →
      Attend db i p (.getAuteur a.id (db.livreVue l)) (AuteurController.showAction a.id db)

/-- Either the page waits for its last request, or it shows the book `i` and all requests are
settled. -/
inductive Etape (db : Db) (i : Nat) : LivreDetail → List (Exchange Requete Response) → Prop
  | attend {p : LivreDetail} {q : Requete} {r : Response} {φ : Phase Response}
      {log : List (Exchange Requete Response)} : Attend db i p q r →
      (∀ x ∈ log, x.isPending = false) → φ = .sent ∨ φ = .served r → Etape db i p (log ++ [⟨q, φ⟩])
  | fini {p : LivreDetail} {log : List (Exchange Requete Response)} : Montre db i p →
      (∀ x ∈ log, x.isPending = false) → Etape db i p log

section Etape

variable {db : Db} {i : Nat} {p : LivreDetail}

/-- The server answers from the catalogue and leaves everything as it is. -/
theorem Attend.serveur (env : Env) (t : Instant) {q : Requete} {r : Response} {db' : Db}
    (h : Attend db i p q r) (hdb : MemeCatalogue db db') : serveur env t q db' = (r, db') := by
  obtain ⟨hlivres, hauteurs, hcategories, hla, hlc⟩ := hdb
  rw [Client.serveur, handle_eq_dispatch]
  cases h with
  | livre =>
      have hvue : db'.livreVue = db.livreVue := by
        funext l
        simp only [Db.livreVue, Db.auteursDe, Db.categoriesDe, hauteurs, hcategories, hla, hlc]
      simp only [Requete.api, dispatch, LivreController.showAction, hlivres, hvue]
  | auteur =>
      have hvue : db'.auteurVue = db.auteurVue := by
        funext a
        simp only [Db.auteurVue, hlivres, hla]
      simp only [Requete.api, dispatch, AuteurController.showAction, hauteurs, hvue]

/-- A page on which nothing is to be found. -/
theorem montre_introuvable (h : db.livres.find? i = none) (hlivre : p.livre = none)
    (hautres : p.autresLivres = []) : Montre db i p := by
  apply montre_of_premierAuteur_eq_none
  · rw [hlivre, h]
    rfl
  · exact hautres
  · rw [premierAuteur, h]
    rfl

/-- The author's books without the book of the page. -/
theorem montre_onAuteur {l : Livre} {a : Auteur} (hfind : db.livres.find? i = some l)
    (hhead : (db.auteursDe l.id).head? = some a) (hlivre : p.livre = some (db.livreVue l)) :
    Montre db i (p.onAuteur (db.livreVue l) (some ⟨200, .auteur (db.auteurVue a)⟩)) := by
  have hid : l.id = i := (db.livres.find?_eq_some.mp hfind).2
  have hpremier : premierAuteur db i = some a := by
    rw [premierAuteur, hfind]
    exact hhead
  refine ⟨?_, ?_⟩
  · rw [hfind]
    exact hlivre
  · intro x
    show x ∈ (db.auteurVue a).livre.filter (fun y => decide (y.id ≠ l.id)) ↔ _
    rw [List.mem_filter, mem_auteurVue_livre, hpremier, decide_eq_true_iff, hid]
    constructor
    · rintro ⟨⟨l', hl', hmem, rfl⟩, hne⟩
      exact ⟨a, l', rfl, hl', hmem, hne, rfl⟩
    · rintro ⟨a', l', ha', hl', hmem, hne, rfl⟩
      obtain rfl := Option.some.inj ha'
      exact ⟨⟨l', hl', hmem, rfl⟩, hne⟩

/-- The page of a book that has just arrived. -/
def surLivre (db : Db) (l : Livre) : LivreDetail :=
  { LivreDetail.initial with livre := some (db.livreVue l), loading := false }

theorem onLivre_sansAuteur {l : Livre} (hhead : (db.auteursDe l.id).head? = none) :
    LivreDetail.initial.onLivre (some ⟨200, .livre (db.livreVue l)⟩) = (surLivre db l, []) := by
  have hvue : (db.livreVue l).auteurs.head? = none := by
    rw [Db.livreVue, Db.livreVueAvec, List.head?_map, hhead]
    rfl
  simp only [LivreDetail.onLivre, Option.bind_some, Response.livre?, Response.ok]
  simp [hvue, surLivre]

theorem onLivre_avecAuteur {l : Livre} {a : Auteur} (hhead : (db.auteursDe l.id).head? = some a)
    (hid : a.id ≠ 0) :
    LivreDetail.initial.onLivre (some ⟨200, .livre (db.livreVue l)⟩) =
      (surLivre db l, [.getAuteur a.id (db.livreVue l)]) := by
  have hvue : (db.livreVue l).auteurs.head? = some (Db.auteurResume a) := by
    rw [Db.livreVue, Db.livreVueAvec, List.head?_map, hhead]
    rfl
  have hresume : (Db.auteurResume a).id = a.id := rfl
  simp only [LivreDetail.onLivre, Option.bind_some, Response.livre?, Response.ok]
  simp [hvue, hresume, hid, surLivre]

/-- An answer shows the page, or the page waits for the next one. -/
theorem Attend.answer (hcles : ClesGenerees db) {q : Requete} {r : Response}
    (h : Attend db i p q r) (url : Option Nat) :
    ∃ p' qs, Onglet.answer ⟨url, some p⟩ q (some r) = (⟨url, some p'⟩, qs) ∧
      ((Montre db i p' ∧ qs = []) ∨ ∃ q' r', Attend db i p' q' r' ∧ qs = [q']) := by
  cases h with
  | livre =>
      cases hfind : db.livres.find? i with
      | none =>
          simp only [LivreController.showAction, hfind]
          exact ⟨_, [], rfl, Or.inl ⟨montre_introuvable hfind rfl rfl, rfl⟩⟩
      | some l =>
          simp only [LivreController.showAction, hfind, Onglet.answer]
          refine ⟨_, _, rfl, ?_⟩
          cases hhead : (db.auteursDe l.id).head? with
          | none =>
              rw [onLivre_sansAuteur hhead]
              refine Or.inl ⟨montre_of_premierAuteur_eq_none ?_ rfl ?_, rfl⟩
              · rw [hfind]
                rfl
              · rw [premierAuteur, hfind]
                exact hhead
          | some a =>
              have hmem := Db.mem_auteurs_of_mem_auteursDe a (List.mem_of_head? hhead)
              rw [onLivre_avecAuteur hhead (hcles.auteurs a hmem)]
              exact Or.inr ⟨_, _, .auteur hfind hhead rfl rfl, rfl⟩
  | @auteur p l a hfind hhead hlivre _ =>
      have hmem := Db.mem_auteurs_of_mem_auteursDe a (List.mem_of_head? hhead)
      have hauteur : db.auteurs.find? a.id = some a := db.auteurs.find?_eq_some.mpr ⟨hmem, rfl⟩
      simp only [AuteurController.showAction, hauteur]
      exact ⟨_, [], rfl, Or.inl ⟨montre_onAuteur hfind hhead hlivre, rfl⟩⟩

/-- A pending request is the last one, and the page waits for it. -/
theorem Etape.attend_of_pending {log l₁ l₂ : List (Exchange Requete Response)}
    {x : Exchange Requete Response} (h : Etape db i p log) (hlog : log = l₁ ++ x :: l₂)
    (hx : x.isPending = true) :
    l₂ = [] ∧ (∀ y ∈ l₁, y.isPending = false) ∧
      ∃ r, Attend db i p x.request r ∧ (x.phase = .sent ∨ x.phase = .served r) := by
  cases h with
  | attend hattend hdone hphase =>
      obtain ⟨rfl, rfl, rfl⟩ := World.split_of_settled hdone hlog hx
      exact ⟨rfl, hdone, _, hattend, hphase⟩
  | fini _ hdone =>
      have hx' := hdone x (hlog ▸ List.mem_append_right _ List.mem_cons_self)
      rw [hx] at hx'
      cases hx'

/-- A page that waits for nothing shows the book. -/
theorem Etape.montre {log : List (Exchange Requete Response)} (h : Etape db i p log)
    (hfin : ∀ x ∈ log, x.isPending = false) : Montre db i p := by
  cases h with
  | @attend q r φ log hattend hdone hphase =>
      have hx := hfin ⟨q, φ⟩ (List.mem_append_right _ List.mem_cons_self)
      rcases hphase with rfl | rfl
      · cases hx
      · cases hx
  | fini hmontre _ => exact hmontre

/-- The request for which the page waits gets its answer. -/
theorem Etape.arrive (hcles : ClesGenerees db) (url : Option Nat) {q : Requete} {r : Response}
    {log : List (Exchange Requete Response)} (h : Attend db i p q r)
    (hdone : ∀ x ∈ log, x.isPending = false) :
    ∃ p', (Onglet.answer ⟨url, some p⟩ q (some r)).1 = ⟨url, some p'⟩ ∧
      Etape db i p' (log ++ [⟨q, .done (some r)⟩] ++
        (Onglet.answer ⟨url, some p⟩ q (some r)).2.map Exchange.new) := by
  have hdone' : ∀ x ∈ log ++ [⟨q, .done (some r)⟩], x.isPending = false := by
    intro x hx
    rcases List.mem_append.mp hx with hx | hx
    · exact hdone x hx
    · obtain rfl := List.mem_singleton.mp hx
      rfl
  obtain ⟨p', qs, hanswer, hnext⟩ := h.answer hcles url
  rw [hanswer]
  refine ⟨p', rfl, ?_⟩
  rcases hnext with ⟨hmontre, rfl⟩ | ⟨q', r', hattend, rfl⟩
  · rw [List.map_nil, List.append_nil]
    exact .fini hmontre hdone'
  · exact .attend hattend hdone' (Or.inl rfl)

end Etape

/-! ## Whole runs -/

/-- The component of the page has been made on the book `i`. -/
structure Ouvert (db : Db) (i : Nat) (w : World Onglet Db Requete Response) : Prop where
  server : MemeCatalogue db w.server
  etape : ∃ p, w.page.page = some p ∧ Etape db i p w.log

/-- The tab before the first navigation. -/
def ferme (db : Db) : World Onglet Db Requete Response := ⟨.initial, db, []⟩

def estNavigation : Happening Onglet.Navigation Instant Db → Bool
  | .call _ => true
  | _ => false

section Runs

variable {env : Env} {db : Db} {i : Nat} {w : World Onglet Db Requete Response}
  {e : Happening Onglet.Navigation Instant Db}

/-- Nothing happens in a tab without requests but navigation. -/
theorem step_ferme (env : Env) {db' : Db} (hdb : MemeCatalogue db db') (hcalme : Calme db e)
    (hnav : estNavigation e = false) :
    ∃ db'', World.step Onglet.component (serveur env) (ferme db') e = ferme db'' ∧
      MemeCatalogue db db'' := by
  cases e with
  | call m => cases hnav
  | serve k t => exact ⟨db', rfl, hdb⟩
  | arrive k => exact ⟨db', rfl, hdb⟩
  | fail k => exact absurd hcalme id
  | other db'' => exact ⟨db'', rfl, hcalme⟩

/-- The first navigation opens the page. -/
theorem ouvert_ferme (hcles : ClesGenerees db) {db' : Db} (hdb : MemeCatalogue db db') :
    Ouvert db i (World.step Onglet.component (serveur env) (ferme db') (.call (.livres i))) := by
  by_cases hi : i = 0
  · subst hi
    refine ⟨hdb, _, rfl, .fini (montre_introuvable (find?_zero hcles) rfl rfl) ?_⟩
    intro x hx
    cases hx
  · have hinit : LivreDetail.initial.ngOnInit i = (.initial, [.getLivre i]) := if_neg hi
    refine ⟨hdb, .initial, ?_, ?_⟩
    · show some (LivreDetail.initial.ngOnInit i).1 = _
      rw [hinit]
    · show Etape db i _ ([] ++ (LivreDetail.initial.ngOnInit i).2.map Exchange.new)
      rw [hinit]
      have hnil : ∀ x ∈ ([] : List (Exchange Requete Response)), x.isPending = false := by simp
      exact .attend .livre hnil (Or.inl rfl)

theorem ouvert_step (hcles : ClesGenerees db) (h : Ouvert db i w) (hcalme : Calme db e) :
    Ouvert db i (World.step Onglet.component (serveur env) w e) := by
  obtain ⟨hserver, p, hpage, hetape⟩ := h
  have heffect := World.step_effect Onglet.component (serveur env) w e
  generalize World.step Onglet.component (serveur env) w e = w' at heffect ⊢
  cases heffect with
  | idle => exact ⟨hserver, p, hpage, hetape⟩
  | call m =>
      obtain ⟨id⟩ := m
      -- the component is there already: only the URL changes
      have hcall : Onglet.call w.page (.livres id) = ({ w.page with url := some id }, []) := by
        simp only [Onglet.call, hpage]
      refine ⟨hserver, p, ?_, ?_⟩
      · show (Onglet.call w.page (.livres id)).1.page = some p
        rw [hcall]
        exact hpage
      · show Etape db i p (w.log ++ (Onglet.call w.page (.livres id)).2.map Exchange.new)
        rw [hcall]
        simpa using hetape
  | serve l₁ l₂ q t hlog =>
      obtain ⟨rfl, hdone, r, hattend, -⟩ := hetape.attend_of_pending hlog rfl
      rw [hattend.serveur env t hserver]
      exact ⟨hserver, p, hpage, .attend hattend hdone (Or.inr rfl)⟩
  | arrive l₁ l₂ q r hlog =>
      obtain ⟨rfl, hdone, r', hattend, hphase⟩ := hetape.attend_of_pending hlog rfl
      obtain rfl : r = r' := by simpa using hphase
      have hw : w.page = ⟨w.page.url, some p⟩ := by rw [← hpage]
      obtain ⟨p', hpage', hetape'⟩ := Etape.arrive hcles w.page.url hattend hdone
      rw [← hw] at hpage' hetape'
      exact ⟨hserver, p', congrArg Onglet.page hpage', hetape'⟩
  | fail => exact absurd hcalme id
  | other db' => exact ⟨hcalme, p, hpage, hetape⟩

/-- Once there has been a navigation, the page is open on the first book navigated to. -/
theorem ouvert_run (hcles : ClesGenerees db) {es : List (Happening Onglet.Navigation Instant Db)}
    (hes : ∀ e ∈ es, Calme db e)
    (hfirst : (es.filter estNavigation).head? = some (.call (.livres i))) {db' : Db}
    (hdb : MemeCatalogue db db') :
    Ouvert db i (run (World.step Onglet.component (serveur env)) (ferme db') es) := by
  induction es generalizing db' with
  | nil => cases hfirst
  | cons e es ih =>
      have hes' : ∀ e' ∈ es, Calme db e' := fun e' he' => hes e' (List.mem_cons_of_mem e he')
      rw [run_cons]
      cases hnav : estNavigation e with
      | true =>
          rw [List.filter_cons_of_pos hnav, List.head?_cons] at hfirst
          obtain rfl := Option.some.inj hfirst
          have halong : Along (World.step Onglet.component (serveur env)) (fun _ e => Calme db e)
              (World.step Onglet.component (serveur env) (ferme db') (.call (.livres i))) es :=
            along_of_forall hes'
          exact (always_of_along (fun _ _ h hcalme => ouvert_step hcles h hcalme)
            (ouvert_ferme hcles hdb) halong).last
      | false =>
          rw [List.filter_cons_of_neg (by simp [hnav])] at hfirst
          obtain ⟨db'', hstep, hdb''⟩ := step_ferme env hdb (hes e List.mem_cons_self) hnav
          rw [hstep]
          exact ih hes' hfirst hdb''

/-- Only a navigation changes the URL. -/
theorem url_step (hnav : estNavigation e = false) :
    (World.step Onglet.component (serveur env) w e).page.url = w.page.url := by
  have hanswer : ∀ (o : Onglet) q r, (Onglet.answer o q r).1.url = o.url := by
    intro o q r
    unfold Onglet.answer
    split
    · rfl
    · cases q <;> rfl
  have heffect := World.step_effect Onglet.component (serveur env) w e
  generalize World.step Onglet.component (serveur env) w e = w' at heffect ⊢
  cases heffect with
  | call m => cases hnav
  | arrive => exact hanswer _ _ _
  | fail => exact hanswer _ _ _
  | _ => rfl

theorem url_run {j : Nat} (es : List (Happening Onglet.Navigation Instant Db)) :
    (run (World.step Onglet.component (serveur env)) (ferme db) es).page.url = some j ↔
      (es.filter estNavigation).getLast? = some (.call (.livres j)) := by
  refine run_iff_last (I := fun _ => True)
    (R := fun w : World Onglet Db Requete Response => w.page.url = some j)
    (fun _ _ _ => trivial) ?_ ?_ trivial ?_ es
  · intro w e _ hnav
    cases e with
    | call m =>
        obtain ⟨id⟩ := m
        have hurl : (Onglet.call w.page (.livres id)).1.url = some id := by
          simp only [Onglet.call]
          split <;> rfl
        show (Onglet.call w.page (.livres id)).1.url = some j ↔ _
        rw [hurl]
        simp
    | _ => cases hnav
  · intro w e _ hnav
    rw [url_step hnav]
  · exact fun h => nomatch h

end Runs

/-- **The page shows the book of its URL exactly when that is the book of the first URL**, or neither
names a book. After any navigations, once all answers have arrived, what the page shows is what was
first asked of it. -/
theorem montre_iff (env : Env) (db : Db) (hcles : ClesGenerees db)
    (es : List (Happening Onglet.Navigation Instant Db)) (hes : ∀ e ∈ es, Calme db e) (i j : Nat)
    (hfirst : (es.filter estNavigation).head? = some (.call (.livres i)))
    (hlast : (es.filter estNavigation).getLast? = some (.call (.livres j)))
    (hfin : ∀ x ∈ (run (World.step Onglet.component (serveur env)) (ferme db) es).log,
      x.isPending = false) :
    let w := run (World.step Onglet.component (serveur env)) (ferme db) es
    w.page.url = some j ∧ ∃ p, w.page.page = some p ∧
      (Montre db j p ↔ j = i ∨ (db.livres.find? i = none ∧ db.livres.find? j = none)) := by
  intro w
  have houvert : Ouvert db i w := ouvert_run hcles hes hfirst (.refl db)
  obtain ⟨-, p, hpage, hetape⟩ := houvert
  exact ⟨(url_run es).mpr hlast, p, hpage, (hetape.montre hfin).iff⟩

/-- From "Les Miserables" the visitor follows the link to "Notre-Dame de Paris", of the same author. -/
def lienSuivi : List (Happening Onglet.Navigation Instant Db) :=
  [.call (.livres 1), .serve 0 ⟨0, 0, none⟩, .arrive 0, .serve 1 ⟨0, 0, none⟩, .arrive 1,
    .call (.livres 2)]

theorem clesGenerees_load : ClesGenerees (AppFixtures.load .plain) where
  livres := by decide
  auteurs := by decide

/-- Back at the first book the page is right. -/
theorem montre_retour :
    ∃ p, (run (World.step Onglet.component (serveur .plain)) (ferme (AppFixtures.load .plain))
        (lienSuivi ++ [.call (.livres 1)])).page = ⟨some 1, some p⟩ ∧
      Montre (AppFixtures.load .plain) 1 p := by
  have hcalme : ∀ e ∈ lienSuivi ++ [.call (.livres 1)], Calme (AppFixtures.load .plain) e := by
    simp [lienSuivi, Calme]
  obtain ⟨hurl, p, hpage, hmontre⟩ := montre_iff .plain _ clesGenerees_load _ hcalme 1 1 rfl rfl
    (by decide)
  refine ⟨p, ?_, hmontre.mpr (Or.inl rfl)⟩
  rw [← hurl, ← hpage]

/-- On the second book it still shows the first. -/
theorem not_montre_lienSuivi :
    let w := run (World.step Onglet.component (serveur .plain)) (ferme (AppFixtures.load .plain))
      lienSuivi
    (∀ e ∈ lienSuivi, Calme (AppFixtures.load .plain) e) ∧ (∀ x ∈ w.log, x.isPending = false) ∧
      w.page.url = some 2 ∧
      (w.page.page.bind (·.livre)).map (·.titre) = some "Les Miserables" ∧
      ∀ p, w.page.page = some p → ¬ Montre (AppFixtures.load .plain) 2 p := by
  intro w
  have htitre : (w.page.page.bind (·.livre)).map (·.titre) = some "Les Miserables" := by decide
  refine ⟨by simp [lienSuivi, Calme], by decide, by decide, htitre, ?_⟩
  intro p hp hmontre
  rw [hp, Option.bind_some, hmontre.livre] at htitre
  revert htitre
  decide

end Bibliotheque.Client
