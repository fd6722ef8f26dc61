import Bibliotheque.Client.ApiService
import Bibliotheque.Fixtures
import Mathlib.Data.List.Infix

/-! # The pages that list books

`LivresList`, with the search form, the reservation buttons and the counter of the member's
reservations, and `Home`, with a shorter form. Both fill the signal `livres` from `getLivres` and
`rechercherLivres`, whose callbacks set it to whatever has arrived; neither has an `error` callback
there, so a request that fails leaves the list as it is. -/

namespace Bibliotheque.Client

open Lib

/-- The characters `trim` of a JavaScript string removes at both ends. -/
def estEspace (c : Char) : Bool :=
  [0x09, 0x0a, 0x0b, 0x0c, 0x0d, 0x20, 0xa0, 0x1680, 0x2028, 0x2029, 0x202f, 0x205f, 0x3000,
    0xfeff].contains c.toNat || (decide (0x2000 ≤ c.toNat) && decide (c.toNat ≤ 0x200a))

def trim (s : String) : String :=
  .ofList ((s.toList.dropWhile estEspace).reverse.dropWhile estEspace).reverse

/-- A field of the query, left out when it is the empty string. -/
def champ (s : String) : Option String := if s = "" then none else some s

/-! ## `LivresList` -/

/-- The fields bound to the search form. -/
structure Formulaire where
  titre : String
  auteur : String
  categorie : String
  langue : String
  dateMin : String
  dateMax : String
  deriving DecidableEq, Repr

inductive TypeMessage where
  | success
  | danger
  | warning
  deriving DecidableEq, Repr

structure Message where
  texte : String
  type : TypeMessage
  deriving DecidableEq, Repr

structure LivresList where
  livres : List LivreVue
  reservationEnCours : Option Nat
  messages : Nat → Option Message
  nbReservations : Nat
  formulaire : Formulaire

namespace LivresList

def initial : LivresList := ⟨[], none, fun _ => none, 0, ⟨"", "", "", "", "", ""⟩⟩

/-- The methods the template calls, and typing into the form. `ngOnInit` finds somebody logged in or
not. -/
inductive Appel where
  | ngOnInit (isLoggedIn : Bool)
  | saisir (formulaire : Formulaire)
  | rechercher
  | reinitialiser
  | reserver (livreId : Nat)
  deriving DecidableEq, Repr

def query (f : Formulaire) : Query where
  titre := champ (trim f.titre)
  auteur := champ (trim f.auteur)
  categorie := champ (trim f.categorie)
  langue := champ (trim f.langue)
  dateMin := champ f.dateMin
  dateMax := champ f.dateMax

/-- `LivresList::getMessage`. The page of an exception has its text under `detail`; a request that
failed on the way has no status and no text. -/
def getMessage (err : Option Response) : String :=
  let detail := match err.map (·.body) with
    | some (.message texte) => texte
    | some (.erreur texte) => texte
    | _ => ""
  let lower := detail.toLower.toList
  match err.map (·.status) with
  | some 409 =>
      if "deja reserve".toList <:+: lower ∨ "already reserved".toList <:+: lower then
        "Ce livre est deja reserve par un autre adherent."
      else if "emprunte".toList <:+: lower ∨ "borrowed".toList <:+: lower then
        "Ce livre est actuellement emprunte."
      else if "limite".toList <:+: lower ∨ "maximum".toList <:+: lower then
        "Vous avez atteint la limite de 3 reservations simultanees."
      else if detail ≠ "" then detail else "Reservation impossible (conflit)."
  | some 401 => "Vous devez etre connecte pour reserver."
  | some 403 => "Vous n'etes pas autorise a effectuer cette action."
  | _ => if detail ≠ "" then detail else "Une erreur est survenue. Veuillez reessayer."

def setMessage (livreId : Nat) (m : Option Message) (s : LivresList) : LivresList :=
  { s with messages := Function.update s.messages livreId m }

def call (s : LivresList) : Appel → LivresList × List Requete
  | .ngOnInit isLoggedIn =>
      -- `chargerLivres`, then `chargerReservations`
      if isLoggedIn then (s, [.getLivres, .getMesReservations])
      else ({ s with nbReservations := 0 }, [.getLivres])
  | .saisir formulaire => ({ s with formulaire := formulaire }, [])
  | .rechercher => (s, [.rechercherLivres (query s.formulaire)])
  | .reinitialiser => ({ s with formulaire := ⟨"", "", "", "", "", ""⟩ }, [.getLivres])
  | .reserver livreId =>
      (setMessage livreId none { s with reservationEnCours := some livreId },
        [.reserverLivre livreId])

/-- The callbacks of `chargerLivres` and `rechercher`. -/
def onLivres (s : LivresList) (r : Option Response) : LivresList :=
  match r.bind (·.livres?) with
  | some data => { s with livres := data }
  | none => s

/-- The callbacks of `chargerReservations`. -/
def onReservations (s : LivresList) (r : Option Response) : LivresList :=
  match r.bind (·.reservations?) with
  | some data => { s with nbReservations := data.length }
  | none => { s with nbReservations := 0 }

/-- The callbacks of `reserver`. -/
def onReserve (s : LivresList) (livreId : Nat) (r : Option Response) : LivresList :=
  if r.any (·.ok) then
    setMessage livreId (some ⟨"Reservation effectuee avec succes !", .success⟩)
      { s with reservationEnCours := none, nbReservations := s.nbReservations + 1 }
  else
    setMessage livreId (some ⟨getMessage r, .danger⟩) { s with reservationEnCours := none }

def answer (s : LivresList) (q : Requete) (r : Option Response) : LivresList × List Requete :=
  match q with
  | .getLivres => (s.onLivres r, [])
  | .rechercherLivres _ => (s.onLivres r, [])
  | .getMesReservations => (s.onReservations r, [])
  | .reserverLivre livreId => (s.onReserve livreId r, [])
  | _ => (s, [])

def component : Page LivresList Appel Requete Response := ⟨call, answer⟩

/-- The part of `[disabled]` that the counter decides. -/
def limiteAtteinte (s : LivresList) : Bool := decide (3 ≤ s.nbReservations)

end LivresList

/-! ## `Home` -/

structure Home where
  livres : List LivreVue
  categories : List CategorieVue
  titre : String
  categorieId : String
  deriving DecidableEq, Repr

namespace Home

def initial : Home := ⟨[], [], "", ""⟩

inductive Appel where
  | ngOnInit
  | saisir (titre categorieId : String)
  | rechercher
  deriving DecidableEq, Repr

/-- The fields go into the query as they are typed. -/
def params (s : Home) : Query := ⟨champ s.titre, none, champ s.categorieId, none, none, none⟩

def call (s : Home) : Appel → Home × List Requete
  | .ngOnInit => (s, [.getCategories, .getLivres])
  | .saisir titre categorieId => ({ s with titre := titre, categorieId := categorieId }, [])
  | .rechercher => (s, [.rechercherLivres s.params])

def onLivres (s : Home) (r : Option Response) : Home :=
  match r.bind (·.livres?) with
  | some data => { s with livres := data }
  | none => s

def answer (s : Home) (q : Requete) (r : Option Response) : Home × List Requete :=
  match q with
  | .getLivres => (s.onLivres r, [])
  | .rechercherLivres _ => (s.onLivres r, [])
  | .getCategories =>
      match r.bind (·.categories?) with
      | some data => ({ s with categories := data }, [])
      | none => (s, [])
  | _ => (s, [])

def component : Page Home Appel Requete Response := ⟨call, answer⟩

end Home

/-! ## The list and the last request -/

/-- A request for a list of books. -/
def Requete.deLivres : Requete → Bool
  | .getLivres => true
  | .rechercherLivres _ => true
  | _ => false

/-- A list that arrives replaces the one before. -/
theorem LivresList.livres_onLivres (s : LivresList) (r : Option Response) :
    (s.onLivres r).livres = (r.bind (·.livres?)).getD s.livres := by
  unfold onLivres
  split
  · next data hdata => rw [hdata, Option.getD_some]
  · next hnone => rw [hnone, Option.getD_none]

theorem Home.livres_onLivres (s : Home) (r : Option Response) :
    (s.onLivres r).livres = (r.bind (·.livres?)).getD s.livres := by
  unfold onLivres
  split
  · next data hdata => rw [hdata, Option.getD_some]
  · next hnone => rw [hnone, Option.getD_none]

theorem LivresList.displays :
    World.Displays component LivresList.livres Requete.deLivres Response.livres? where
  call := by
    intro s m
    cases m with
    | ngOnInit isLoggedIn => cases isLoggedIn <;> rfl
    | _ => rfl
  content := by
    intro s q r hq
    cases q with
    | getLivres => exact livres_onLivres s r
    | rechercherLivres query => exact livres_onLivres s r
    | _ => cases hq
  other := by
    intro s q r hq
    cases q with
    | getLivres => cases hq
    | rechercherLivres query => cases hq
    | getMesReservations =>
        simp only [component, answer, onReservations]
        split <;> rfl
    | reserverLivre livreId =>
        simp only [component, answer, onReserve]
        split <;> rfl
    | _ => rfl
  silent := by
    intro s q r hq
    cases q with
    | getLivres => rfl
    | rechercherLivres query => rfl
    | _ => cases hq

theorem Home.displays :
    World.Displays component Home.livres Requete.deLivres Response.livres? where
  call := by
    intro s m
    cases m <;> rfl
  content := by
    intro s q r hq
    cases q with
    | getLivres => exact livres_onLivres s r
    | rechercherLivres query => exact livres_onLivres s r
    | _ => cases hq
  other := by
    intro s q r hq
    cases q with
    | getLivres => cases hq
    | rechercherLivres query => cases hq
    | getCategories =>
        simp only [component, answer]
        split <;> rfl
    | _ => rfl
  silent := by
    intro s q r hq
    cases q with
    | getLivres => rfl
    | rechercherLivres query => rfl
    | _ => cases hq

/-- The list shows the answer to the request sent last, once no request for books is pending. -/
def MontreDerniere {κ : Type} (livres : κ → List LivreVue) : World κ Db Requete Response → Prop :=
  World.ShowsLast livres Requete.deLivres Response.livres?

/-- Whatever ends the last request for books that is pending — an answer, or a failure — answers the
request sent last with a list; or that one has been answered with the list that arrives now, or that is
shown already if none arrives. -/
def DansLOrdre {κ μ : Type} (livres : κ → List LivreVue) :
    World κ Db Requete Response → Happening μ Instant Db → Prop :=
  World.LastStands livres Requete.deLivres Response.livres?

/-- The answer that comes in last is a list, but not the one that answered the request sent last. -/
def Depassee {κ : Type} : World κ Db Requete Response → Nat → Prop :=
  World.Overtaken Requete.deLivres Response.livres?

/-- **The list shown is the answer to the last request**, on both pages, in every state of a run,
exactly when whatever ends the last pending request for books leaves that answer in its place; and a
list that arrives late is shown in its place. -/
theorem montreDerniere_iff_dansLOrdre (env : Env) :
    (∀ (db : Db) (es : List (Happening LivresList.Appel Instant Db)),
      Always (World.step LivresList.component (serveur env)) (MontreDerniere LivresList.livres)
        ⟨.initial, db, []⟩ es ↔
      Along (World.step LivresList.component (serveur env)) (DansLOrdre LivresList.livres)
        ⟨.initial, db, []⟩ es) ∧
    (∀ (db : Db) (es : List (Happening Home.Appel Instant Db)),
      Always (World.step Home.component (serveur env)) (MontreDerniere Home.livres)
        ⟨.initial, db, []⟩ es ↔
      Along (World.step Home.component (serveur env)) (DansLOrdre Home.livres)
        ⟨.initial, db, []⟩ es) ∧
    (∀ w i, Depassee w i →
      ¬ MontreDerniere LivresList.livres
        (World.step LivresList.component (serveur env) w (.arrive i))) ∧
    (∀ w i, Depassee w i →
      ¬ MontreDerniere Home.livres (World.step Home.component (serveur env) w (.arrive i))) :=
  ⟨fun _ _ => World.always_showsLast_iff LivresList.displays rfl,
    fun _ _ => World.always_showsLast_iff Home.displays rfl,
    fun _ _ => World.not_showsLast_of_overtaken LivresList.displays,
    fun _ _ => World.not_showsLast_of_overtaken Home.displays⟩

/-- The visitor searches for a title that is not there before the catalogue has come in. -/
def rechercheRapide : List (Happening LivresList.Appel Instant Db) :=
  [.call (.ngOnInit false), .call (.saisir ⟨"Zadig", "", "", "", "", ""⟩), .call .rechercher,
    .serve 0 ⟨0, 0, none⟩, .serve 1 ⟨0, 0, none⟩]

/-- The answer to the search comes in last; or it comes in first, and the catalogue never does. -/
theorem montreDerniere_rechercheRapide :
    Always (World.step LivresList.component (serveur .plain)) (MontreDerniere LivresList.livres)
      ⟨.initial, AppFixtures.load .plain, []⟩ (rechercheRapide ++ [.arrive 0, .arrive 1]) ∧
    Always (World.step LivresList.component (serveur .plain)) (MontreDerniere LivresList.livres)
      ⟨.initial, AppFixtures.load .plain, []⟩ (rechercheRapide ++ [.arrive 1, .fail 0]) := by
  constructor
  · refine ((montreDerniere_iff_dansLOrdre .plain).1 _ _).mpr
      ⟨.call _, .call _, .call _, .serve _ _, .serve _ _, ?_, ?_, trivial⟩
    · -- the search is still pending
      intro i r hsettles hquiet
      cases hsettles
      exfalso
      revert hquiet
      unfold World.Quiet
      decide
    · intro i r hsettles _
      cases hsettles with
      | arrive _ q a hget hq =>
          cases hget
          rfl
  · refine ((montreDerniere_iff_dansLOrdre .plain).1 _ _).mpr
      ⟨.call _, .call _, .call _, .serve _ _, .serve _ _, ?_, ?_, trivial⟩
    · -- the catalogue is still pending
      intro i r hsettles hquiet
      cases hsettles
      exfalso
      revert hquiet
      unfold World.Quiet
      decide
    · intro i r hsettles _
      cases hsettles
      exact ⟨⟨200, .livres []⟩, rfl, rfl⟩

/-- The catalogue comes in last and replaces the result of the search. -/
theorem not_montreDerniere_rechercheRapide :
    let w := run (World.step LivresList.component (serveur .plain))
      ⟨.initial, AppFixtures.load .plain, []⟩ (rechercheRapide ++ [.arrive 1, .arrive 0])
    World.Quiet Requete.deLivres w.log ∧ w.page.livres.length = 13 ∧
      (World.ofKind Requete.deLivres w.log).getLast? =
        some ⟨.rechercherLivres ⟨some "Zadig", none, none, none, none, none⟩,
          .done (some ⟨200, .livres []⟩)⟩ ∧
      ¬ MontreDerniere LivresList.livres w := by
  intro w
  have hquiet : World.Quiet Requete.deLivres w.log := by
    intro x hx
    have hdone : (World.ofKind Requete.deLivres w.log).all (fun x => !x.isPending) = true := by
      decide
    simpa using List.all_eq_true.mp hdone x hx
  have hlivres : w.page.livres.length = 13 := by decide
  have hlast : (World.ofKind Requete.deLivres w.log).getLast? =
      some ⟨.rechercherLivres ⟨some "Zadig", none, none, none, none, none⟩,
        .done (some ⟨200, .livres []⟩)⟩ := by decide
  refine ⟨hquiet, hlivres, hlast, ?_⟩
  intro h
  obtain ⟨r, hphase, hcontenu⟩ := h hquiet _ hlast
  cases hphase
  rw [← Option.some.inj hcontenu] at hlivres
  cases hlivres

end Bibliotheque.Client
