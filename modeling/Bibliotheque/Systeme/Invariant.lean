import Bibliotheque.Systeme.References

/-! # The lending desk inside the installation

`Inv` was proved of the operations of the lending desk. The rest of the installation writes to the
same tables: books come and go in the catalogue, accounts are edited, passwords are upgraded. A new
book is the delicate case, for nothing in the invariant keeps an earlier loan from being for the key
the book gets; the references do.

The figures of the dashboard and of the catalogue then tell the same story (`tableau_run`). -/

namespace Bibliotheque

open Lib Table ReservationsRepository EmpruntCrudController

/-! The two limits on reservations ask nothing of the rest of the database. -/

namespace ReservationLimits

variable {env : Env} {db db' : Db}

theorem apiEffect (h : ReservationLimits db) {now now' : Int} {w : Option Utilisateur}
    {req : ApiRequest} (heff : ApiEffect env now now' w db req db') : ReservationLimits db' := by
  cases heff with
  | purge u huser hadherent => exact h.purge _
  | reservation u data db' huser hadherent heff => exact h.create heff
  | suppression u id db' huser hadherent heff =>
      cases heff with
      | rien => exact h
      | suppression r hr hid howner => exact h.delete _ rfl
  | _ => exact h.congr rfl

theorem adminEffect (h : ReservationLimits db) {now : Int} {req : AdminRequest}
    (heff : AdminEffect env now db req db') : ReservationLimits db' := by
  cases heff with
  | empruntNew f =>
      have heff := persistEntity_effect now f db
      generalize (EmpruntCrudController.persistEntity now f db).commit db = db' at heff ⊢
      cases heff with
      | rien => exact h
      | pret user livre removed => exact h.delete _ rfl
  | utilisateurDelete id => exact h.delete _ rfl
  | reservationEdit id date =>
      exact h.update id (fun r => { r with dateResa := date }) (fun _ => rfl) (fun _ => rfl)
        (fun _ => rfl) rfl
  | reservationDelete id => exact h.delete _ rfl
  | _ => exact h.congr rfl

theorem evenement (h : ReservationLimits db) (env : Env) (e : Evenement) :
    ReservationLimits (e.apply env db) := by
  have heff := e.ecriture env db
  generalize e.apply env db = db' at heff ⊢
  cases heff with
  | rien => exact h
  | login now email password u hu hvalid =>
      unfold upgradePassword
      split
      · exact h.congr rfl
      · exact h
  | api now now' w req hw => exact h.apiEffect (handle_effect env now now' w req db)
  | admin now u req db' hu hrole heff => exact h.adminEffect heff
  | expire now => exact h.purge _

end ReservationLimits

/-- The edits of a loan by staff are the ones of the lending desk; everything else is allowed. -/
def Evenement.Admissible (db : Db) : Evenement → Prop
  | .requete (.admin _ user (.empruntEdit id f)) => db.estPersonnel user → Inv.KeepsLoan db id f
  | _ => True

namespace Inv

variable {db : Db}

/-- The invariant looks at the keys and pointers of the books, the loans and the reservations. -/
theorem of_livres (h : Inv db) {db' : Db} (hemprunts : db'.emprunts = db.emprunts)
    (hreservations : db'.reservations = db.reservations)
    (hlivres : ∀ b' ∈ db'.livres.rows, ∃ b ∈ db.livres.rows, b'.id = b.id ∧ b'.emprunt = b.emprunt) :
    Inv db' where
  pointeur := by
    intro b' hb' e he
    obtain ⟨b, hb, hid, hpt⟩ := hlivres b' hb'
    rw [hpt, hid]
    exact h.pointeur b hb e (hemprunts ▸ he)
  pointeurValide := by
    intro b' hb' i hi
    obtain ⟨b, hb, -, hpt⟩ := hlivres b' hb'
    rw [hemprunts]
    exact h.pointeurValide b hb i (hpt ▸ hi)
  unParLivre := hemprunts ▸ h.unParLivre
  cinqParMembre := hemprunts ▸ h.cinqParMembre
  nonReserve := by
    rw [hemprunts, hreservations]
    exact h.nonReserve
  limites := h.limites.congr hreservations

/-- Accounts, authors and categories do not count. -/
theorem congr (h : Inv db) {db' : Db} (hemprunts : db'.emprunts = db.emprunts)
    (hreservations : db'.reservations = db.reservations) (hlivres : db'.livres = db.livres) :
    Inv db' :=
  h.of_livres hemprunts hreservations fun b hb => ⟨b, hlivres ▸ hb, rfl, rfl⟩

/-- A new book is nobody's: no loan can be for a key that was not given out before. -/
theorem insertLivre (h : Inv db) (href : References db) {l : Livre} (hnull : l.emprunt = none)
    {db' : Db} (hemprunts : db'.emprunts = db.emprunts)
    (hreservations : db'.reservations = db.reservations)
    (hlivres : db'.livres = db.livres.insert l) : Inv db' where
  pointeur := by
    intro b hb e he
    rw [hemprunts] at he
    rw [hlivres] at hb
    rcases List.mem_append.mp hb with hold | hnew
    · exact h.pointeur b hold e he
    · obtain rfl := List.mem_singleton.mp hnew
      have hlt : e.livre < db.livres.next := href.empruntLivre.lt_next he
      constructor
      · intro hpt
        cases hnull.symm.trans hpt
      · rintro ⟨hlivre, -⟩
        exact absurd hlivre (Nat.ne_of_lt hlt)
  pointeurValide := by
    intro b hb i hi
    rw [hemprunts]
    rw [hlivres] at hb
    rcases List.mem_append.mp hb with hold | hnew
    · exact h.pointeurValide b hold i hi
    · obtain rfl := List.mem_singleton.mp hnew
      cases hnull.symm.trans hi
  unParLivre := hemprunts ▸ h.unParLivre
  cinqParMembre := hemprunts ▸ h.cinqParMembre
  nonReserve := by
    rw [hemprunts, hreservations]
    exact h.nonReserve
  limites := h.limites.congr hreservations

theorem apiEffect (h : Inv db) {env : Env} {now now' : Int} {w : Option Utilisateur}
    {req : ApiRequest} {db' : Db} (heff : ApiEffect env now now' w db req db') : Inv db' := by
  cases heff with
  | rien => exact h
  | profil u data huser hflush => exact h.congr rfl rfl rfl
  | categorie data nom hnom => exact h.congr rfl rfl rfl
  | purge u huser hadherent => exact h.purge _
  | reservation u data db' huser hadherent heff => exact h.create heff
  | suppression u id db' huser hadherent heff =>
      cases heff with
      | rien => exact h
      | suppression r hr hid howner => exact h.deleteReservations _

theorem adminEffect (h : Inv db) (href : References db) {env : Env} {now : Int}
    {req : AdminRequest} {db' : Db}
    (hedit : ∀ id f, req = .empruntEdit id f → KeepsLoan db id f)
    (heff : AdminEffect env now db req db') : Inv db' := by
  cases heff with
  | rien => exact h
  | livreNew f l hl =>
      exact h.insertLivre href (LivreCrudController.entite_eq_some hl).2.1 rfl rfl rfl
  | livreEdit f l l' hmem hl =>
      refine h.of_livres rfl rfl fun b' hb' => ?_
      obtain ⟨b, hb, rfl⟩ := List.mem_map.mp hb'
      refine ⟨b, hb, ?_⟩
      split <;> exact ⟨rfl, rfl⟩
  | livreDelete l hmem hemprunts hreservations =>
      exact h.of_livres rfl rfl fun b hb => ⟨b, (List.mem_filter.mp hb).1, rfl, rfl⟩
  | empruntNew f => exact h.persistEntity (persistEntity_effect now f db)
  | empruntEdit f e u l dateEmprunt he hu hl hfu hfl =>
      exact h.updateEntity (hedit e.id f rfl) (.edition e u.id l.id dateEmprunt he rfl hfu hfl)
  | empruntDelete id => exact h.removeEmprunts _
  | utilisateurDelete id => exact h.deleteUtilisateur id
  | reservationEdit id date => exact h.editDateResa id date
  | reservationDelete id => exact h.deleteReservations _
  | auteurNew f a => exact h.congr rfl rfl rfl
  | auteurEdit id f a a' => exact h.congr rfl rfl rfl
  | auteurDelete a ha => exact h.congr rfl rfl rfl
  | categorieNew f c => exact h.congr rfl rfl rfl
  | categorieEdit id f c c' => exact h.congr rfl rfl rfl
  | categorieDelete c hc => exact h.congr rfl rfl rfl
  | utilisateurNew f u hu hlibre => exact h.congr rfl rfl rfl
  | utilisateurEdit f u u' hmem hu hlibre => exact h.congr rfl rfl rfl

theorem upgradePassword (h : Inv db) (env : Env) (u : Utilisateur) (password : String) :
    Inv (upgradePassword env u password db) := by
  unfold Bibliotheque.upgradePassword
  split
  · exact h.congr rfl rfl rfl
  · exact h

theorem evenement (h : Inv db) (href : References db) (env : Env) (e : Evenement)
    (hadm : e.Admissible db) : Inv (e.apply env db) := by
  have heff := e.ecriture env db
  generalize e.apply env db = db' at heff ⊢
  cases heff with
  | rien => exact h
  | login now email password u hu hvalid => exact h.upgradePassword env u password
  | api now now' w req hw => exact h.apiEffect (handle_effect env now now' w req db)
  | admin now u req db' hu hrole heff =>
      refine h.adminEffect href ?_ heff
      rintro id f rfl
      exact hadm ⟨u, hu, rfl, hrole⟩
  | expire now => exact h.purge _

end Inv

/-! ## Whole runs -/

/-- The lending desk is in order and nothing dangles. -/
structure EnOrdre (db : Db) : Prop where
  inv : Inv db
  references : References db

theorem enOrdre_fixtures (env : Env) : EnOrdre (AppFixtures.load env) :=
  ⟨(noLoanYet_fixtures env).inv, references_fixtures env⟩

theorem EnOrdre.apply {db : Db} (h : EnOrdre db) (env : Env) (e : Evenement)
    (hadm : e.Admissible db) : EnOrdre (e.apply env db) :=
  ⟨h.inv.evenement h.references env e hadm, h.references.apply env e⟩

theorem enOrdre_always {env : Env} {db : Db} {es : List Evenement} (h : EnOrdre db)
    (hes : Along (Evenement.apply env) Evenement.Admissible db es) :
    Always (Evenement.apply env) EnOrdre db es :=
  always_of_along (fun _ e h hadm => h.apply env e hadm) h hes

/-- **The lending desk keeps its promises inside the installation.** Logins, profile changes, new,
edited and deleted books, authors, categories and accounts may come in between, in any order: as long
as the edits of loans keep book and member and reopen nothing, pointers, loans and reservations
agree in every state. -/
theorem loanInvariant_installation (env : Env) (db : Db) (h : EnOrdre db) (es : List Evenement)
    (hes : Along (Evenement.apply env) Evenement.Admissible db es) :
    Always (Evenement.apply env) LoanInvariant db es :=
  (enOrdre_always h hes).mono fun _ h => h.inv.loanInvariant

/-- A book is added, lent and returned, its record edited meanwhile. -/
theorem loanInvariant_installation_fixtures :
    let es : List Evenement :=
      [.requete (.admin 0 (some 6)
          (.livreNew ⟨some "Neuf", some 0, some "Francais", none, [1], [1]⟩)),
        .requete (.admin 10 (some 5) (.empruntNew ⟨some 2, some 14, none, none⟩)),
        .requete (.admin 20 (some 6)
          (.livreEdit 14 ⟨some "Ancien", some 0, some "Francais", none, [], []⟩)),
        .requete (.admin 30 (some 5) (.empruntEdit 1 ⟨some 2, some 14, some 10, some 30⟩))]
    EnOrdre (AppFixtures.load .plain) ∧
    Along (Evenement.apply .plain) Evenement.Admissible (AppFixtures.load .plain) es ∧
    Always (Evenement.apply .plain) LoanInvariant (AppFixtures.load .plain) es := by
  intro es
  have hes : Along (Evenement.apply .plain) Evenement.Admissible (AppFixtures.load .plain) es := by
    refine ⟨trivial, trivial, trivial, ?_, trivial⟩
    intro _
    unfold Inv.KeepsLoan
    decide +kernel
  exact ⟨enOrdre_fixtures .plain, hes,
    loanInvariant_installation .plain (AppFixtures.load .plain) (enOrdre_fixtures .plain) es hes⟩

/-! ## The figures -/

namespace EnOrdre

variable {db : Db}

/-- The books that are out are the books of the open loans. -/
theorem perm_sortis (h : EnOrdre db) :
    ((db.emprunts.rows.filter (·.ouvert)).map Emprunt.livre).Perm
      ((db.livres.rows.filter fun l => !l.isDisponible).map Livre.id) := by
  have hemprunts : ((db.emprunts.rows.filter (·.ouvert)).map Emprunt.livre).Nodup := by
    refine List.Nodup.map_on ?_ ((List.Nodup.of_map _ db.emprunts.nodup).filter _)
    intro e he e' he' hlivre
    obtain ⟨hmem, hopen⟩ := List.mem_filter.mp he
    obtain ⟨hmem', hopen'⟩ := List.mem_filter.mp he'
    exact h.inv.ouvert_unique hmem hmem' ((Emprunt.ouvert_eq_true e).mp hopen)
      ((Emprunt.ouvert_eq_true e').mp hopen') hlivre
  have hlivres : ((db.livres.rows.filter fun l => !l.isDisponible).map Livre.id).Nodup :=
    (List.filter_sublist.map _).nodup db.livres.nodup
  rw [List.perm_ext_iff_of_nodup hemprunts hlivres]
  intro n
  rw [List.mem_map, List.mem_map]
  constructor
  · rintro ⟨e, he, rfl⟩
    obtain ⟨hmem, hopen⟩ := List.mem_filter.mp he
    obtain ⟨l, hl, hid⟩ := mem_keys.mp (h.references.empruntLivre e hmem)
    have hpt := (h.inv.pointeur l hl e hmem).mpr ⟨hid.symm, (Emprunt.ouvert_eq_true e).mp hopen⟩
    exact ⟨l, List.mem_filter.mpr ⟨hl, by simp [Livre.isDisponible, hpt]⟩, hid⟩
  · rintro ⟨l, hl, rfl⟩
    obtain ⟨hmem, hsorti⟩ := List.mem_filter.mp hl
    cases hpt : l.emprunt with
    | none => simp [Livre.isDisponible, hpt] at hsorti
    | some i =>
        obtain ⟨e, he, rfl⟩ := h.inv.pointeurValide l hmem i hpt
        obtain ⟨hlivre, hopen⟩ := (h.inv.pointeur l hmem e he).mp hpt
        exact ⟨e, List.mem_filter.mpr ⟨he, (Emprunt.ouvert_eq_true e).mpr hopen⟩, hlivre⟩

/-- As many open loans as books that are out. -/
theorem countP_ouvert (h : EnOrdre db) :
    db.emprunts.rows.countP (·.ouvert) = db.livres.rows.countP fun l => !l.isDisponible := by
  have hlength := h.perm_sortis.length_eq
  rwa [List.length_map, List.length_map, ← List.countP_eq_length_filter,
    ← List.countP_eq_length_filter] at hlength

end EnOrdre

theorem References.clesPrimaires {db : Db} (h : References db) :
    DashboardController.ClesPrimaires db :=
  ⟨h.livreAuteur.nodup, h.livreCategorie.nodup⟩

/-- What the dashboard says of the library: the open loans are exactly the books that the catalogue
shows as unavailable, and the list of authors counts the finished loans of each. -/
structure TableauJuste (env : Env) (horloge : Nat → Int) (db : Db) : Prop where
  enCours : (DashboardController.index env horloge db).nbEmpruntsEnCours +
    ((db.livres.rows.map db.livreVue).countP (·.disponible)) =
      (DashboardController.index env horloge db).nbLivres
  auteurs : ∃ as : List Auteur, as.Nodup ∧
    (∀ a, a ∈ as ↔ a ∈ db.auteurs.rows ∧
      ∃ e ∈ db.emprunts.rows, DashboardController.finiDeAuteur db a e = true) ∧
    (DashboardController.index env horloge db).empruntsFinisAuteurs = as.map fun a =>
      ⟨DashboardController.nomComplet a,
        db.emprunts.rows.countP (DashboardController.finiDeAuteur db a)⟩

theorem EnOrdre.tableauJuste {db : Db} (h : EnOrdre db) (env : Env) (horloge : Nat → Int) :
    TableauJuste env horloge db where
  enCours := by
    have hvues : (db.livres.rows.map db.livreVue).countP (·.disponible) =
        db.livres.rows.countP (·.isDisponible) := by
      rw [List.countP_map]
      rfl
    have hall := List.length_eq_countP_add_countP (l := db.livres.rows) (fun l => l.isDisponible)
    have hsortis := h.countP_ouvert
    simp only [DashboardController.index, hvues]
    simp only [Bool.not_eq_true, Bool.decide_eq_false] at hall
    omega
  auteurs := DashboardController.auteurs_exact h.references.clesPrimaires

/-- **Dashboard and catalogue agree in every state of the installation.** -/
theorem tableau_run (env : Env) (db : Db) (h : EnOrdre db) (es : List Evenement)
    (hes : Along (Evenement.apply env) Evenement.Admissible db es) :
    Always (Evenement.apply env) (fun db => ∀ horloge, TableauJuste env horloge db) db es :=
  (enOrdre_always h hes).mono fun _ h horloge => h.tableauJuste env horloge

/-- A book is lent and returned, another one lent. -/
theorem tableau_run_fixtures :
    let es : List Evenement :=
      [.requete (.admin 0 (some 5) (.empruntNew ⟨some 2, some 1, none, none⟩)),
        .requete (.admin 10 (some 5) (.empruntEdit 1 ⟨some 2, some 1, some 0, some 10⟩)),
        .requete (.admin 20 (some 5) (.empruntNew ⟨some 3, some 2, none, none⟩))]
    EnOrdre (AppFixtures.load .plain) ∧
    Along (Evenement.apply .plain) Evenement.Admissible (AppFixtures.load .plain) es ∧
    Always (Evenement.apply .plain) (fun db => ∀ horloge, TableauJuste .plain horloge db)
      (AppFixtures.load .plain) es := by
  intro es
  have hes : Along (Evenement.apply .plain) Evenement.Admissible (AppFixtures.load .plain) es := by
    refine ⟨trivial, ?_, trivial, trivial⟩
    intro _
    unfold Inv.KeepsLoan
    decide +kernel
  exact ⟨enOrdre_fixtures .plain, hes,
    tableau_run .plain (AppFixtures.load .plain) (enOrdre_fixtures .plain) es hes⟩

end Bibliotheque
