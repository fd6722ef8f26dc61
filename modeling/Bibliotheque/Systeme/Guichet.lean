import Bibliotheque.Systeme.Circulation

/-! # What the lending desk guarantees

The installation refines the abstract desk (`circulation_run`), and it does not do so by refusing: at
the two places where a member gets something, a reservation through the API and a loan through the
back office, a request is accepted exactly when the abstract desk permits it (`guichet_exact`).

A reservation is worth something: for seven days, whatever the others do, the book stays reserved for
the member and is given to nobody else (`reservation_tient`). -/

namespace Bibliotheque

open Lib Table ReservationsRepository EmpruntCrudController Circulation

/-! ## Refinement -/

theorem EnOrdre.revient {db : Db} (h : EnOrdre db) (env : Env) (e : Evenement)
    (hadm : e.Admissible db) : Revient env db e (e.apply env db) := by
  have heff := e.ecriture env db
  generalize e.apply env db = db' at heff ⊢
  cases heff with
  | rien => exact .rien h.inv.decrit
  | login now email password u hu hvalid =>
      refine .rien ?_
      unfold upgradePassword
      split
      · exact h.inv.decrit.congr rfl rfl
      · exact h.inv.decrit
  | api now now' w req hw => exact .api h.inv (handle_effect env now now' w req db)
  | admin now u req db' hu hrole heff =>
      refine .admin h.inv ?_ heff
      rintro id f rfl
      exact hadm ⟨u, hu, rfl, hrole⟩
  | expire now => exact .un (.expire now) trivial (h.inv.decrit.expirer _)

/-- Every admissible event amounts to permitted movements. -/
theorem circulation (env : Env) :
    Simulation (Evenement.apply env) EnOrdre Evenement.Admissible Mouvement.apply Mouvement.Permise
      (Cause env) Db.situation where
  keeps := fun _ e h hadm => h.apply env e hadm
  amounts := by
    intro db e h hadm
    obtain ⟨ks, hcause, halong, hdecrit⟩ := h.revient env e hadm
    exact ⟨ks, hcause, halong, ((h.apply env e hadm).inv.situation_eq hdecrit).symm⟩

/-- **The installation is a lending desk.** Whatever admissible sequence of events is handled, there
is a journal of movements of the abstract desk, some for each event and caused by it, each permitted at
its moment, that takes the books from where they were to where they are. -/
theorem circulation_run (env : Env) (db : Db) (h : EnOrdre db) (es : List Evenement)
    (hes : Along (Evenement.apply env) Evenement.Admissible db es) :
    ∃ journal : List (List (Mouvement Nat Nat)), Records (Evenement.apply env) (Cause env) db es journal ∧
      Along Mouvement.apply Mouvement.Permise db.situation journal.flatten ∧
      run Mouvement.apply db.situation journal.flatten =
        (run (Evenement.apply env) db es).situation :=
  (circulation env).run h hes

/-- A member reserves a book and gets it; a second one, who is too late, gets it after the return. -/
theorem circulation_run_fixtures :
    let es : List Evenement :=
      [.requete (.api 0 0 (some 2) (.reservationCreate (.obj [("livreId", .int 1)]))),
        .requete (.api 5 5 (some 3) (.reservationCreate (.obj [("livreId", .int 1)]))),
        .requete (.admin 10 (some 5) (.empruntNew ⟨some 2, some 1, none, none⟩)),
        .requete (.admin 20 (some 5) (.empruntEdit 1 ⟨some 2, some 1, some 10, some 20⟩)),
        .requete (.admin 30 (some 5) (.empruntNew ⟨some 3, some 1, none, none⟩))]
    EnOrdre (AppFixtures.load .plain) ∧
    Along (Evenement.apply .plain) Evenement.Admissible (AppFixtures.load .plain) es ∧
    ∃ journal : List (List (Mouvement Nat Nat)),
      Records (Evenement.apply .plain) (Cause .plain) (AppFixtures.load .plain) es journal ∧
      Along Mouvement.apply Mouvement.Permise (AppFixtures.load .plain).situation journal.flatten ∧
      run Mouvement.apply (AppFixtures.load .plain).situation journal.flatten =
        (run (Evenement.apply .plain) (AppFixtures.load .plain) es).situation := by
  intro es
  have hes : Along (Evenement.apply .plain) Evenement.Admissible (AppFixtures.load .plain) es := by
    refine ⟨trivial, trivial, trivial, ?_, trivial, trivial⟩
    intro _
    unfold Inv.KeepsLoan
    decide +kernel
  exact ⟨enOrdre_fixtures .plain, hes,
    circulation_run .plain (AppFixtures.load .plain) (enOrdre_fixtures .plain) es hes⟩

/-! ## Exactness -/

section Exactness

variable {db : Db} {u : Utilisateur} {l : Livre}

/-- The checks of `persistEntity` are the condition of the abstract desk. -/
theorem Inv.pretable_iff_permise (h : Inv db) {user livre : Nat} :
    Pretable user livre db ↔ (Mouvement.preter livre user).Permise db.situation := by
  have hcount : (pretes db.situation user).encard < 5 ↔ countEmpruntsActifs user db < 5 := by
    rw [h.encard_pretes]
    exact_mod_cast Iff.rfl
  constructor
  · intro hp
    refine ⟨?_, hcount.mpr hp.membre⟩
    cases hfind : findReservation (some livre) db with
    | none =>
        exact Or.inl (h.situation_eq_libre.mpr ⟨hp.libre, findReservation_eq_none.mp hfind⟩)
    | some r =>
        obtain ⟨hr, hl⟩ := findReservation_eq_some hfind
        exact Or.inr ⟨r.dateResa,
          h.situation_eq_reserve.mpr ⟨r, hr, hl, hp.reservation r hfind, rfl⟩⟩
  · rintro ⟨hplace, hlt⟩
    refine ⟨?_, hcount.mp hlt, ?_⟩
    · intro r hfind
      obtain ⟨hr, hl⟩ := findReservation_eq_some hfind
      have hres := h.situation_eq_reserve.mpr ⟨r, hr, hl, rfl, rfl⟩
      rcases hplace with hlibre | ⟨d, hd⟩
      · cases hlibre.symm.trans hres
      · exact (Situation.reserve.inj (hres.symm.trans hd)).1
    · intro e he hl hopen
      have hpret := h.situation_eq_prete.mpr ⟨e, he, hl, hopen, rfl⟩
      rcases hplace with hlibre | ⟨d, hd⟩
      · cases hlibre.symm.trans hpret
      · cases hd.symm.trans hpret

/-- The checks of `POST /api/reservation` are the condition of the abstract desk after the purge. -/
theorem Inv.createForLivre_iff_permise (h : Inv db) (hl : l ∈ db.livres.rows) (now now' : Int)
    (u : Utilisateur) :
    (ReservationController.createForLivre now now' u l db).1.status = 201 ↔
      (Mouvement.reserver l.id u.id now').Permise
        ((Mouvement.expirer (cutoff now)).apply db.situation) := by
  have hpurged := h.purge (cutoff now)
  have hrows := purgeExpired_rows (cutoff now) db
  rw [(createForLivre_spec now now' u l db).1,
    ← hpurged.situation_eq (h.decrit.expirer (cutoff now))]
  have hcount : (reserves (purgeExpired (cutoff now) db).2.situation u.id).encard < 3 ↔
      (actives (cutoff now) db).countP (fun r => decide (r.utilisateur = u.id)) < 3 := by
    rw [hpurged.encard_reserves, hrows]
    exact_mod_cast Iff.rfl
  have hnull : l.emprunt = none ↔ ∀ e ∈ db.emprunts.rows, e.livre = l.id → e.dateRetour ≠ none :=
    (Livre.isDisponible_eq_true l).symm.trans (h.loanInvariant.disponible l hl)
  rw [← hcount, hnull]
  constructor
  · rintro ⟨hlt, hresa, hpret⟩
    refine ⟨hpurged.situation_eq_libre.mpr ⟨hpret, ?_⟩, hlt⟩
    rw [hrows]
    exact hresa
  · rintro ⟨hlibre, hlt⟩
    obtain ⟨hpret, hresa⟩ := hpurged.situation_eq_libre.mp hlibre
    rw [hrows] at hresa
    exact ⟨hlt, hresa, hpret⟩

/-- A member's `POST` that names an existing book is `createForLivre` on it. -/
theorem handle_reservationCreate {env : Env} {now now' : Int} {data : Json}
    (hrole : u.atteint .adherent = true) (hl : l ∈ db.livres.rows)
    (htruthy : (data.key "livreId").truthy = true)
    (hid : env.entityId (data.key "livreId") = some l.id) :
    handle env now now' (some u) (.reservationCreate data) db =
      ReservationController.createForLivre now now' u l db := by
  have hfind : db.livres.find? l.id = some l := db.livres.find?_eq_some.mpr ⟨hl, rfl⟩
  rw [handle_eq_dispatch]
  simp only [dispatch, asAdherent, hrole, if_true, ReservationController.create, htruthy,
    Bool.not_true, Bool.false_eq_true, if_false, hid, hfind]

/-- **The desk refuses nothing it should allow.** In every state that is in order, for every member and
every book: his request for a reservation is answered by `201` exactly when the abstract desk, once it
has put back what has expired, may hold the book for him; and staff can lend him the book exactly when
the abstract desk may. -/
theorem guichet_exact (env : Env) (h : EnOrdre db) (hu : u ∈ db.utilisateurs.rows)
    (hl : l ∈ db.livres.rows) (now now' : Int) :
    (∀ data, u.atteint .adherent = true → (data.key "livreId").truthy = true →
      env.entityId (data.key "livreId") = some l.id →
      ((handle env now now' (some u) (.reservationCreate data) db).1.status = 201 ↔
        (Mouvement.reserver l.id u.id now').Permise
          ((Mouvement.expirer (cutoff now)).apply db.situation))) ∧
    (∀ dateEmprunt dateRetour,
      (∃ w, EmpruntCrudController.persistEntity now (formulaire u l dateEmprunt dateRetour) db =
        .accepte w) ↔ (Mouvement.preter l.id u.id).Permise db.situation) := by
  constructor
  · intro data hrole htruthy hid
    rw [handle_reservationCreate hrole hl htruthy hid]
    exact h.inv.createForLivre_iff_permise hl now now' u
  · intro dateEmprunt dateRetour
    have huser : (some u.id).bind db.utilisateurs.find? = some u := bind_find?_of_mem hu rfl
    have hlivre : (some l.id).bind db.livres.find? = some l := bind_find?_of_mem hl rfl
    rw [accepte_iff_pretable huser hlivre]
    exact h.inv.pretable_iff_permise

end Exactness

/-- Alice has reserved the first book, Anthony has taken the second one home. -/
def enActivite : Db :=
  run (Evenement.apply .plain) (AppFixtures.load .plain)
    [.requete (.api 0 0 (some 2) (.reservationCreate (.obj [("livreId", .int 1)]))),
      .requete (.admin 5 (some 5) (.empruntNew ⟨some 3, some 2, none, none⟩))]

theorem enOrdre_enActivite : EnOrdre enActivite :=
  Always.last (enOrdre_always (enOrdre_fixtures .plain) ⟨trivial, trivial, trivial⟩)

/-- She asks for her book again: the desk may not hold it a second time, and may lend it to her. -/
theorem guichet_exact_alice :
    EnOrdre enActivite ∧
    ((handle .plain 10 10 (some AppFixtures.alice) (.reservationCreate (.obj [("livreId", .int 1)]))
        enActivite).1.status = 201 ↔
      (Mouvement.reserver 1 2 10).Permise
        ((Mouvement.expirer (cutoff 10)).apply enActivite.situation)) ∧
    ((∃ w, EmpruntCrudController.persistEntity 10
        (formulaire AppFixtures.alice AppFixtures.lesMiserables none none) enActivite =
          .accepte w) ↔
      (Mouvement.preter 1 2).Permise enActivite.situation) ∧
    ¬ (Mouvement.reserver 1 2 10).Permise
      ((Mouvement.expirer (cutoff 10)).apply enActivite.situation) ∧
    (Mouvement.preter 1 2).Permise enActivite.situation := by
  have hu : AppFixtures.alice ∈ enActivite.utilisateurs.rows := by decide +kernel
  have hl : AppFixtures.lesMiserables ∈ enActivite.livres.rows := by decide +kernel
  obtain ⟨hreserver, hpreter⟩ := guichet_exact .plain enOrdre_enActivite hu hl 10 10
  have hreserver := hreserver (.obj [("livreId", .int 1)]) (by decide) (by decide) (by decide)
  have hpreter := hpreter none none
  refine ⟨enOrdre_enActivite, hreserver, hpreter, ?_, ?_⟩
  · refine mt hreserver.mpr ?_
    decide +kernel
  · refine hpreter.mp ⟨accepted 10
      (formulaire AppFixtures.alice AppFixtures.lesMiserables none none) (some 1) 2 1, ?_⟩
    decide +kernel

/-! ## A reservation holds -/

/-- The event does not end the reservation of the book `b` by the member `m` since `d`: a clock by which
it purges is not seven days past, the member does not cancel it, and staff neither removes nor dates it
anew, nor deletes the account, nor lends him the book. -/
def Evenement.Laisse (b m : Nat) (d : Int) (db : Db) : Evenement → Prop
  | .expire now => now ≤ d + days 7
  | .requete (.api now _ user .reservationIndex) => db.estAdherent user → now ≤ d + days 7
  | .requete (.api now _ user (.reservationCreate _)) => db.estAdherent user → now ≤ d + days 7
  | .requete (.api _ _ user (.reservationDelete id)) => db.estAdherent user → user = some m →
      ∀ r ∈ db.reservations.rows, r.id = id → r.livre ≠ b
  | .requete (.admin _ user (.reservationEdit id date)) => db.estPersonnel user →
      ∀ r ∈ db.reservations.rows, r.id = id → r.livre = b → date = d
  | .requete (.admin _ user (.reservationDelete id)) => db.estPersonnel user →
      ∀ r ∈ db.reservations.rows, r.id = id → r.livre ≠ b
  | .requete (.admin _ user (.utilisateurDelete id)) => db.estPersonnel user → id ≠ m
  | .requete (.admin now user (.empruntNew f)) => db.estPersonnel user →
      ∀ w, EmpruntCrudController.persistEntity now f db = .accepte w →
        ¬ (f.livre = some b ∧ f.utilisateur = some m)
  | _ => True

theorem cutoff_le_iff {now d : Int} : cutoff now ≤ d ↔ now ≤ d + days 7 := by
  unfold cutoff
  omega

namespace Db.Resa

variable {env : Env} {db db' : Db} {b m : Nat} {d : Int}

theorem congr (h : db.Resa b m d) (heq : db'.reservations = db.reservations) : db'.Resa b m d := by
  unfold Db.Resa
  rw [heq]
  exact h

/-- A deletion that spares the member's rows for the book. -/
theorem delete (h : db.Resa b m d) {p : Reservations → Bool}
    (hp : ∀ r ∈ db.reservations.rows, r.livre = b → r.utilisateur = m → r.dateResa = d → p r = false)
    (heq : db'.reservations = db.reservations.delete p) : db'.Resa b m d := by
  obtain ⟨r, hr, hlivre, hm, hd⟩ := h
  refine ⟨r, ?_, hlivre, hm, hd⟩
  rw [heq]
  exact List.mem_filter.mpr ⟨hr, by simp [hp r hr hlivre hm hd]⟩

/-- The deletion of one row, by its key. -/
theorem deleteId (h : db.Resa b m d) {id : Nat}
    (hother : ∀ r ∈ db.reservations.rows, r.id = id → r.utilisateur = m → r.livre ≠ b)
    (heq : db'.reservations = db.reservations.delete fun r => decide (r.id = id)) :
    db'.Resa b m d :=
  h.delete (fun r hr hlivre hm _ => decide_eq_false fun hid => hother r hr hid hm hlivre) heq

theorem purge (h : db.Resa b m d) {now : Int} (hnow : now ≤ d + days 7) :
    (purgeExpired (cutoff now) db).2.Resa b m d := by
  refine h.delete ?_ rfl
  intro r _ _ _ hd
  rw [decide_eq_false_iff_not, Int.not_lt, hd]
  exact cutoff_le_iff.mpr hnow

theorem create (h : db.Resa b m d) {now now' : Int} {user : Nat} {demande : Option Nat}
    (hnow : now ≤ d + days 7)
    (heff : ReservationController.CreateEffect now now' user demande db db') : db'.Resa b m d := by
  cases heff with
  | rien => exact h
  | purge => exact h.purge hnow
  | insertion livre hmem hdemande hemprunt hcount hactive =>
      obtain ⟨r, hr, hrest⟩ := h.purge hnow
      exact ⟨r, List.mem_append_left _ hr, hrest⟩

theorem editDateResa (h : db.Resa b m d) {id : Nat} {date : Int}
    (hother : ∀ r ∈ db.reservations.rows, r.id = id → r.livre = b → date = d) :
    (db.editDateResa id date).Resa b m d := by
  obtain ⟨r, hr, hlivre, hm, hd⟩ := h
  by_cases hid : r.id = id
  · refine ⟨{ r with dateResa := date }, List.mem_map.mpr ⟨r, hr, if_pos hid⟩, hlivre, hm, ?_⟩
    exact hother r hr hid hlivre
  · exact ⟨r, List.mem_map.mpr ⟨r, hr, if_neg hid⟩, hlivre, hm, hd⟩

/-- A loan takes away no reservation but the borrower's for the book. -/
theorem persistEntity (h : db.Resa b m d) (now : Int) {f : EmpruntForm}
    (hother : ∀ w, EmpruntCrudController.persistEntity now f db = .accepte w →
      ¬ (f.livre = some b ∧ f.utilisateur = some m)) :
    ((EmpruntCrudController.persistEntity now f db).commit db).Resa b m d := by
  have hissue := persistEntity_issue now f db
  generalize EmpruntCrudController.persistEntity now f db = issue at hissue hother ⊢
  cases hissue with
  | accepte user livre huser hlivre hres hcount hcours =>
      obtain ⟨_, hfu, hu⟩ := Option.bind_eq_some_iff.mp huser
      obtain ⟨_, hfl, hl⟩ := Option.bind_eq_some_iff.mp hlivre
      obtain ⟨-, rfl⟩ := db.utilisateurs.find?_eq_some.mp hu
      obtain ⟨-, rfl⟩ := db.livres.find?_eq_some.mp hl
      refine h.delete ?_ rfl
      intro r hr hlivre hm _
      rw [decide_eq_false_iff_not]
      intro hremoved
      obtain ⟨r', hfind, hid⟩ := Option.map_eq_some_iff.mp hremoved.symm
      obtain ⟨hr', hl'⟩ := findReservation_eq_some hfind
      -- the row that is removed is this one, so the loan is the one that is excluded
      obtain rfl := db.reservations.eq_of_id hr' hr hid
      have hm' := (hres r' hfind).symm.trans hm
      exact hother _ rfl ⟨hfl.trans (congrArg some (hl'.symm.trans hlivre)),
        hfu.trans (congrArg some hm')⟩
  | _ => exact h

theorem apiEffect (h : db.Resa b m d) {now now' : Int} {w : Option Utilisateur} {req : ApiRequest}
    (hreq : (Evenement.requete (.api now now' (w.map (·.id)) req)).Laisse b m d db)
    (hw : ∀ u, w = some u → u ∈ db.utilisateurs.rows)
    (heff : ApiEffect env now now' w db req db') : db'.Resa b m d := by
  cases heff with
  | rien => exact h
  | profil u data huser hflush => exact h.congr rfl
  | categorie data nom hnom => exact h.congr rfl
  | purge u huser hadherent =>
      subst huser
      exact h.purge (hreq ⟨u, hw u rfl, rfl, hadherent⟩)
  | reservation u data db' huser hadherent heff =>
      subst huser
      exact h.create (hreq ⟨u, hw u rfl, rfl, hadherent⟩) heff
  | suppression u id db' huser hadherent heff =>
      subst huser
      cases heff with
      | rien => exact h
      | suppression r hr hid howner =>
          refine h.deleteId ?_ rfl
          intro r' hr' hid' hm
          have howner' : u.id = m := by rw [← howner, ← db.reservations.eq_of_id hr' hr hid', hm]
          exact hreq ⟨u, hw u rfl, rfl, hadherent⟩ (congrArg some howner') r' hr' (hid'.trans hid)

theorem adminEffect (h : db.Resa b m d) {now : Int} {user : Option Nat} {req : AdminRequest}
    (hreq : (Evenement.requete (.admin now user req)).Laisse b m d db) (hstaff : db.estPersonnel user)
    (heff : AdminEffect env now db req db') : db'.Resa b m d := by
  cases heff with
  | empruntNew f => exact h.persistEntity now (hreq hstaff)
  | utilisateurDelete id =>
      refine h.delete ?_ rfl
      intro r _ _ hm _
      exact decide_eq_false fun hid => hreq hstaff (hid.symm.trans hm)
  | reservationEdit id date => exact h.editDateResa (hreq hstaff)
  | reservationDelete id =>
      exact h.deleteId (fun r hr hid _ => hreq hstaff r hr hid) rfl
  | _ => exact h.congr rfl

/-- **One event leaves it standing.** -/
theorem evenement (h : db.Resa b m d) (env : Env) (e : Evenement) (he : e.Laisse b m d db) :
    (e.apply env db).Resa b m d := by
  have heff := e.ecriture env db
  generalize e.apply env db = db' at heff ⊢
  cases heff with
  | rien => exact h
  | login now email password u hu hvalid =>
      unfold upgradePassword
      split
      · exact h.congr rfl
      · exact h
  | api now now' w req hw => exact h.apiEffect he hw (handle_effect env now now' w req db)
  | admin now u req db' hu hrole heff => exact h.adminEffect he ⟨u, hu, rfl, hrole⟩ heff
  | expire now => exact h.purge he

end Db.Resa

/-- The book is reserved for the member, and nobody else gets it. -/
structure Honoree (env : Env) (b m : Nat) (d : Int) (db : Db) : Prop where
  ligne : db.Resa b m d
  /-- nobody can reserve it while the reservation is active … -/
  reservation : ∀ now now' u data, now ≤ d + days 7 →
    env.entityId (data.key "livreId") = some b →
    (handle env now now' (some u) (.reservationCreate data) db).1.status ≠ 201
  /-- … and to lend it to anybody else is an exception -/
  pret : ∀ now l u dateEmprunt dateRetour, l ∈ db.livres.rows → l.id = b →
    u ∈ db.utilisateurs.rows → u.id ≠ m →
    (EmpruntCrudController.persistEntity now (formulaire u l dateEmprunt dateRetour) db).motif? =
      some reserveParUnAutre

/-- Only `createForLivre` answers `201`. -/
theorem status_reservationCreate {env : Env} {now now' : Int} {u : Utilisateur} {data : Json}
    {db : Db} {b : Nat} (hid : env.entityId (data.key "livreId") = some b)
    (h : (handle env now now' (some u) (.reservationCreate data) db).1.status = 201) :
    ∃ l, l ∈ db.livres.rows ∧ l.id = b ∧
      (ReservationController.createForLivre now now' u l db).1.status = 201 := by
  rw [handle_eq_dispatch] at h
  simp only [dispatch, asAdherent, ReservationController.create, hid] at h
  split at h
  · split at h
    · cases h
    · split at h
      · cases h
      · next l hfind =>
        obtain ⟨hl, hlb⟩ := db.livres.find?_eq_some.mp hfind
        exact ⟨l, hl, hlb, h⟩
  · cases h

theorem Db.Resa.honoree {db : Db} {b m : Nat} {d : Int} (hresa : db.Resa b m d)
    (hlim : ReservationLimits db) (env : Env) : Honoree env b m d db where
  ligne := hresa
  reservation := by
    intro now now' u data hnow hid hstatus
    obtain ⟨l, hl, hlb, hcreate⟩ := status_reservationCreate hid hstatus
    obtain ⟨r, hr, hlivre, -, hdate⟩ := hresa
    obtain ⟨-, hfree, -⟩ := (createForLivre_spec now now' u l db).1.mp hcreate
    refine hfree r (List.mem_filter.mpr ⟨hr, ?_⟩) (hlivre.trans hlb.symm)
    exact decide_eq_true (hdate ▸ cutoff_le_iff.mpr hnow)
  pret := by
    intro now l u dateEmprunt dateRetour hl hlb hu hne
    obtain ⟨r, hr, hlivre, hm, -⟩ := hresa
    have hfind : findReservation (some l.id) db = some r :=
      (findReservation_eq_some_iff hlim.parLivre).mpr ⟨hr, hlivre.trans hlb.symm⟩
    rw [persistEntity_motif hu hl]
    exact if_pos ⟨r, hfind, fun heq => hne (heq.symm.trans hm)⟩

/-- **A reservation is honoured for seven days.** As long as neither the member nor staff ends it and
the clock does not pass the seventh day, it stays through any sequence of events by anybody, and the
book goes to nobody else. -/
theorem reservation_tient (env : Env) (db : Db) (h : ReservationLimits db) (r : Reservations)
    (hr : r ∈ db.reservations.rows) (es : List Evenement)
    (hes : Along (Evenement.apply env)
      (fun db e => e.Laisse r.livre r.utilisateur r.dateResa db) db es) :
    Honoree env r.livre r.utilisateur r.dateResa (run (Evenement.apply env) db es) := by
  -- the row itself, and the limit that makes it the only one of the book
  have hlast := Always.last (always_of_along
    (I := fun db => ReservationLimits db ∧ db.Resa r.livre r.utilisateur r.dateResa)
    (fun _ e hI he => ⟨hI.1.evenement env e, hI.2.evenement env e he⟩)
    ⟨h, r, hr, rfl, rfl, rfl⟩ hes)
  exact hlast.2.honoree hlast.1 env

/-- Another member asks for the book, tries to cancel the reservation and to delete it in the back
office, staff tries to lend him the book and edits the loan of the other one, the expire command runs
on the seventh day, and on the eighth an anonymous visitor asks for a list. -/
theorem reservation_tient_alice :
    ReservationLimits enActivite ∧ (⟨1, 0, 2, 1⟩ : Reservations) ∈ enActivite.reservations.rows ∧
    Honoree .plain 1 2 0 (run (Evenement.apply .plain) enActivite
      [.requete (.api 5 5 (some 3) (.reservationCreate (.obj [("livreId", .int 1)]))),
        .requete (.api 6 6 (some 3) (.reservationDelete 1)),
        .requete (.admin 7 (some 3) (.reservationDelete 1)),
        .requete (.admin 10 (some 5) (.empruntNew ⟨some 3, some 1, none, none⟩)),
        .requete (.admin 20 (some 5) (.empruntEdit 1 ⟨some 2, some 3, some 5, none⟩)),
        .expire (days 7),
        .requete (.api (days 8) (days 8) none .reservationIndex)]) := by
  have hlim : ReservationLimits enActivite := enOrdre_enActivite.inv.limites
  have hmem : (⟨1, 0, 2, 1⟩ : Reservations) ∈ enActivite.reservations.rows := by
    decide +kernel
  refine ⟨hlim, hmem, reservation_tient .plain enActivite hlim ⟨1, 0, 2, 1⟩ hmem _ ?_⟩
  refine ⟨?_, ?_, ?_, ?_, trivial, ?_, ?_, trivial⟩
  · intro _
    show (5 : Int) ≤ 0 + days 7
    decide
  · intro _ hm
    cases hm
  · -- Anthony is not staff
    rintro ⟨a, ha, hid, hrole⟩
    revert a
    decide +kernel
  · rintro - w - ⟨-, hm⟩
    cases hm
  · show days 7 ≤ 0 + days 7
    decide
  · -- nobody is logged in
    rintro ⟨a, -, hid, -⟩
    cases hid

end Bibliotheque
