import Bibliotheque.Lib.Keys
import Bibliotheque.Systeme
import Bibliotheque.Dashboard
import Bibliotheque.Invariant.Emprunts
import Bibliotheque.Recherche.Selection

/-! # No dangling reference

The tables refer to each other: a loan and a reservation to a member and a book, a book to its open
loan, the join tables to a book and an author or a category. Only some of the writes look before they
leap: the controllers load what the form names, `LivreCrudController` lets the engine refuse to delete
a book in use, and the rest is left to `orphanRemoval`, `ON DELETE SET NULL` and `ON DELETE CASCADE`.
Together they are enough: no event of the installation leaves a reference that leads nowhere
(`References.apply`).

What the API serves therefore is complete: a loan or a reservation carries its book, and an author
lists a book exactly when the book lists the author (`vues_run`). -/

namespace Bibliotheque

open Lib Table ReservationsRepository EmpruntCrudController

/-- A join table between the books and another table: both keys lead to a row and no pair is there
twice. -/
structure Liaison {α : Type} [Row α] (pairs : List (Nat × Nat)) (livres : Table Livre) (t : Table α) :
    Prop where
  livre : Refers pairs Prod.fst livres
  autre : Refers pairs Prod.snd t
  nodup : pairs.Nodup

/-- Every reference leads to a row. -/
structure References (db : Db) : Prop where
  empruntMembre : Refers db.emprunts.rows Emprunt.utilisateur db.utilisateurs
  empruntLivre : Refers db.emprunts.rows Emprunt.livre db.livres
  reservationMembre : Refers db.reservations.rows Reservations.utilisateur db.utilisateurs
  reservationLivre : Refers db.reservations.rows Reservations.livre db.livres
  pointeur : ∀ b ∈ db.livres.rows, ∀ i, b.emprunt = some i → i ∈ db.emprunts.keys
  livreAuteur : Liaison db.livreAuteur db.livres db.auteurs
  livreCategorie : Liaison db.livreCategorie db.livres db.categories

/-! ## Join tables -/

namespace Liaison

variable {α : Type} [Row α] {pairs : List (Nat × Nat)} {livres livres' : Table Livre}
  {t t' : Table α}

/-- More rows to refer to. -/
theorem mono (h : Liaison pairs livres t) (hlivres : ∀ n ∈ livres.keys, n ∈ livres'.keys)
    (ht : ∀ n ∈ t.keys, n ∈ t'.keys) : Liaison pairs livres' t' :=
  ⟨h.livre.mono hlivres, h.autre.mono ht, h.nodup⟩

/-- The pairs of a deleted book are deleted with it. -/
theorem deleteLivre (h : Liaison pairs livres t) (n : Nat) :
    Liaison (pairs.filter fun p => !decide (p.1 = n)) (livres.delete fun l => decide (l.id = n))
      t where
  livre := by
    refine (h.livre.of_subset fun p hp => (List.mem_filter.mp hp).1).delete ?_
    intro p hp l _ hid
    have hne := (List.mem_filter.mp hp).2
    simp only [Bool.not_eq_true', decide_eq_false_iff_not] at hne ⊢
    rwa [hid] at hne
  autre := h.autre.of_subset fun p hp => (List.mem_filter.mp hp).1
  nodup := h.nodup.filter _

/-- So are those of a deleted author or category. -/
theorem deleteAutre (h : Liaison pairs livres t) (n : Nat) :
    Liaison (pairs.filter fun p => !decide (p.2 = n)) livres
      (t.delete fun r => decide (Row.id r = n)) where
  livre := h.livre.of_subset fun p hp => (List.mem_filter.mp hp).1
  autre := by
    refine (h.autre.of_subset fun p hp => (List.mem_filter.mp hp).1).delete ?_
    intro p hp r _ hid
    have hne := (List.mem_filter.mp hp).2
    simp only [Bool.not_eq_true', decide_eq_false_iff_not] at hne ⊢
    rwa [hid] at hne
  nodup := h.nodup.filter _

theorem mem_associer {livre : Nat} {choix : List Nat} {p : Nat × Nat} :
    p ∈ LivreCrudController.associer livre choix pairs ↔
      if p.1 = livre then p.2 ∈ choix else p ∈ pairs := by
  unfold LivreCrudController.associer
  rw [List.mem_append, List.mem_filter, List.mem_filter, List.mem_map]
  obtain ⟨l, x⟩ := p
  by_cases hl : l = livre
  · subst hl
    by_cases hp : (l, x) ∈ pairs
    · simp [hp]
    · simp [hp]
  · have hother : livre ≠ l := fun heq => hl heq.symm
    simp [hl, hother]

/-- The form gives the book the authors, or the categories, of its list. -/
theorem associer (h : Liaison pairs livres t) {livre : Nat} {choix : List Nat}
    (hlivre : livre ∈ livres.keys) (hchoix : ∀ x ∈ choix, x ∈ t.keys) :
    Liaison (LivreCrudController.associer livre choix pairs) livres t where
  livre := by
    intro p hp
    rw [mem_associer] at hp
    split at hp
    · next hl => exact hl ▸ hlivre
    · exact h.livre p hp
  autre := by
    intro p hp
    rw [mem_associer] at hp
    split at hp
    · exact hchoix p.2 hp
    · exact h.autre p hp
  nodup := by
    unfold LivreCrudController.associer
    rw [List.nodup_append]
    refine ⟨h.nodup.filter _, (List.Nodup.map ?_ (nodup_eraseDups choix)).filter _, ?_⟩
    · intro x y hxy
      exact congrArg Prod.snd hxy
    · -- what is added was not there before
      rintro p hp q hq rfl
      have hnew := (List.mem_filter.mp hq).2
      simp only [Bool.not_eq_true', decide_eq_false_iff_not] at hnew
      exact hnew (List.mem_filter.mp hp).1

end Liaison

/-! ## One kind of write at a time -/

/-- After an edit a book points to the edited loan or where it did. -/
theorem EmpruntCrudController.pointeurApresEdition_eq_some {e i : Nat} {dateRetour : Option Int}
    {emprunt : Option Nat} (h : pointeurApresEdition e dateRetour emprunt = some i) :
    i = e ∨ emprunt = some i := by
  unfold pointeurApresEdition at h
  split at h
  · exact Or.inl (Option.some.inj h).symm
  · split at h
    · cases h
    · exact Or.inr h

namespace References

variable {db : Db}

/-- Accounts: none that had a key loses it. -/
theorem utilisateurs (h : References db) {t : Table Utilisateur}
    (ht : ∀ n ∈ db.utilisateurs.keys, n ∈ t.keys) : References { db with utilisateurs := t } :=
  { h with
    empruntMembre := h.empruntMembre.mono ht
    reservationMembre := h.reservationMembre.mono ht }

theorem updateUtilisateur (h : References db) (id : Nat) (f : Utilisateur → Utilisateur)
    (hf : ∀ u, Row.id (f u) = Row.id u) :
    References { db with utilisateurs := db.utilisateurs.updateAt id f hf } :=
  h.utilisateurs fun _ hn => (keys_updateAt db.utilisateurs id f hf).symm ▸ hn

theorem auteurs (h : References db) {t : Table Auteur} (ht : ∀ n ∈ db.auteurs.keys, n ∈ t.keys) :
    References { db with auteurs := t } :=
  { h with livreAuteur := h.livreAuteur.mono (fun _ hn => hn) ht }

theorem categories (h : References db) {t : Table Categorie}
    (ht : ∀ n ∈ db.categories.keys, n ∈ t.keys) : References { db with categories := t } :=
  { h with livreCategorie := h.livreCategorie.mono (fun _ hn => hn) ht }

theorem reservations (h : References db) {t : Table Reservations}
    (hmembre : Refers t.rows Reservations.utilisateur db.utilisateurs)
    (hlivre : Refers t.rows Reservations.livre db.livres) :
    References { db with reservations := t } :=
  { h with reservationMembre := hmembre, reservationLivre := hlivre }

theorem deleteReservations (h : References db) (p : Reservations → Bool) :
    References { db with reservations := db.reservations.delete p } :=
  h.reservations (h.reservationMembre.of_subset fun _ hr => (List.mem_filter.mp hr).1)
    (h.reservationLivre.of_subset fun _ hr => (List.mem_filter.mp hr).1)

theorem inserer (h : References db) {now' : Int} {user livre : Nat}
    (hmembre : user ∈ db.utilisateurs.keys) (hlivre : livre ∈ db.livres.keys) :
    References (ReservationController.inserer now' user livre db) :=
  h.reservations (h.reservationMembre.append (Refers.singleton hmembre))
    (h.reservationLivre.append (Refers.singleton hlivre))

theorem editDateResa (h : References db) (id : Nat) (date : Int) :
    References (db.editDateResa id date) := by
  refine h.reservations (Refers.map ?_) (Refers.map ?_)
  · intro r hr
    have := h.reservationMembre r hr
    split <;> exact this
  · intro r hr
    have := h.reservationLivre r hr
    split <;> exact this

/-- Loans and the pointers to them. -/
theorem emprunts (h : References db) {t : Table Emprunt} {f : Livre → Livre}
    (hf : ∀ l, Row.id (f l) = Row.id l)
    (hmembre : Refers t.rows Emprunt.utilisateur db.utilisateurs)
    (hlivre : Refers t.rows Emprunt.livre db.livres)
    (hpointeur : ∀ b ∈ db.livres.rows, ∀ i, (f b).emprunt = some i → i ∈ t.keys) :
    References { db with emprunts := t, livres := db.livres.modify f hf } where
  empruntMembre := hmembre
  empruntLivre := hlivre.modify f hf
  reservationMembre := h.reservationMembre
  reservationLivre := h.reservationLivre.modify f hf
  pointeur := by
    intro b' hb' i hi
    obtain ⟨b, hb, rfl⟩ := List.mem_map.mp hb'
    exact hpointeur b hb i hi
  livreAuteur := h.livreAuteur.mono (fun _ hn => (keys_modify _ f hf).symm ▸ hn) fun _ hn => hn
  livreCategorie := h.livreCategorie.mono (fun _ hn => (keys_modify _ f hf).symm ▸ hn) fun _ hn => hn

theorem removeEmprunts (h : References db) (p : Emprunt → Bool) :
    References (db.removeEmprunts p) := by
  refine h.emprunts _ (h.empruntMembre.of_subset fun _ he => (List.mem_filter.mp he).1)
    (h.empruntLivre.of_subset fun _ he => (List.mem_filter.mp he).1) ?_
  intro b hb i hi
  split at hi
  · cases hi
  · next hkept =>
    -- the pointer is left, so its loan is not among the deleted ones
    obtain ⟨e, he, hid⟩ := mem_keys.mp (h.pointeur b hb i hi)
    refine mem_keys_delete.mpr ⟨e, he, ?_, hid⟩
    cases hp : p e with
    | false => rfl
    | true =>
        refine absurd (List.any_eq_true.mpr ⟨e, he, ?_⟩) hkept
        rw [Bool.and_eq_true]
        exact ⟨hp, decide_eq_true (hi.trans (congrArg some hid.symm))⟩

theorem deleteUtilisateur (h : References db) (id : Nat) : References (db.deleteUtilisateur id) := by
  have h' := (h.removeEmprunts fun e => decide (e.utilisateur = id)).deleteReservations
    fun r => decide (r.utilisateur = id)
  refine { h' with empruntMembre := ?_, reservationMembre := ?_ }
  · refine h'.empruntMembre.delete ?_
    intro e he u _ hid
    have hne := (List.mem_filter.mp he).2
    simp only [Bool.not_eq_true', decide_eq_false_iff_not] at hne ⊢
    rwa [hid] at hne
  · refine h'.reservationMembre.delete ?_
    intro r hr u _ hid
    have hne := (List.mem_filter.mp hr).2
    simp only [Bool.not_eq_true', decide_eq_false_iff_not] at hne ⊢
    rwa [hid] at hne

theorem flush (h : References db) {now : Int} {form : EmpruntForm} {removed : Option Nat}
    {user livre : Nat} (hmembre : user ∈ db.utilisateurs.keys) (hlivre : livre ∈ db.livres.keys) :
    References ((accepted now form removed user livre).flush db) := by
  refine (h.deleteReservations fun r => decide (some r.id = removed)).emprunts _
    (h.empruntMembre.append (Refers.singleton hmembre))
    (h.empruntLivre.append (Refers.singleton hlivre)) ?_
  intro b hb i hi
  split at hi
  · rw [← Option.some.inj hi]
    exact mem_keys_insert.mpr (Or.inr rfl)
  · exact mem_keys_insert.mpr (Or.inl (h.pointeur b hb i hi))

theorem edition (h : References db) {e : Emprunt} {user livre : Nat} {dateEmprunt : Int}
    {dateRetour : Option Int} (he : e ∈ db.emprunts.rows) (hmembre : user ∈ db.utilisateurs.keys)
    (hlivre : livre ∈ db.livres.keys) :
    References (EmpruntCrudController.edition e.id user livre dateEmprunt dateRetour db) := by
  refine h.emprunts _ (Refers.map ?_) (Refers.map ?_) ?_
  · intro e' he'
    split
    · exact hmembre
    · exact h.empruntMembre e' he'
  · intro e' he'
    split
    · exact hlivre
    · exact h.empruntLivre e' he'
  · intro b hb i hi
    have hkeys := keys_updateAt db.emprunts e.id
      (fun x => edited x user livre dateEmprunt dateRetour) (fun _ => rfl)
    refine hkeys.symm ▸ ?_
    split at hi
    · rcases pointeurApresEdition_eq_some hi with rfl | hold
      · exact id_mem_keys he
      · exact h.pointeur b hb i hold
    · exact h.pointeur b hb i hi

theorem livreNew (h : References db) {f : LivreForm} {l : Livre}
    (hl : LivreCrudController.entite 0 f db = some l) :
    References { db with
      livres := db.livres.insert l
      livreAuteur := LivreCrudController.associer db.livres.next f.auteurs db.livreAuteur
      livreCategorie :=
        LivreCrudController.associer db.livres.next f.categories db.livreCategorie } := by
  obtain ⟨-, hnull, hauteurs, hcategories⟩ := LivreCrudController.entite_eq_some hl
  have hkeys : ∀ n ∈ db.livres.keys, n ∈ (db.livres.insert l).keys :=
    fun n hn => mem_keys_insert.mpr (Or.inl hn)
  have hnew : db.livres.next ∈ (db.livres.insert l).keys := mem_keys_insert.mpr (Or.inr rfl)
  refine { h with
    empruntLivre := h.empruntLivre.insert l
    reservationLivre := h.reservationLivre.insert l
    pointeur := ?_
    livreAuteur := (h.livreAuteur.mono hkeys fun _ hn => hn).associer hnew
      fun x hx => isSome_find?.mp (hauteurs x hx)
    livreCategorie := (h.livreCategorie.mono hkeys fun _ hn => hn).associer hnew
      fun x hx => isSome_find?.mp (hcategories x hx) }
  intro b hb i hi
  rcases List.mem_append.mp hb with hold | hb'
  · exact h.pointeur b hold i hi
  · rw [List.mem_singleton.mp hb'] at hi
    rw [show (Row.setId db.livres.next l).emprunt = l.emprunt from rfl, hnull] at hi
    cases hi

theorem livreEdit (h : References db) {f : LivreForm} {l l' : Livre} (hmem : l ∈ db.livres.rows)
    (hl : LivreCrudController.entite l.id f db = some l') :
    References { db with
      livres := db.livres.updateAt l.id
        (fun x => { l' with id := x.id, emprunt := x.emprunt }) (fun _ => rfl)
      livreAuteur := LivreCrudController.associer l.id f.auteurs db.livreAuteur
      livreCategorie := LivreCrudController.associer l.id f.categories db.livreCategorie } := by
  obtain ⟨-, -, hauteurs, hcategories⟩ := LivreCrudController.entite_eq_some hl
  -- the pointers stay, so the books may be rewritten first and the join tables after
  have h' : References { db with
      livres := db.livres.updateAt l.id
        (fun x => { l' with id := x.id, emprunt := x.emprunt }) (fun _ => rfl) } := by
    refine h.emprunts _ h.empruntMembre h.empruntLivre ?_
    intro b hb i hi
    refine h.pointeur b hb i ?_
    split at hi <;> exact hi
  have hkey : l.id ∈ (db.livres.updateAt l.id
      (fun x => { l' with id := x.id, emprunt := x.emprunt }) (fun _ => rfl)).keys := by
    rw [keys_updateAt]
    exact id_mem_keys hmem
  exact { h' with
    livreAuteur := h'.livreAuteur.associer hkey fun x hx => isSome_find?.mp (hauteurs x hx)
    livreCategorie := h'.livreCategorie.associer hkey fun x hx => isSome_find?.mp (hcategories x hx) }

/-- A book goes with its pairs, once no loan and no reservation is for it. -/
theorem livreDelete (h : References db) {l : Livre} (hemprunts : ∀ e ∈ db.emprunts.rows, e.livre ≠ l.id)
    (hreservations : ∀ r ∈ db.reservations.rows, r.livre ≠ l.id) :
    References { db with
      livres := db.livres.delete fun x => decide (x.id = l.id)
      livreAuteur := db.livreAuteur.filter fun p => !decide (p.1 = l.id)
      livreCategorie := db.livreCategorie.filter fun p => !decide (p.1 = l.id) } where
  empruntMembre := h.empruntMembre
  empruntLivre := by
    refine h.empruntLivre.delete fun e he x _ hid => ?_
    exact decide_eq_false fun heq => hemprunts e he (hid.trans heq)
  reservationMembre := h.reservationMembre
  reservationLivre := by
    refine h.reservationLivre.delete fun r hr x _ hid => ?_
    exact decide_eq_false fun heq => hreservations r hr (hid.trans heq)
  pointeur := fun b hb => h.pointeur b (List.mem_filter.mp hb).1
  livreAuteur := h.livreAuteur.deleteLivre l.id
  livreCategorie := h.livreCategorie.deleteLivre l.id

/-! ## Every event -/

theorem apiEffect (h : References db) {env : Env} {now now' : Int} {w : Option Utilisateur}
    {req : ApiRequest} {db' : Db} (hw : ∀ u, w = some u → u ∈ db.utilisateurs.rows)
    (heff : ApiEffect env now now' w db req db') : References db' := by
  cases heff with
  | rien => exact h
  | profil u data huser hflush => exact h.updateUtilisateur _ _ _
  | categorie data nom hnom => exact h.categories fun n hn => mem_keys_insert.mpr (Or.inl hn)
  | purge u huser hadherent => exact h.deleteReservations _
  | reservation u data db' huser hadherent heff =>
      cases heff with
      | rien => exact h
      | purge => exact h.deleteReservations _
      | insertion livre hmem hdemande hemprunt hcount hactive =>
          exact (h.deleteReservations _).inserer (id_mem_keys (hw u huser)) (id_mem_keys hmem)
  | suppression u id db' huser hadherent heff =>
      cases heff with
      | rien => exact h
      | suppression r hr hid howner => exact h.deleteReservations _

theorem adminEffect (h : References db) {env : Env} {now : Int} {req : AdminRequest} {db' : Db}
    (heff : AdminEffect env now db req db') : References db' := by
  cases heff with
  | rien => exact h
  | livreNew f l hl => exact h.livreNew hl
  | livreEdit f l l' hmem hl => exact h.livreEdit hmem hl
  | livreDelete l hmem hemprunts hreservations => exact h.livreDelete hemprunts hreservations
  | auteurNew f a => exact h.auteurs fun n hn => mem_keys_insert.mpr (Or.inl hn)
  | auteurEdit id f a a' => exact h.auteurs fun n hn => (keys_updateAt db.auteurs _ _ _).symm ▸ hn
  | auteurDelete a ha => exact { h with livreAuteur := h.livreAuteur.deleteAutre a.id }
  | categorieNew f c => exact h.categories fun n hn => mem_keys_insert.mpr (Or.inl hn)
  | categorieEdit id f c c' =>
      exact h.categories fun n hn => (keys_updateAt db.categories _ _ _).symm ▸ hn
  | categorieDelete c hc => exact { h with livreCategorie := h.livreCategorie.deleteAutre c.id }
  | utilisateurNew f u hu hlibre => exact h.utilisateurs fun n hn => mem_keys_insert.mpr (Or.inl hn)
  | utilisateurEdit f u u' hmem hu hlibre => exact h.updateUtilisateur _ _ _
  | utilisateurDelete id => exact h.deleteUtilisateur id
  | empruntNew f =>
      have heff := persistEntity_effect now f db
      generalize (EmpruntCrudController.persistEntity now f db).commit db = db' at heff ⊢
      cases heff with
      | rien => exact h
      | pret user livre removed huser hlivre => exact h.flush (id_mem_keys huser) (id_mem_keys hlivre)
  | empruntEdit f e u l dateEmprunt he hu hl =>
      exact h.edition he (id_mem_keys hu) (id_mem_keys hl)
  | empruntDelete id => exact h.removeEmprunts _
  | reservationEdit id date => exact h.editDateResa id date
  | reservationDelete id => exact h.deleteReservations _

theorem upgradePassword (h : References db) (env : Env) (u : Utilisateur) (password : String) :
    References (upgradePassword env u password db) := by
  unfold Bibliotheque.upgradePassword
  split
  · exact h.updateUtilisateur _ _ _
  · exact h

/-- **No event leaves a dangling reference.** -/
theorem apply (h : References db) (env : Env) (e : Evenement) : References (e.apply env db) := by
  have heff := e.ecriture env db
  generalize e.apply env db = db' at heff ⊢
  cases heff with
  | rien => exact h
  | login now email password u hu hvalid => exact h.upgradePassword env u password
  | api now now' w req hw => exact h.apiEffect hw (handle_effect env now now' w req db)
  | admin now u req db' hu hrole heff => exact h.adminEffect heff
  | expire now => exact h.deleteReservations _

end References

/-! ## Whole runs -/

theorem references_fixtures (env : Env) : References (AppFixtures.load env) where
  empruntMembre := fun _ he => by cases he
  empruntLivre := fun _ he => by cases he
  reservationMembre := fun _ hr => by cases hr
  reservationLivre := fun _ hr => by cases hr
  pointeur := by
    intro b hb i hi
    rw [(noLoanYet_fixtures env).pointeurs b hb] at hi
    cases hi
  livreAuteur := by
    have hpairs : Liaison (AppFixtures.load .plain).livreAuteur (AppFixtures.load .plain).livres
        (AppFixtures.load .plain).auteurs :=
      ⟨by unfold Refers; decide +kernel, by unfold Refers; decide +kernel, by decide +kernel⟩
    exact hpairs
  livreCategorie := by
    have hpairs : Liaison (AppFixtures.load .plain).livreCategorie (AppFixtures.load .plain).livres
        (AppFixtures.load .plain).categories :=
      ⟨by unfold Refers; decide +kernel, by unfold Refers; decide +kernel, by decide +kernel⟩
    exact hpairs

theorem References.run {db : Db} (h : References db) (env : Env) (es : List Evenement) :
    References (run (Evenement.apply env) db es) :=
  Always.last (always_of_along (P := fun _ _ => True) (fun _ e h _ => h.apply env e) h
    (along_of_forall fun _ _ => trivial))

/-- **Referential integrity.** From a database without dangling references, whatever sequence of
logins, API requests, back-office requests and expire commands is handled, in whatever order and by
whomever, every state on the way has none. -/
theorem references_run (env : Env) (db : Db) (h : References db) (es : List Evenement) :
    Always (Evenement.apply env) References db es :=
  always_of_along (P := fun _ _ => True) (fun _ e h _ => h.apply env e) h
    (along_of_forall fun _ _ => trivial)

/-- A member's account is deleted while he has a book and a reservation, then the book, then the book
is lent to somebody else. -/
theorem references_run_fixtures :
    References (AppFixtures.load .plain) ∧
    Always (Evenement.apply .plain) References (AppFixtures.load .plain)
      [.requete (.api 0 0 (some 2) (.reservationCreate (.obj [("livreId", .int 1)]))),
        .requete (.admin 10 (some 5) (.empruntNew ⟨some 2, some 3, none, none⟩)),
        .requete (.admin 20 (some 5) (.utilisateurDelete 2)),
        .requete (.admin 30 (some 5) (.livreDelete 3)),
        .requete (.admin 40 (some 5) (.empruntNew ⟨some 3, some 3, none, none⟩))] :=
  ⟨references_fixtures .plain,
    references_run .plain (AppFixtures.load .plain) (references_fixtures .plain) _⟩

/-! ## What the API serves -/

/-- Every loan and every reservation in the body carries its book. The templates read
`resa.livre.titre` and `emprunt.livre.titre` without asking. -/
def Body.complet : Body → Bool
  | .emprunts vs => vs.all (·.livre.isSome)
  | .emprunt v => v.livre.isSome
  | .reservations vs => vs.all (·.livre.isSome)
  | .reservation v => v.livre.isSome
  | _ => true

/-- The catalogue read from both ends: a book lists an author or a category, once, exactly when the
author or the category lists the book, once. -/
structure VuesAccordees (db : Db) : Prop where
  auteursUneFois : ∀ l ∈ db.livres.rows, ((db.livreVue l).auteurs.map (·.id)).Nodup
  categoriesUneFois : ∀ l ∈ db.livres.rows, ((db.livreVue l).categories.map (·.id)).Nodup
  auteurs : ∀ l ∈ db.livres.rows, ∀ a ∈ db.auteurs.rows,
    ((db.livreVue l).auteurs.map (·.id)).count a.id = ((db.auteurVue a).livre.map (·.id)).count l.id
  categories : ∀ l ∈ db.livres.rows, ∀ c ∈ db.categories.rows,
    ((db.livreVue l).categories.map (·.id)).count c.id =
      ((db.categorieVue c).livres.map (·.id)).count l.id

namespace References

variable {db : Db}

theorem livreEmprunte (h : References db) {e : Emprunt} (he : e ∈ db.emprunts.rows) :
    (db.empruntVue e).livre.isSome = true := by
  obtain ⟨l, hl⟩ := h.empruntLivre.exists_find? he
  simp only [Db.empruntVue, Db.livreEmprunte, hl, Option.map_some, Option.isSome_some]

theorem livreReserve (h : References db) {r : Reservations} (hr : r ∈ db.reservations.rows) :
    (db.reservationVue r).livre.isSome = true := by
  obtain ⟨l, hl⟩ := h.reservationLivre.exists_find? hr
  simp only [Db.reservationVue, Db.livreResume, hl, Option.map_some, Option.isSome_some]

theorem complet_reservationIndex (h : References db) (now : Int) (u : Utilisateur) :
    (ReservationController.index now u db).1.body.complet = true := by
  simp only [ReservationController.index, Body.complet, List.all_map, List.all_eq_true]
  intro r hr
  have hr' : r ∈ (purgeExpired (cutoff now) db).2.reservations.rows := by
    have hmem := (List.mem_insertionSort _).mp hr
    exact (List.mem_filter.mp hmem).1
  exact (h.deleteReservations _).livreReserve hr'

theorem complet_reservationShow (h : References db) (u : Utilisateur) (id : Nat) :
    (ReservationController.showAction u id db).body.complet = true := by
  unfold ReservationController.showAction
  split
  · rfl
  · next r hr =>
    split
    · rfl
    · exact h.livreReserve (db.reservations.find?_eq_some.mp hr).1

theorem complet_reservationCreate (env : Env) (now now' : Int) (u : Utilisateur) (data : Json) :
    (ReservationController.create env now now' u data db).1.body.complet = true := by
  simp only [ReservationController.create]
  split
  · rfl
  · split
    · rfl
    · split
      · rfl
      · simp only [ReservationController.createForLivre]
        split
        · rfl
        · split
          · rfl
          · split <;> rfl

/-- Behind `IsGranted` stands the action for a member, or a refusal. -/
theorem complet_asAdherent {user : Option Utilisateur} {action : Utilisateur → Response × Db}
    (h : ∀ u, (action u).1.body.complet = true) :
    (asAdherent user db action).1.body.complet = true := by
  unfold asAdherent
  split
  · rfl
  · split
    · exact h _
    · rfl

theorem complet_onReservation {id : Nat} {action : Response × Db}
    (h : action.1.body.complet = true) : (onReservation id db action).1.body.complet = true := by
  unfold onReservation
  split
  · rfl
  · exact h

/-- Every answer of the API is complete. -/
theorem complet_handle (h : References db) (env : Env) (now now' : Int) (w : Option Utilisateur)
    (req : ApiRequest) : (handle env now now' w req db).1.body.complet = true := by
  rw [handle_eq_dispatch]
  cases req with
  | empruntIndex =>
      simp only [dispatch, EmpruntController.index, Body.complet, List.all_map, List.all_eq_true]
      exact fun e he => h.livreEmprunte he
  | empruntShow id =>
      simp only [dispatch, EmpruntController.showAction]
      split
      · rfl
      · next e he => exact h.livreEmprunte (db.emprunts.find?_eq_some.mp he).1
  | empruntCreate data =>
      refine complet_asAdherent fun u => ?_
      unfold EmpruntController.create
      split <;> rfl
  | reservationIndex => exact complet_asAdherent fun u => h.complet_reservationIndex now u
  | reservationShow id =>
      exact complet_onReservation (complet_asAdherent fun u => h.complet_reservationShow u id)
  | reservationCreate data =>
      exact complet_asAdherent fun u => complet_reservationCreate env now now' u data
  | reservationDelete id =>
      refine complet_onReservation (complet_asAdherent fun u => ?_)
      unfold ReservationController.delete
      split
      · rfl
      · split <;> rfl
  | userUpdate data =>
      simp only [dispatch, AuthController.update]
      split
      · rfl
      · split
        · rfl
        · split <;> rfl
  | categorieCreate data =>
      simp only [dispatch, CategorieController.create]
      split
      · rfl
      · split <;> rfl
  | auteurIndex => rfl
  | auteurShow id =>
      simp only [dispatch, AuteurController.showAction]
      split <;> rfl
  | userMe =>
      simp only [dispatch, AuthController.me]
      split <;> rfl
  | categorieIndex => rfl
  | categorieShow id =>
      simp only [dispatch, CategorieController.showAction]
      split <;> rfl
  | livreSearch q =>
      simp only [dispatch, LivreController.search]
      split
      · rfl
      · split <;> rfl
  | livreIndex => rfl
  | livreShow id =>
      simp only [dispatch, LivreController.showAction]
      split <;> rfl

end References

/-! The two collections are two readings of one join table. -/

section Liaisons

variable {α : Type} [Row α] {pairs : List (Nat × Nat)} {livres : Table Livre} {t : Table α}

/-- A book lists a row once for each pair that joins them … -/
theorem Liaison.count_autre (h : Liaison pairs livres t) (l n : Nat) :
    (((pairs.filter fun p => decide (p.1 = l)).filterMap fun p => t.find? p.2).map Row.id).count n =
      pairs.count (l, n) := by
  have hsub : Refers (pairs.filter fun p => decide (p.1 = l)) Prod.snd t :=
    h.autre.of_subset fun p hp => (List.mem_filter.mp hp).1
  rw [hsub.map_id_filterMap_find?, List.count, List.countP_map, List.countP_filter, List.count]
  refine List.countP_congr fun p _ => ?_
  simp [Prod.ext_iff, and_comm]

/-- … and so does the row the book. -/
theorem Liaison.count_livre (h : Liaison pairs livres t) (l n : Nat) :
    (((pairs.filter fun p => decide (p.2 = n)).filterMap fun p => livres.find? p.1).map Row.id).count
      l = pairs.count (l, n) := by
  have hsub : Refers (pairs.filter fun p => decide (p.2 = n)) Prod.fst livres :=
    h.livre.of_subset fun p hp => (List.mem_filter.mp hp).1
  rw [hsub.map_id_filterMap_find?, List.count, List.countP_map, List.countP_filter, List.count]
  refine List.countP_congr fun p _ => ?_
  simp [Prod.ext_iff]

end Liaisons

theorem count_auteurs_livreVue {db : Db} (h : References db) (l : Livre) (n : Nat) :
    ((db.livreVue l).auteurs.map (·.id)).count n = db.livreAuteur.count (l.id, n) := by
  have hlivre := h.livreAuteur.count_autre l.id n
  simp only [List.map_filterMap] at hlivre
  simp only [Db.livreVue, Db.livreVueAvec, Db.auteursDe, List.map_filterMap, Option.map_map]
  exact hlivre

theorem count_categories_livreVue {db : Db} (h : References db) (l : Livre) (n : Nat) :
    ((db.livreVue l).categories.map (·.id)).count n = db.livreCategorie.count (l.id, n) := by
  have hlivre := h.livreCategorie.count_autre l.id n
  simp only [List.map_filterMap] at hlivre
  simp only [Db.livreVue, Db.livreVueAvec, Db.categoriesDe, List.map_filterMap, Option.map_map]
  exact hlivre

theorem References.vuesAccordees {db : Db} (h : References db) : VuesAccordees db where
  auteursUneFois := by
    intro l _
    rw [List.nodup_iff_count_le_one]
    intro n
    rw [count_auteurs_livreVue h]
    exact List.nodup_iff_count_le_one.mp h.livreAuteur.nodup _
  categoriesUneFois := by
    intro l _
    rw [List.nodup_iff_count_le_one]
    intro n
    rw [count_categories_livreVue h]
    exact List.nodup_iff_count_le_one.mp h.livreCategorie.nodup _
  auteurs := by
    intro l _ a _
    rw [count_auteurs_livreVue h]
    have hauteur := h.livreAuteur.count_livre l.id a.id
    simp only [List.map_filterMap] at hauteur
    simp only [Db.auteurVue, List.map_filterMap, Option.map_map]
    exact hauteur.symm
  categories := by
    intro l _ c _
    rw [count_categories_livreVue h]
    have hcategorie := h.livreCategorie.count_livre l.id c.id
    simp only [List.map_filterMap] at hcategorie
    simp only [Db.categorieVue, List.map_filterMap, Option.map_map]
    exact hcategorie.symm

/-- **What is served is whole.** After any run of the installation, every answer of the API carries
the book of every loan and reservation in it, and the catalogue reads the same from both ends. -/
theorem vues_run (env : Env) (db : Db) (h : References db) (es : List Evenement) :
    (∀ now now' w req,
      (handle env now now' w req (run (Evenement.apply env) db es)).1.body.complet = true) ∧
    VuesAccordees (run (Evenement.apply env) db es) :=
  ⟨(h.run env es).complet_handle env, (h.run env es).vuesAccordees⟩

/-- A responsable adds a book by the first two authors and deletes the first of them. -/
theorem vues_run_fixtures :
    let es : List Evenement :=
      [.requete (.admin 0 (some 6)
          (.livreNew ⟨some "A deux", some 0, some "Francais", none, [1, 2, 2], [1]⟩)),
        .requete (.admin 10 (some 6) (.auteurDelete 1)),
        .requete (.api 20 20 (some 2) (.reservationCreate (.obj [("livreId", .int 14)])))]
    References (AppFixtures.load .plain) ∧
    (∀ now now' w req, (handle .plain now now' w req
      (run (Evenement.apply .plain) (AppFixtures.load .plain) es)).1.body.complet = true) ∧
    VuesAccordees (run (Evenement.apply .plain) (AppFixtures.load .plain) es) :=
  ⟨references_fixtures .plain, vues_run .plain (AppFixtures.load .plain) (references_fixtures .plain) _⟩

end Bibliotheque
