import Mathlib
import Bibliotheque.Recherche.Selection

/-! # What a text criterion means

Whoever types a text into the search form means "contains this text". On its way the text is trimmed,
tested for truthiness twice, put into lower case and pasted between two `%` into a `LIKE` pattern. The
meaning survives except in two cases (`search_texte_iff`): the text `0`, which PHP takes for nothing
at all, and a text with a `%`, a `_` or a `\` in it, which `LIKE` does not take for itself. -/

namespace Bibliotheque

open Lib

/-! ## ASCII texts -/

def estAscii (s : String) : Bool := s.toList.all fun c => decide (c.toNat < 128)

/-- What the database's text functions do with ASCII texts. -/
structure Env.Standard (env : Env) : Prop where
  like : ∀ s p, env.like s p = Lib.like s.toList p.toList
  lower : ∀ s, estAscii s = true → env.lower s = s.toLower

theorem isSpecial_of_isAlpha {c : Char} (h : c.isAlpha = true) : isSpecial c = false := by
  cases hc : isSpecial c with
  | false => rfl
  | true =>
      simp only [isSpecial, Bool.or_eq_true, beq_iff_eq] at hc
      rcases hc with (rfl | rfl) | rfl
      · exact absurd h (by decide)
      · exact absurd h (by decide)
      · exact absurd h (by decide)

/-- Lower case neither makes nor unmakes a special character. -/
theorem isSpecial_toLower (c : Char) : isSpecial c.toLower = isSpecial c := by
  by_cases hupper : c.isUpper = true
  · have halpha : c.isAlpha = true := by simp [Char.isAlpha, hupper]
    rw [isSpecial_of_isAlpha halpha, isSpecial_of_isAlpha (by simpa using halpha)]
  · rw [Char.toLower_eq_of_not_isUpper hupper]

theorem toNat_toLower_lt {c : Char} (h : c.toNat < 128) : c.toLower.toNat < 128 := by
  by_cases hupper : c.isUpper = true
  · have hlower : c.toLower.isLower = true := by simp [Char.isAlpha, hupper]
    simp only [Char.isLower, Bool.and_eq_true, decide_eq_true_eq] at hlower
    have hle : c.toLower.toNat ≤ 122 := hlower.2
    omega
  · rwa [Char.toLower_eq_of_not_isUpper hupper]

/-- `s` contains `t`, ignoring case. -/
def Contient (t s : String) : Prop := t.toLower.toList <:+: s.toLower.toList

theorem toList_toLower (s : String) : s.toLower.toList = s.toList.map Char.toLower :=
  String.toList_map

/-- The pattern that is sent for a text. -/
theorem correspond_iff {env : Env} (henv : env.Standard) {t s : String} (hs : estAscii s = true) :
    Correspond env t s ↔
      like s.toLower.toList ('%' :: (t.toLower.toList ++ ['%'])) = true := by
  rw [Correspond, henv.like, henv.lower s hs]
  simp only [String.toList_append]
  rfl

/-- A text without special characters is looked for as it is. -/
theorem correspond_iff_contient {env : Env} (henv : env.Standard) {t s : String}
    (hs : estAscii s = true) (ht : ∀ c ∈ t.toList, isSpecial c = false) :
    Correspond env t s ↔ Contient t s := by
  rw [correspond_iff henv hs, like_contains, Contient]
  intro c hc
  rw [toList_toLower] at hc
  obtain ⟨c', hc', rfl⟩ := List.mem_map.mp hc
  rw [isSpecial_toLower]
  exact ht c' hc'

/-- For any other there is a title that is found and does not contain it. -/
theorem exists_not_contient {env : Env} (henv : env.Standard) {t : String} (hascii : estAscii t = true)
    (ht : ∃ c ∈ t.toList, isSpecial c = true) :
    ∃ s, estAscii s = true ∧ Correspond env t s ∧ ¬ Contient t s := by
  let s := (ofLike (t.toLower.toList ++ ['%'])).sample 'a'
  -- the characters of the sample are those of the lowered text, `%` and `a`
  have hchars : ∀ c ∈ s, c.toLower = c ∧ c.toNat < 128 := by
    intro c hc
    rcases mem_sample_ofLike hc with hmem | rfl
    · rcases List.mem_append.mp hmem with hmem | hmem
      · rw [toList_toLower] at hmem
        obtain ⟨c', hc', rfl⟩ := List.mem_map.mp hmem
        have hlt : c'.toNat < 128 := by simpa using List.all_eq_true.mp hascii c' hc'
        exact ⟨Char.toLower_toLower_eq_toLower c', toNat_toLower_lt hlt⟩
      · rw [List.mem_singleton.mp hmem]
        decide
    · decide
  have hsascii : estAscii (String.ofList s) = true := by
    rw [estAscii, String.toList_ofList, List.all_eq_true]
    intro c hc
    simpa using (hchars c hc).2
  have hlower : (String.ofList s).toLower.toList = s := by
    rw [toList_toLower, String.toList_ofList]
    have hfixed : s.map Char.toLower = s.map id :=
      List.map_congr_left fun c hc => (hchars c hc).1
    rw [hfixed, List.map_id]
  have hspecial : ∃ c ∈ t.toLower.toList, isSpecial c = true := by
    obtain ⟨c, hc, hspecial⟩ := ht
    refine ⟨c.toLower, ?_, ?_⟩
    · rw [toList_toLower]
      exact List.mem_map_of_mem hc
    · rw [isSpecial_toLower]
      exact hspecial
  obtain ⟨hmatch, hnot⟩ := like_sample_of_special hspecial
  refine ⟨String.ofList s, hsascii, ?_, ?_⟩
  · rw [correspond_iff henv hsascii, hlower]
    exact hmatch
  · rw [Contient, hlower]
    exact hnot

/-! ## Searching by one text -/

/-- The two columns of a book that a text is looked for in. -/
inductive Colonne where
  | titre
  | langue

namespace Colonne

def de : Colonne → Livre → String
  | titre, l => l.titre
  | langue, l => l.langue

/-- `GET /api/livres/recherche?titre=…`, respectively `?langue=…`. -/
def query : Colonne → String → Query
  | titre, q => ⟨some q, none, none, none, none, none⟩
  | langue, q => ⟨none, none, none, some q, none, none⟩

/-- The criteria with a text for this column and no other. -/
def critere : Colonne → Option String → Criteres
  | titre, c => { Criteres.aucun with titre := c }
  | langue, c => { Criteres.aucun with langue := c }

/-- A book with this text in the column. -/
def livre : Colonne → String → Livre
  | titre, s => ⟨0, s, 0, "", none, none⟩
  | langue, s => ⟨0, "", 0, s, none, none⟩

end Colonne

/-- The search finds exactly the books whose column contains the trimmed text. -/
def CherchePar (env : Env) (col : Colonne) (q : String) (db : Db) : Prop :=
  ∃ vs, LivreController.search env (col.query q) db = ⟨200, .livres vs⟩ ∧
    ∀ n, n ∈ vs.map (·.id) ↔
      ∃ l ∈ db.livres.rows, l.id = n ∧ Contient (LivreController.trim q) (col.de l)

section Search

variable {env : Env} {col : Colonne} {q : String} {db : Db}

theorem criteres_query (env : Env) (col : Colonne) (q : String) :
    LivreController.criteres env (col.query q) =
      col.critere (LivreController.critereTexte (some q)) := by
  have hnone : LivreController.critereTexte none = none := by decide
  cases col <;> simp only [LivreController.criteres, Colonne.query, hnone,
    LivreController.parseDate, Colonne.critere, Criteres.aucun]

/-- Of the six criteria the text is the only one. -/
theorem repond_critere {c : Option String} {l : Livre} :
    Repond env (col.critere c) db l ↔ ∀ s, c = some s → Correspond env s (col.de l) := by
  cases col with
  | titre => exact ⟨fun h => h.titre, fun h => ⟨h, nofun, nofun, nofun, nofun, nofun⟩⟩
  | langue => exact ⟨fun h => h.langue, fun h => ⟨nofun, nofun, nofun, h, nofun, nofun⟩⟩

/-- The answer to a search by one text. -/
theorem mem_search (env : Env) (col : Colonne) (q : String) (db : Db) :
    ∃ vs, LivreController.search env (col.query q) db = ⟨200, .livres vs⟩ ∧
      ∀ n, n ∈ vs.map (·.id) ↔ ∃ l ∈ db.livres.rows, l.id = n ∧
        ∀ s, LivreController.critereTexte (some q) = some s → Correspond env s (col.de l) := by
  have hsearch : ∃ vs, LivreController.search env (col.query q) db = ⟨200, .livres vs⟩ := by
    cases col <;> exact ⟨_, rfl⟩
  obtain ⟨vs, hvs⟩ := hsearch
  refine ⟨vs, hvs, ?_⟩
  intro n
  have hk := truthy_criteres env (col.query q)
  rw [search_body hvs, List.map_map, List.mem_map]
  rw [criteres_query] at hk ⊢
  simp only [mem_livresTrouves hk, repond_critere]
  constructor
  · rintro ⟨l, ⟨hl, hcrit⟩, rfl⟩
    exact ⟨l, hl, rfl, hcrit⟩
  · rintro ⟨l, hl, rfl, hcrit⟩
    exact ⟨l, ⟨hl, hcrit⟩, rfl⟩

/-- Keys tell books apart, so the search is right when it is right about every book. -/
theorem cherchePar_iff :
    CherchePar env col q db ↔ ∀ l ∈ db.livres.rows,
      ((∀ s, LivreController.critereTexte (some q) = some s → Correspond env s (col.de l)) ↔
        Contient (LivreController.trim q) (col.de l)) := by
  obtain ⟨vs, hvs, hmem⟩ := mem_search env col q db
  have hkey : ∀ {P : Livre → Prop} {l : Livre}, l ∈ db.livres.rows →
      ((∃ l' ∈ db.livres.rows, l'.id = l.id ∧ P l') ↔ P l) := by
    intro P l hl
    constructor
    · rintro ⟨l', hl', hid, hP⟩
      rwa [db.livres.eq_of_id hl' hl hid] at hP
    · intro hP
      exact ⟨l, hl, rfl, hP⟩
  constructor
  · rintro ⟨vs', hvs', hexact⟩ l hl
    rw [hvs] at hvs'
    cases hvs'
    exact (hkey hl).symm.trans (((hmem l.id).symm.trans (hexact l.id)).trans (hkey hl))
  · intro hall
    refine ⟨vs, hvs, ?_⟩
    intro n
    rw [hmem]
    constructor
    · rintro ⟨l, hl, hid, hcrit⟩
      exact ⟨l, hl, hid, (hall l hl).mp hcrit⟩
    · rintro ⟨l, hl, hid, hcont⟩
      exact ⟨l, hl, hid, (hall l hl).mpr hcont⟩

theorem critereTexte_eq : LivreController.critereTexte (some q) =
    if truthyText (LivreController.trim q) then some (LivreController.trim q) else none := rfl

theorem estAscii_trim (h : estAscii q = true) : estAscii (LivreController.trim q) = true := by
  rw [estAscii, List.all_eq_true] at h ⊢
  intro c hc
  refine h c ?_
  rw [LivreController.trim, String.toList_ofList, List.mem_reverse] at hc
  have hc' := (List.dropWhile_sublist _).subset hc
  exact (List.dropWhile_sublist _).subset (List.mem_reverse.mp hc')

end Search

/-- A catalogue of one book. -/
def unSeulLivre (l : Livre) : Db := { AppFixtures.load .plain with livres := .ofList [l] }

theorem forall_mem_unSeulLivre (col : Colonne) (s : String) (P : String → Prop) :
    (∀ l ∈ (unSeulLivre (col.livre s)).livres.rows, P (col.de l)) ↔ P s := by
  have hrows : (unSeulLivre (col.livre s)).livres.rows = [{ col.livre s with id := 1 }] := rfl
  rw [hrows, List.forall_mem_singleton]
  cases col <;> rfl

theorem cherchePar_unSeulLivre {env : Env} {col : Colonne} {q s : String} :
    CherchePar env col q (unSeulLivre (col.livre s)) ↔
      ((∀ s', LivreController.critereTexte (some q) = some s' → Correspond env s' s) ↔
        Contient (LivreController.trim q) s) :=
  cherchePar_iff.trans (forall_mem_unSeulLivre col s fun s =>
    (∀ s', LivreController.critereTexte (some q) = some s' → Correspond env s' s) ↔
      Contient (LivreController.trim q) s)

/-- **When a text criterion means "contains this text".** For an ASCII text that is not blank, over
every catalogue with ASCII texts: exactly when the trimmed text is not `0` and has no `%`, `_` or `\`
in it. -/
theorem search_texte_iff (env : Env) (henv : env.Standard) (col : Colonne) (q : String)
    (hq : estAscii q = true) (hne : LivreController.trim q ≠ "") :
    (∀ db : Db, (∀ l ∈ db.livres.rows, estAscii (col.de l) = true) → CherchePar env col q db) ↔
      LivreController.trim q ≠ "0" ∧
        ∀ c ∈ (LivreController.trim q).toList, isSpecial c = false := by
  have hascii := estAscii_trim hq
  have hcritere := @critereTexte_eq q
  constructor
  · intro hall
    -- in particular over every catalogue of one book
    have hone : ∀ s, estAscii s = true →
        ((∀ s', LivreController.critereTexte (some q) = some s' → Correspond env s' s) ↔
          Contient (LivreController.trim q) s) := by
      intro s hs
      refine cherchePar_unSeulLivre.mp (hall _ ?_)
      exact (forall_mem_unSeulLivre col s (fun s => estAscii s = true)).mpr hs
    generalize LivreController.critereTexte (some q) = critere at hcritere hone
    generalize LivreController.trim q = t at hne hascii hcritere hone ⊢
    have hzero : t ≠ "0" := by
      -- `0` is no criterion, so it finds a book without a title
      rintro rfl
      have hfound : "0".toLower.toList <:+: "".toLower.toList :=
        (hone "" (by decide)).mp (by simp [hcritere, truthyText])
      exact absurd hfound (by decide +kernel)
    refine ⟨hzero, ?_⟩
    intro c hc
    by_contra hspecial
    obtain ⟨s, hs, hmatch, hnot⟩ := exists_not_contient henv hascii ⟨c, hc, by simpa using hspecial⟩
    refine hnot ((hone s hs).mp ?_)
    intro s' hs'
    rw [hcritere, Option.ite_none_right_eq_some] at hs'
    rwa [← Option.some.inj hs'.2]
  · rintro ⟨hzero, hplain⟩ db hdb
    rw [cherchePar_iff]
    intro l hl
    have htruthy : truthyText (LivreController.trim q) = true := by simp [truthyText, hne, hzero]
    rw [hcritere, if_pos htruthy]
    simp only [Option.some.injEq, forall_eq']
    exact correspond_iff_contient henv (hdb l hl) hplain

theorem standard_sql : Env.sql.Standard := ⟨fun _ _ => rfl, fun _ _ => rfl⟩

/-- A plain text does what it should. -/
theorem search_texte_miser : CherchePar .sql .titre " miser" (AppFixtures.load .plain) := by
  have htrim : LivreController.trim " miser" = "miser" := by decide
  have hplain : ∀ c ∈ (LivreController.trim " miser").toList, isSpecial c = false := by
    rw [htrim]
    simp [isSpecial]
  have hascii : ∀ l ∈ (AppFixtures.load .plain).livres.rows, estAscii (Colonne.titre.de l) = true := by
    decide +kernel
  exact (search_texte_iff .sql standard_sql .titre " miser" (by decide) (by decide)).mpr
    ⟨by decide, hplain⟩ _ hascii

/-- The texts `0` and `_` find a title that contains neither. -/
theorem search_texte_special :
    ¬ CherchePar .sql .titre "0" (unSeulLivre (Colonne.titre.livre "Dune")) ∧
    ¬ CherchePar .sql .titre "_" (unSeulLivre (Colonne.titre.livre "Dune")) := by
  constructor
  · intro h
    have hnone : LivreController.critereTexte (some "0") = none := by decide
    have hcontient : "0".toLower.toList <:+: "Dune".toLower.toList := by
      refine (cherchePar_unSeulLivre.mp h).mp ?_
      intro s hs
      rw [hnone] at hs
      cases hs
    exact absurd hcontient (by decide +kernel)
  · intro h
    have hsome : LivreController.critereTexte (some "_") = some "_" := by decide
    have hcontient : "_".toLower.toList <:+: "Dune".toLower.toList := by
      refine (cherchePar_unSeulLivre.mp h).mp ?_
      intro s hs
      rw [hsome] at hs
      rw [← Option.some.inj hs, correspond_iff standard_sql (by decide)]
      decide +kernel
    exact absurd hcontient (by decide +kernel)

end Bibliotheque
