import Bibliotheque.Lib.Run
import Mathlib.Data.List.Basic

/-! # A page, a server, and the requests between them

A page is a state with two kinds of reactions: to a call of one of its methods, and to the answer of a
request it has sent. Either may send further requests. In between, the server takes the requests up in
any order, and the answers arrive in any order; a request may also fail, before or after the server has
seen it, and other users of the server may change its state.

`World` keeps every request ever sent, in the order of sending, with how far it has come. `step_effect`
lists everything an event can do, and the results about runs are proved from that list.

The second part is about a value that every answer of some kind replaces, such as a list of results.
`always_showsLast_iff`: whenever no request of the kind is pending the page shows the answer to the one
sent last, exactly when no settling that ends a wait lets another content stand in its place. -/

namespace Lib

/-- How far a request has come. -/
inductive Phase (α : Type) where
  | sent
  | served (answer : α)
  /-- the page has its answer, or knows that there will be none -/
  | done (answer : Option α)
  deriving DecidableEq, Repr

structure Exchange (ρ α : Type) where
  request : ρ
  phase : Phase α
  deriving DecidableEq, Repr

/-- A request that has just been sent. -/
def Exchange.new {ρ α : Type} (q : ρ) : Exchange ρ α := ⟨q, .sent⟩

def Exchange.isPending {ρ α : Type} (x : Exchange ρ α) : Bool :=
  match x.phase with
  | .done _ => false
  | _ => true

/-- What a page does when it is called and when it is answered, and the requests it sends then. -/
structure Page (κ μ ρ α : Type) where
  call : κ → μ → κ × List ρ
  answer : κ → ρ → Option α → κ × List ρ

/-- The page, the server, and all requests in the order of sending. -/
structure World (κ σ ρ α : Type) where
  page : κ
  server : σ
  log : List (Exchange ρ α)

/-- What can happen. Requests are named by their position in the order of sending. -/
inductive Happening (μ τ σ : Type) where
  | call (m : μ)
  | serve (i : Nat) (t : τ)
  | arrive (i : Nat)
  | fail (i : Nat)
  | other (s : σ)
  deriving DecidableEq, Repr

namespace World

variable {κ μ ρ α σ τ : Type} (P : Page κ μ ρ α) (handle : τ → ρ → σ → α × σ)

/-- The page reacts: it is now `r.1` and has sent `r.2`. -/
def react (log : List (Exchange ρ α)) (r : κ × List ρ) (w : World κ σ ρ α) : World κ σ ρ α :=
  { w with page := r.1, log := log ++ r.2.map .new }

def step (w : World κ σ ρ α) : Happening μ τ σ → World κ σ ρ α
  | .call m => w.react w.log (P.call w.page m)
  | .serve i t =>
      match w.log[i]? with
      | some ⟨q, .sent⟩ =>
          { w with
            server := (handle t q w.server).2
            log := w.log.set i ⟨q, .served (handle t q w.server).1⟩ }
      | _ => w
  | .arrive i =>
      match w.log[i]? with
      | some ⟨q, .served a⟩ =>
          w.react (w.log.set i ⟨q, .done (some a)⟩) (P.answer w.page q (some a))
      | _ => w
  | .fail i =>
      match w.log[i]? with
      | some x =>
          if x.isPending then
            w.react (w.log.set i ⟨x.request, .done none⟩) (P.answer w.page x.request none)
          else w
      | none => w
  | .other s => { w with server := s }

/-- **Everything a happening can do.** What is named is there, and in the right phase, or nothing
changes. -/
inductive Effect (w : World κ σ ρ α) : Happening μ τ σ → World κ σ ρ α → Prop
  | idle (e : Happening μ τ σ) : Effect w e w
  | call (m : μ) : Effect w (.call m) (w.react w.log (P.call w.page m))
  | serve (l₁ l₂ : List (Exchange ρ α)) (q : ρ) (t : τ) : w.log = l₁ ++ ⟨q, .sent⟩ :: l₂ →
      Effect w (.serve l₁.length t)
        { w with
          server := (handle t q w.server).2
          log := l₁ ++ ⟨q, .served (handle t q w.server).1⟩ :: l₂ }
  | arrive (l₁ l₂ : List (Exchange ρ α)) (q : ρ) (a : α) : w.log = l₁ ++ ⟨q, .served a⟩ :: l₂ →
      Effect w (.arrive l₁.length)
        (w.react (l₁ ++ ⟨q, .done (some a)⟩ :: l₂) (P.answer w.page q (some a)))
  | fail (l₁ l₂ : List (Exchange ρ α)) (x : Exchange ρ α) : w.log = l₁ ++ x :: l₂ →
      x.isPending = true →
      Effect w (.fail l₁.length)
        (w.react (l₁ ++ ⟨x.request, .done none⟩ :: l₂) (P.answer w.page x.request none))
  | other (s : σ) : Effect w (.other s) { w with server := s }

/-- A position in a list splits it, and changing what stands there changes nothing around it. -/
theorem split_of_getElem? {β : Type} {l : List β} {i : Nat} {x : β} (h : l[i]? = some x) :
    ∃ l₁ l₂, l = l₁ ++ x :: l₂ ∧ l₁.length = i ∧ ∀ y, l.set i y = l₁ ++ y :: l₂ := by
  obtain ⟨hi, rfl⟩ := List.getElem?_eq_some_iff.mp h
  have hlen : (l.take i).length = i := by
    rw [List.length_take]
    omega
  refine ⟨l.take i, l.drop (i + 1), ?_, hlen, ?_⟩
  · rw [List.getElem_cons_drop, List.take_append_drop]
  · intro y
    rw [List.set_eq_take_append_cons_drop, if_pos hi]

section Split

variable {β : Type} {l₁ l₂ : List β} {x : β}

theorem getElem?_split : (l₁ ++ x :: l₂)[l₁.length]? = some x := by simp

/-- Only what stands at the position is another. -/
theorem getElem?_replace {i : Nat} (y : β) :
    (l₁ ++ x :: l₂)[i]? = if i = l₁.length then some x else (l₁ ++ y :: l₂)[i]? := by
  split
  · next hi => rw [hi, getElem?_split]
  · next hi =>
    rw [List.getElem?_append, List.getElem?_append]
    split
    · rfl
    · rw [List.getElem?_cons, List.getElem?_cons, if_neg (by omega), if_neg (by omega)]

theorem eraseIdx_split : (l₁ ++ x :: l₂).eraseIdx l₁.length = l₁ ++ l₂ := by
  rw [List.eraseIdx_append_of_length_le (Nat.le_refl _), Nat.sub_self, List.eraseIdx_zero,
    List.tail_cons]

/-- What else is in the list stays there … -/
theorem mem_replace {y z : β} (h : y ∈ l₁ ++ x :: l₂) (hne : y ≠ x) : y ∈ l₁ ++ z :: l₂ := by
  rcases List.mem_append.mp h with h | h
  · exact List.mem_append_left _ h
  · rcases List.mem_cons.mp h with h | h
    · exact absurd h hne
    · exact List.mem_append_right _ (List.mem_cons_of_mem _ h)

/-- … and what is in it now is new or was there. -/
theorem mem_of_replace {y z : β} (h : y ∈ l₁ ++ z :: l₂) : y = z ∨ y ∈ l₁ ++ x :: l₂ := by
  by_cases hz : y = z
  · exact Or.inl hz
  · exact Or.inr (mem_replace h hz)

theorem drop_split : (l₁ ++ x :: l₂).drop (l₁.length + 1) = l₂ := by simp

end Split

/-- Where only the last request can be pending, a pending one is the last. -/
theorem split_of_settled {log l₁ l₂ : List (Exchange ρ α)} {x y : Exchange ρ α}
    (h : ∀ z ∈ log, z.isPending = false) (heq : log ++ [x] = l₁ ++ y :: l₂)
    (hy : y.isPending = true) : l₁ = log ∧ y = x ∧ l₂ = [] := by
  rcases List.append_eq_append_iff.mp heq with ⟨as, rfl, has⟩ | ⟨cs, rfl, hcs⟩
  · cases as with
    | nil =>
        rw [List.nil_append, List.cons.injEq] at has
        exact ⟨List.append_nil _, has.1.symm, has.2.symm⟩
    | cons a as => simp at has
  · cases cs with
    | nil =>
        rw [List.nil_append, List.cons.injEq] at hcs
        exact ⟨(List.append_nil _).symm, hcs⟩
    | cons c cs =>
        rw [List.cons_append, List.cons.injEq] at hcs
        have hdone := h y (List.mem_append_right _ (hcs.1 ▸ List.mem_cons_self))
        rw [hy] at hdone
        cases hdone

theorem step_effect (w : World κ σ ρ α) (e : Happening μ τ σ) :
    Effect P handle w e (step P handle w e) := by
  cases e with
  | call m => exact .call m
  | serve i t =>
      rw [step]
      split
      · next q hget =>
        obtain ⟨l₁, l₂, hlog, rfl, hset⟩ := split_of_getElem? hget
        rw [hset]
        exact .serve l₁ l₂ q t hlog
      · exact .idle _
  | arrive i =>
      rw [step]
      split
      · next q a hget =>
        obtain ⟨l₁, l₂, hlog, rfl, hset⟩ := split_of_getElem? hget
        rw [hset]
        exact .arrive l₁ l₂ q a hlog
      · exact .idle _
  | fail i =>
      rw [step]
      split
      · next x hget =>
        split
        · next hpending =>
          obtain ⟨l₁, l₂, hlog, rfl, hset⟩ := split_of_getElem? hget
          rw [hset]
          exact .fail l₁ l₂ x hlog hpending
        · exact .idle _
      · exact .idle _
  | other s => exact .other s

/-! ## Requests of one kind -/

section Kind

variable (kind : ρ → Bool)

/-- The requests of a kind, in the order of sending. -/
def ofKind (log : List (Exchange ρ α)) : List (Exchange ρ α) := log.filter fun x => kind x.request

/-- No request of the kind is pending. -/
def Quiet (log : List (Exchange ρ α)) : Prop := ∀ x ∈ ofKind kind log, x.isPending = false

variable {kind}

theorem ofKind_append {l₁ l₂ : List (Exchange ρ α)} :
    ofKind kind (l₁ ++ l₂) = ofKind kind l₁ ++ ofKind kind l₂ :=
  List.filter_append ..

theorem ofKind_cons_of_pos {x : Exchange ρ α} {l : List (Exchange ρ α)}
    (hx : kind x.request = true) : ofKind kind (x :: l) = x :: ofKind kind l :=
  List.filter_cons_of_pos hx

theorem ofKind_cons_of_neg {x : Exchange ρ α} {l : List (Exchange ρ α)}
    (hx : kind x.request = false) : ofKind kind (x :: l) = ofKind kind l :=
  List.filter_cons_of_neg (by simp [hx])

/-- A change of phase does not matter to the other kinds. -/
theorem ofKind_replace {q : ρ} (hq : kind q = false) {l₁ l₂ : List (Exchange ρ α)} (p p' : Phase α) :
    ofKind kind (l₁ ++ ⟨q, p⟩ :: l₂) = ofKind kind (l₁ ++ ⟨q, p'⟩ :: l₂) := by
  rw [ofKind_append, ofKind_append, ofKind_cons_of_neg hq, ofKind_cons_of_neg hq]

/-- New requests of the kind are pending. -/
theorem ofKind_new_of_quiet {l : List (Exchange ρ α)} {qs : List ρ}
    (h : Quiet kind (l ++ qs.map .new)) : ofKind kind (l ++ qs.map .new) = ofKind kind l := by
  have hnil : ofKind kind (qs.map (Exchange.new : ρ → Exchange ρ α)) = [] := by
    rw [ofKind, List.filter_eq_nil_iff]
    intro x hx hkind
    have hdone := h x (List.mem_filter.mpr ⟨List.mem_append_right _ hx, hkind⟩)
    obtain ⟨q, -, rfl⟩ := List.mem_map.mp hx
    cases hdone
  rw [ofKind_append, hnil, List.append_nil]

end Kind

/-! ## A value that the answers of one kind replace -/

section Shown

variable {β : Type} (shown : κ → β) (kind : ρ → Bool) (content : α → Option β)

/-- The page shows what the answers of a kind contain: each content replaces the one before, and
nothing else touches it. -/
structure Displays : Prop where
  call : ∀ k m, shown (P.call k m).1 = shown k
  content : ∀ k q r, kind q = true → shown (P.answer k q r).1 = (r.bind content).getD (shown k)
  other : ∀ k q r, kind q = false → shown (P.answer k q r).1 = shown k
  silent : ∀ k q r, kind q = true → (P.answer k q r).2 = []

/-- The page shows the answer to the request sent last. -/
def ShowsAnswer (shown : κ → β) (content : α → Option β) (k : κ) (x : Exchange ρ α) : Prop :=
  ∃ a, x.phase = .done (some a) ∧ content a = some (shown k)

/-- Once no request of the kind is pending, the page shows the answer to the one sent last. -/
def ShowsLast (w : World κ σ ρ α) : Prop :=
  Quiet kind w.log → ∀ x, (ofKind kind w.log).getLast? = some x → ShowsAnswer shown content w.page x

/-- The happening settles the request of the kind at `i`, by an answer or by none. -/
inductive Settles (w : World κ σ ρ α) : Happening μ τ σ → Nat → Option α → Prop
  | arrive (i : Nat) (q : ρ) (a : α) : w.log[i]? = some ⟨q, .served a⟩ → kind q = true →
      Settles w (.arrive i) i (some a)
  | fail (i : Nat) (x : Exchange ρ α) : w.log[i]? = some x → x.isPending = true →
      kind x.request = true → Settles w (.fail i) i none

/-- If the request at `i` is the last one to be settled, and is settled by `r`, then it is the one sent
last, and `r` has a content; or that one has been answered already, and its content is what `r`
contains, or what is shown already if `r` contains nothing. -/
def EndsWell (w : World κ σ ρ α) (i : Nat) (r : Option α) : Prop :=
  Quiet kind (w.log.eraseIdx i) →
    match (ofKind kind (w.log.drop (i + 1))).getLast? with
    | none => (r.bind content).isSome = true
    | some x => ∃ a, x.phase = .done (some a) ∧
        content a = some ((r.bind content).getD (shown w.page))

/-- What settles a request of the kind ends well. -/
def LastStands (w : World κ σ ρ α) (e : Happening μ τ σ) : Prop :=
  ∀ i r, Settles kind w e i r → EndsWell shown kind content w i r

/-- The answer at `i` is the last one to come in, but a later request was answered before, and
otherwise. -/
def Overtaken (w : World κ σ ρ α) (i : Nat) : Prop :=
  ∃ q a v x, w.log[i]? = some ⟨q, .served a⟩ ∧ kind q = true ∧ content a = some v ∧
    Quiet kind (w.log.eraseIdx i) ∧ (ofKind kind (w.log.drop (i + 1))).getLast? = some x ∧
    ∀ b, x.phase = .done (some b) → content b ≠ some v

variable {P handle shown kind content}

/-- A settled request does not count. -/
theorem quiet_done {l₁ l₂ : List (Exchange ρ α)} {q : ρ} {r : Option α} :
    Quiet kind (l₁ ++ ⟨q, .done r⟩ :: l₂) ↔ Quiet kind (l₁ ++ l₂) := by
  have hdone : (⟨q, .done r⟩ : Exchange ρ α).isPending = false := rfl
  simp only [Quiet, ofKind, List.filter_append, List.filter_cons]
  split
  · simp only [List.mem_append, List.mem_cons]
    grind
  · exact Iff.rfl

/-- Only the requests of the kind and what is shown matter. -/
theorem ShowsLast.congr {w w' : World κ σ ρ α} (h : ShowsLast shown kind content w)
    (hlog : Quiet kind w'.log → ofKind kind w'.log = ofKind kind w.log)
    (hshown : shown w'.page = shown w.page) : ShowsLast shown kind content w' := by
  intro hquiet x hx
  have hsame := hlog hquiet
  have hquiet' : Quiet kind w.log := by
    unfold Quiet at hquiet ⊢
    rwa [← hsame]
  rw [hsame] at hx
  obtain ⟨a, hphase, hcontent⟩ := h hquiet' x hx
  exact ⟨a, hphase, hshown.symm ▸ hcontent⟩

/-- What settles no request of the kind changes nothing. -/
theorem ShowsLast.frame (hP : Displays P shown kind content) {w : World κ σ ρ α}
    (h : ShowsLast shown kind content w) {e : Happening μ τ σ}
    (hnone : ∀ i r, ¬ Settles kind w e i r) : ShowsLast shown kind content (step P handle w e) := by
  have heffect := step_effect P handle w e
  generalize step P handle w e = w' at heffect ⊢
  cases heffect with
  | idle => exact h
  | call m => exact h.congr ofKind_new_of_quiet (hP.call _ _)
  | serve l₁ l₂ q t hlog =>
      by_cases hq : kind q = true
      · -- the request is still pending
        intro hquiet
        have hdone := hquiet ⟨q, .served (handle t q w.server).1⟩
          (List.mem_filter.mpr ⟨List.mem_append_right _ List.mem_cons_self, hq⟩)
        cases hdone
      · refine h.congr (fun _ => ?_) rfl
        rw [hlog]
        exact ofKind_replace (by simpa using hq) _ _
  | arrive l₁ l₂ q a hlog =>
      cases hq : kind q with
      | true => exact absurd (.arrive _ q a (hlog ▸ getElem?_split) hq) (hnone _ _)
      | false =>
          refine h.congr (fun hquiet => ?_) (hP.other _ _ _ hq)
          rw [hlog, ofKind_replace hq _ (.done (some a))]
          exact ofKind_new_of_quiet hquiet
  | fail l₁ l₂ x hlog hpending =>
      cases hq : kind x.request with
      | true => exact absurd (.fail _ x (hlog ▸ getElem?_split) hpending hq) (hnone _ _)
      | false =>
          refine h.congr (fun hquiet => ?_) (hP.other _ _ _ hq)
          rw [hlog]
          refine (ofKind_new_of_quiet hquiet).trans ?_
          exact ofKind_replace hq (.done none) x.phase
  | other s => exact h.congr (fun _ => rfl) rfl

/-- **A settling.** Afterwards the answer to the last request is shown exactly when this ends well. -/
theorem showsLast_settle (hP : Displays P shown kind content) {w : World κ σ ρ α}
    {l₁ l₂ : List (Exchange ρ α)} {x : Exchange ρ α} (hlog : w.log = l₁ ++ x :: l₂)
    (hq : kind x.request = true) (r : Option α) :
    ShowsLast shown kind content
        (w.react (l₁ ++ ⟨x.request, .done r⟩ :: l₂) (P.answer w.page x.request r)) ↔
      EndsWell shown kind content w l₁.length r := by
  have hlast : (ofKind kind (l₁ ++ ⟨x.request, .done r⟩ :: l₂)).getLast? =
      some (((ofKind kind l₂).getLast?).getD ⟨x.request, .done r⟩) := by
    rw [ofKind_append, ofKind_cons_of_pos (x := ⟨x.request, .done r⟩) hq, List.getLast?_append,
      List.getLast?_cons]
    rfl
  have hshown := hP.content w.page x.request r hq
  simp only [ShowsLast, EndsWell, react, hP.silent _ _ _ hq, List.map_nil, List.append_nil, hlog,
    eraseIdx_split, drop_split, quiet_done, hlast, Option.some.injEq, forall_eq']
  refine imp_congr_right fun _ => ?_
  cases (ofKind kind l₂).getLast? with
  | some y => simp only [Option.getD_some, ShowsAnswer, hshown]
  | none =>
      simp only [Option.getD_none, ShowsAnswer, hshown]
      constructor
      · rintro ⟨a, hphase, hcontent⟩
        obtain rfl := Phase.done.inj hphase
        rw [Option.bind_some, hcontent]
        rfl
      · intro hsome
        obtain ⟨v, hv⟩ := Option.isSome_iff_exists.mp hsome
        obtain ⟨a, rfl, hcontent⟩ := Option.bind_eq_some_iff.mp hv
        exact ⟨a, rfl, by rw [hcontent, hv, Option.getD_some]⟩

/-- What a settling does. -/
theorem Settles.step (P : Page κ μ ρ α) (handle : τ → ρ → σ → α × σ) {w : World κ σ ρ α} {e : Happening μ τ σ} {i : Nat} {r : Option α}
    (h : Settles kind w e i r) : ∃ l₁ x l₂, w.log = l₁ ++ x :: l₂ ∧ l₁.length = i ∧
      kind x.request = true ∧ World.step P handle w e =
        w.react (l₁ ++ ⟨x.request, .done r⟩ :: l₂) (P.answer w.page x.request r) := by
  cases h with
  | arrive i q a hget hq =>
      obtain ⟨l₁, l₂, hlog, hi, hset⟩ := split_of_getElem? hget
      exact ⟨l₁, _, l₂, hlog, hi, hq, by simp only [World.step, hget, hset]⟩
  | fail i x hget hpending hq =>
      obtain ⟨l₁, l₂, hlog, hi, hset⟩ := split_of_getElem? hget
      exact ⟨l₁, x, l₂, hlog, hi, hq, by simp only [World.step, hget, hpending, if_true, hset]⟩

/-- A happening settles one request at most. -/
theorem Settles.unique {w : World κ σ ρ α} {e : Happening μ τ σ} {i j : Nat} {r r' : Option α}
    (h : Settles kind w e i r) (h' : Settles kind w e j r') : j = i ∧ r' = r := by
  cases h with
  | arrive i q a hget hq =>
      cases h' with
      | arrive _ q' a' hget' hq' =>
          rw [hget] at hget'
          cases hget'
          exact ⟨rfl, rfl⟩
  | fail i x hget hpending hq =>
      cases h'
      exact ⟨rfl, rfl⟩

/-- **One happening.** -/
theorem showsLast_step (hP : Displays P shown kind content) (w : World κ σ ρ α)
    (e : Happening μ τ σ) (h : ShowsLast shown kind content w) :
    ShowsLast shown kind content (step P handle w e) ↔ LastStands shown kind content w e := by
  by_cases hsettles : ∃ i r, Settles kind w e i r
  · obtain ⟨i, r, hsettles⟩ := hsettles
    obtain ⟨l₁, x, l₂, hlog, rfl, hq, hstep⟩ := hsettles.step P handle
    rw [hstep, showsLast_settle hP hlog hq r]
    constructor
    · intro hends j r' hsettles'
      obtain ⟨rfl, rfl⟩ := hsettles.unique hsettles'
      exact hends
    · intro hstands
      exact hstands _ _ hsettles
  · have hnone : ∀ i r, ¬ Settles kind w e i r := fun i r hs => hsettles ⟨i, r, hs⟩
    exact iff_of_true (h.frame hP hnone) fun i r hs => absurd hs (hnone i r)

theorem LastStands.call {w : World κ σ ρ α} (m : μ) :
    LastStands (τ := τ) shown kind content w (.call m) := nofun

theorem LastStands.serve {w : World κ σ ρ α} (i : Nat) (t : τ) :
    LastStands (μ := μ) shown kind content w (.serve i t) := nofun

/-- An answer that has been overtaken is shown in place of the one that should be. -/
theorem not_showsLast_of_overtaken (hP : Displays P shown kind content) {w : World κ σ ρ α} {i : Nat}
    (h : Overtaken kind content w i) :
    ¬ ShowsLast shown kind content (step P handle w (.arrive i : Happening μ τ σ)) := by
  obtain ⟨q, a, v, x, hget, hq, hv, hquiet, hx, hother⟩ := h
  have hsettles : Settles (τ := τ) (μ := μ) kind w (.arrive i) i (some a) := .arrive i q a hget hq
  obtain ⟨l₁, y, l₂, hlog, rfl, hq', hstep⟩ := hsettles.step P handle
  rw [hstep, showsLast_settle hP hlog hq']
  intro hends
  have hends := hends hquiet
  rw [hx, Option.bind_some, hv, Option.getD_some] at hends
  obtain ⟨b, hphase, hcontent⟩ := hends
  exact hother b hphase hcontent

/-- **The answer to the last request is what is shown**, in every state of a run, exactly when every
settling in it ends well. -/
theorem always_showsLast_iff (hP : Displays P shown kind content) {w : World κ σ ρ α}
    (hw : ofKind kind w.log = []) {es : List (Happening μ τ σ)} :
    Always (step P handle) (ShowsLast shown kind content) w es ↔
      Along (step P handle) (LastStands shown kind content) w es := by
  refine always_iff_along (J := fun _ => True) (fun _ _ _ _ _ => trivial)
    (fun w e _ h => showsLast_step hP w e h) trivial ?_
  intro _ x hx
  rw [hw] at hx
  cases hx

end Shown

/-! ## Requests that are not settled -/

section Pending

/-- The requests that have been sent, in the order of sending. -/
def requests (log : List (Exchange ρ α)) : List ρ := log.map (·.request)

/-- Those of them that are not settled. -/
def pending (log : List (Exchange ρ α)) : List ρ := (log.filter (·.isPending)).map (·.request)

variable {l₁ l₂ : List (Exchange ρ α)} {x : Exchange ρ α} {q : ρ}

@[simp] theorem requests_append : requests (l₁ ++ l₂) = requests l₁ ++ requests l₂ :=
  List.map_append

@[simp] theorem requests_cons : requests (x :: l₁) = x.request :: requests l₁ := rfl

@[simp] theorem pending_nil : pending ([] : List (Exchange ρ α)) = [] := rfl

@[simp] theorem pending_append : pending (l₁ ++ l₂) = pending l₁ ++ pending l₂ := by
  rw [pending, List.filter_append, List.map_append]
  rfl

theorem pending_cons_of_pending (hx : x.isPending = true) :
    pending (x :: l₁) = x.request :: pending l₁ := by
  rw [pending, List.filter_cons_of_pos hx, List.map_cons]
  rfl

theorem pending_cons_of_not (hx : x.isPending = false) : pending (x :: l₁) = pending l₁ := by
  rw [pending, List.filter_cons_of_neg (by simp [hx])]
  rfl

theorem pending_eq_nil : pending l₁ = [] ↔ ∀ y ∈ l₁, y.isPending = false := by
  simp [pending]

@[simp] theorem pending_sent : pending (⟨q, .sent⟩ :: l₁) = q :: pending l₁ :=
  pending_cons_of_pending rfl

@[simp] theorem pending_served {a : α} : pending (⟨q, .served a⟩ :: l₁) = q :: pending l₁ :=
  pending_cons_of_pending rfl

@[simp] theorem pending_done {r : Option α} : pending (⟨q, .done r⟩ :: l₁) = pending l₁ :=
  pending_cons_of_not rfl

/-- What the page sends when it reacts is pending. -/
@[simp] theorem requests_react (log : List (Exchange ρ α)) (r : κ × List ρ) (w : World κ σ ρ α) :
    requests (w.react log r).log = requests log ++ r.2 := by
  simp [react, requests, Function.comp_def, Exchange.new]

@[simp] theorem pending_react (log : List (Exchange ρ α)) (r : κ × List ρ) (w : World κ σ ρ α) :
    pending (w.react log r).log = pending log ++ r.2 := by
  have hall : (r.2.map (.new : ρ → Exchange ρ α)).filter (·.isPending) = r.2.map .new := by
    rw [List.filter_eq_self]
    intro x hx
    obtain ⟨q, -, rfl⟩ := List.mem_map.mp hx
    rfl
  rw [react, pending_append, List.append_cancel_left_eq, pending, hall]
  simp [Function.comp_def, Exchange.new]

@[simp] theorem page_react (log : List (Exchange ρ α)) (r : κ × List ρ) (w : World κ σ ρ α) :
    (w.react log r).page = r.1 := rfl

end Pending

/-! ## One request at a time -/

section Single

variable {w : World κ σ ρ α} {l : List (Exchange ρ α)} {x : Exchange ρ α}

/-- What can happen while only the last request can be pending. -/
inductive LastEffect (P : Page κ μ ρ α) (handle : τ → ρ → σ → α × σ) (w : World κ σ ρ α)
    (l : List (Exchange ρ α)) (x : Exchange ρ α) : Happening μ τ σ → World κ σ ρ α → Prop
  | idle (e : Happening μ τ σ) : LastEffect P handle w l x e w
  | call (m : μ) : LastEffect P handle w l x (.call m) (w.react w.log (P.call w.page m))
  | serve (q : ρ) (t : τ) : x = ⟨q, .sent⟩ → LastEffect P handle w l x (.serve l.length t)
      { w with
        server := (handle t q w.server).2
        log := l ++ [⟨q, .served (handle t q w.server).1⟩] }
  | arrive (q : ρ) (a : α) : x = ⟨q, .served a⟩ → LastEffect P handle w l x (.arrive l.length)
      (w.react (l ++ [⟨q, .done (some a)⟩]) (P.answer w.page q (some a)))
  | fail : x.isPending = true → LastEffect P handle w l x (.fail l.length)
      (w.react (l ++ [⟨x.request, .done none⟩]) (P.answer w.page x.request none))
  | other (s : σ) : LastEffect P handle w l x (.other s) { w with server := s }

theorem last_effect (hlog : w.log = l ++ [x]) (hl : pending l = []) (e : Happening μ τ σ) :
    LastEffect P handle w l x e (step P handle w e) := by
  have hsettled := pending_eq_nil.mp hl
  have heffect := step_effect P handle w e
  generalize step P handle w e = w' at heffect ⊢
  cases heffect with
  | idle => exact .idle e
  | call m => exact .call m
  | serve l₁ l₂ q t heq =>
      obtain ⟨rfl, hx, rfl⟩ := split_of_settled hsettled (hlog.symm.trans heq) rfl
      exact .serve q t hx.symm
  | arrive l₁ l₂ q a heq =>
      obtain ⟨rfl, hx, rfl⟩ := split_of_settled hsettled (hlog.symm.trans heq) rfl
      exact .arrive q a hx.symm
  | fail l₁ l₂ y heq hy =>
      obtain ⟨rfl, rfl, rfl⟩ := split_of_settled hsettled (hlog.symm.trans heq) hy
      exact .fail hy
  | other s => exact .other s

/-- What can happen while no request is pending. -/
inductive RestEffect (P : Page κ μ ρ α) (w : World κ σ ρ α) :
    Happening μ τ σ → World κ σ ρ α → Prop
  | idle (e : Happening μ τ σ) : RestEffect P w e w
  | call (m : μ) : RestEffect P w (.call m) (w.react w.log (P.call w.page m))
  | other (s : σ) : RestEffect P w (.other s) { w with server := s }

theorem rest_effect (hw : pending w.log = []) (e : Happening μ τ σ) :
    RestEffect P w e (step P handle w e) := by
  have hnot : ∀ {l₁ l₂ : List (Exchange ρ α)} {y : Exchange ρ α}, w.log = l₁ ++ y :: l₂ →
      y.isPending = true → False := by
    intro l₁ l₂ y heq hy
    have hsettled := pending_eq_nil.mp hw y (heq ▸ List.mem_append_right _ List.mem_cons_self)
    rw [hy] at hsettled
    cases hsettled
  have heffect := step_effect P handle w e
  generalize step P handle w e = w' at heffect ⊢
  cases heffect with
  | idle => exact .idle e
  | call m => exact .call m
  | serve l₁ l₂ q t heq => exact (hnot heq rfl).elim
  | arrive l₁ l₂ q a heq => exact (hnot heq rfl).elim
  | fail l₁ l₂ y heq hy => exact (hnot heq hy).elim
  | other s => exact .other s

end Single

/-! ## Where an answer comes from -/

section Provenance

variable {P handle}

/-- The answer at a position was given when the server took the request there up. -/
theorem served_step {w : World κ σ ρ α} {e : Happening μ τ σ} {i : Nat} {q : ρ} {a : α}
    (h : (step P handle w e).log[i]? = some ⟨q, .served a⟩) :
    w.log[i]? = some ⟨q, .served a⟩ ∨
      ∃ t, e = .serve i t ∧ w.log[i]? = some ⟨q, .sent⟩ ∧ (handle t q w.server).1 = a := by
  have hnew : ∀ (log : List (Exchange ρ α)) (qs : List ρ),
      (log ++ qs.map .new)[i]? = some ⟨q, .served a⟩ → log[i]? = some ⟨q, .served a⟩ := by
    intro log qs hget
    rw [List.getElem?_append] at hget
    split at hget
    · exact hget
    · obtain ⟨q', -, hq'⟩ := List.mem_map.mp (List.mem_of_getElem? hget)
      cases hq'
  have heffect := step_effect P handle w e
  generalize step P handle w e = w' at heffect h
  cases heffect with
  | idle => exact Or.inl h
  | call m => exact Or.inl (hnew _ _ h)
  | serve l₁ l₂ q' t hlog =>
      rw [getElem?_replace ⟨q', .sent⟩, ← hlog] at h
      split at h
      · next hi =>
        cases h
        exact Or.inr ⟨t, hi ▸ rfl, by rw [hlog, hi, getElem?_split], rfl⟩
      · exact Or.inl h
  | arrive l₁ l₂ q' a' hlog =>
      have hget := hnew _ _ h
      rw [getElem?_replace ⟨q', .served a'⟩, ← hlog] at hget
      split at hget
      · cases hget
      · exact Or.inl hget
  | fail l₁ l₂ x hlog hpending =>
      have hget := hnew _ _ h
      rw [getElem?_replace x, ← hlog] at hget
      split at hget
      · cases hget
      · exact Or.inl hget
  | other s => exact Or.inl h

/-- **Every answer was given.** An answer on its way was on its way at the start, or there is a moment
of the run at which the server took the request up, and this is what it answered in the state it was
in then. -/
theorem served_provenance {w : World κ σ ρ α} {es : List (Happening μ τ σ)} {i : Nat} {q : ρ} {a : α}
    (h : (run (step P handle) w es).log[i]? = some ⟨q, .served a⟩) :
    w.log[i]? = some ⟨q, .served a⟩ ∨
      ∃ es₁ t es₂, es = es₁ ++ .serve i t :: es₂ ∧
        (run (step P handle) w es₁).log[i]? = some ⟨q, .sent⟩ ∧
        (handle t q (run (step P handle) w es₁).server).1 = a := by
  have hsource := run_provenance (R := fun w : World κ σ ρ α => w.log[i]? = some ⟨q, .served a⟩)
    (fun _ _ => served_step) h
  rcases hsource with hstart | ⟨es₁, _, es₂, heq, t, rfl, hs, ha⟩
  · exact Or.inl hstart
  · exact Or.inr ⟨es₁, t, es₂, heq, hs, ha⟩

end Provenance

end World

end Lib
