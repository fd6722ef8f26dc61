import Bibliotheque.Lib.Json.Text

/-! # Every JSON text is read

`parse_document`: whatever transparent encoding a text goes through, `parse` accepts it and reads it
as its value in that encoding. One lemma for each function of the reader says what it does on the text
of the thing it reads, whatever comes after. -/

namespace Lib.Json

open JsString

/-! ## Numbers -/

theorem eat_of_ne {c d : UInt16} (h : c ≠ d) (w s : JsString) : eat (c :: w) (d :: s) = none := by
  rw [eat, if_neg h]

theorem eat_of_head {c : UInt16} {s : JsString} (h : ∀ d ∈ s.head?, c ≠ d) (w : JsString) :
    eat (c :: w) s = none := by
  cases s with
  | nil => rfl
  | cons d s => exact eat_of_ne (h d rfl) w s

/-- What can come after a number: it does not go on. -/
def Ends (s : JsString) : Prop :=
  ∀ c ∈ s.head?, isDigit c = false ∧ unit '.' ≠ c ∧ unit 'e' ≠ c ∧ unit 'E' ≠ c

theorem isDigit_digitChar : ∀ d, isDigit (unit (digitChar d)) = true := by
  decide

theorem digitVal_digitChar : ∀ d, digitVal (unit (digitChar d)) = d := by
  decide

theorem digits_append (ds : List (Fin 10)) {s : JsString} (hs : ∀ c ∈ s.head?, isDigit c = false) :
    digits ((ds.map digitChar).map unit ++ s) = (ds, s) := by
  have hall : ∀ c ∈ (ds.map digitChar).map unit, isDigit c = true := by
    intro c hc
    simp only [List.mem_map, exists_exists_and_eq_and] at hc
    obtain ⟨d, -, rfl⟩ := hc
    exact isDigit_digitChar d
  have hval : ((ds.map digitChar).map unit).map digitVal = ds := by
    simp only [List.map_map]
    exact List.map_id'' digitVal_digitChar ds
  have hstop : s.takeWhile isDigit = [] ∧ s.dropWhile isDigit = s := by
    cases s with
    | nil => exact ⟨rfl, rfl⟩
    | cons c s => simp [hs c rfl]
  rw [digits, List.takeWhile_append_of_pos hall, List.dropWhile_append_of_pos hall, hstop.1, hstop.2,
    List.append_nil, hval]

theorem digits1_append (ds : Digits) {s : JsString} (hs : ∀ c ∈ s.head?, isDigit c = false) :
    digits1 ((ds.list.map digitChar).map unit ++ s) = some (ds.list, s) := by
  rw [digits1, digits_append _ hs]
  exact if_neg (List.cons_ne_nil _ _)

theorem digitChar_ne : ∀ d : Fin 10,
    unit '-' ≠ unit (digitChar d) ∧ unit '+' ≠ unit (digitChar d) ∧
    (d ≠ 0 → unit '0' ≠ unit (digitChar d)) := by
  decide

theorem intPart_append (l : Literal) {s : JsString} (hs : ∀ c ∈ s.head?, isDigit c = false) :
    intPart ((l.intDigits.map digitChar).map unit ++ s) = some (l.intDigits, s) := by
  rw [intPart, Literal.intDigits]
  cases l.int with
  | none => rfl
  | some r =>
      obtain ⟨d, ds⟩ := r
      have hzero : eat [unit '0'] (((d.succ :: ds).map digitChar).map unit ++ s) = none :=
        eat_of_ne ((digitChar_ne d.succ).2.2 (Fin.succ_ne_zero d)) _ _
      rw [hzero]
      exact digits1_append ⟨d.succ, ds⟩ hs

theorem fracPart_append (l : Literal) {s : JsString} (hs : ∀ c ∈ s.head?, isDigit c = false)
    (hdot : ∀ c ∈ s.head?, unit '.' ≠ c) :
    fracPart (l.fracChars.map unit ++ s) = some (l.fracDigits, s) := by
  rw [fracPart, Literal.fracChars, Literal.fracDigits]
  cases l.frac with
  | none =>
      rw [List.map_nil, List.nil_append, eat_of_head hdot]
  | some ds =>
      rw [List.map_cons, List.cons_append, eat, if_pos rfl, eat]
      exact digits1_append ds hs

theorem sign_append (e : Exponent) (s : JsString) :
    sign (e.signChars.map unit ++ ((e.digits.list.map digitChar).map unit ++ s)) =
      (decide (e.sign = some true), (e.digits.list.map digitChar).map unit ++ s) := by
  obtain ⟨hminus, hplus, -⟩ := digitChar_ne e.digits.first
  rw [sign, Exponent.signChars]
  match e.sign with
  | none =>
      rw [List.map_nil, List.nil_append]
      have hnone : ∀ c, c ≠ unit (digitChar e.digits.first) →
          eat [c] ((e.digits.list.map digitChar).map unit ++ s) = none := by
        intro c hc
        exact eat_of_ne hc _ _
      rw [hnone _ hminus, hnone _ hplus]
      rfl
  | some true => rfl
  | some false => rfl

theorem expPart_append (l : Literal) {s : JsString} (hs : Ends s) :
    expPart (l.expChars.map unit ++ s) = some (l.expValue, s) := by
  rw [expPart, Literal.expChars, Literal.expValue]
  cases l.exp with
  | none =>
      rw [List.map_nil, List.nil_append, eat_of_head (fun c hc => (hs c hc).2.2.1),
        eat_of_head (fun c hc => (hs c hc).2.2.2)]
      rfl
  | some e =>
      have hmark : ∀ s' : JsString, (eat [unit 'e'] (unit (if e.upper then 'E' else 'e') :: s')).or
          (eat [unit 'E'] (unit (if e.upper then 'E' else 'e') :: s')) = some s' := by
        intro s'
        cases e.upper with
        | true => rfl
        | false => rfl
      simp only [Exponent.chars, List.map_cons, List.map_append, List.cons_append,
        List.append_assoc, hmark, sign_append, digits1_append _ (fun c hc => (hs c hc).1)]
      simp [Exponent.value]

theorem head?_expChars (l : Literal) {s : JsString} (hs : Ends s) :
    ∀ c ∈ (l.expChars.map unit ++ s).head?, isDigit c = false ∧ unit '.' ≠ c := by
  rw [Literal.expChars]
  cases l.exp with
  | none =>
      intro c hc
      exact ⟨(hs c hc).1, (hs c hc).2.1⟩
  | some e =>
      intro c hc
      obtain rfl := Option.some.inj hc
      cases e.upper with
      | true => decide
      | false => decide

theorem head?_fracChars (l : Literal) {s : JsString} (hs : Ends s) :
    ∀ c ∈ (l.fracChars.map unit ++ (l.expChars.map unit ++ s)).head?, isDigit c = false := by
  rw [Literal.fracChars]
  cases l.frac with
  | none =>
      intro c hc
      exact (head?_expChars l hs c hc).1
  | some ds =>
      intro c hc
      obtain rfl := Option.some.inj hc
      decide

/-- **Numbers are read as what they denote.** -/
theorem number_append (l : Literal) {s : JsString} (hs : Ends s) :
    number (l.chars.map unit ++ s) = some (l.value, s) := by
  have hunsigned : ∀ neg, unsigned neg ((l.intDigits.map digitChar).map unit ++
      (l.fracChars.map unit ++ (l.expChars.map unit ++ s))) =
      some (decimal neg l.intDigits l.fracDigits l.expValue, s) := by
    intro neg
    rw [unsigned, intPart_append l (head?_fracChars l hs)]
    show (fracPart _).bind _ = _
    rw [fracPart_append l (fun c hc => (head?_expChars l hs c hc).1)
      (fun c hc => (head?_expChars l hs c hc).2)]
    show (expPart _).bind _ = _
    rw [expPart_append l hs]
    rfl
  rw [Literal.chars, List.map_append, List.map_append, List.map_append, List.append_assoc,
    List.append_assoc, List.append_assoc, number, Literal.value]
  cases l.neg with
  | true => exact hunsigned true
  | false =>
      -- the first digit is not a sign
      have hminus : eat [unit '-'] ((l.intDigits.map digitChar).map unit ++
          (l.fracChars.map unit ++ (l.expChars.map unit ++ s))) = none := by
        obtain ⟨d, ds, hint⟩ := l.intDigits_eq_cons
        rw [hint]
        exact eat_of_ne (digitChar_ne d).1 _ _
      simp only [Bool.false_eq_true, if_false, List.map_nil, List.nil_append, hminus]
      exact hunsigned false

/-! ## Strings -/

theorem string_quote (s : JsString) : string (unit '"' :: s) = some ([], s) := by
  rw [string.eq_def]
  exact if_pos rfl

theorem string_raw {u : UInt16} (hquote : u ≠ unit '"') (hback : u ≠ unit '\\') (hctrl : ¬ u < 0x20)
    (s : JsString) : string (u :: s) = (string s).map fun r => (u :: r.1, r.2) := by
  rw [string.eq_def]
  simp only [if_neg hquote, if_neg hback, if_neg hctrl]
  rw [Option.map_eq_bind]
  rfl

theorem string_escape {e v : UInt16} (hu : e ≠ unit 'u') (hv : escape? e = some v) (s : JsString) :
    string (unit '\\' :: e :: s) = (string s).map fun r => (v :: r.1, r.2) := by
  have hback : unit '\\' ≠ unit '"' := by decide
  rw [string.eq_def]
  simp only [if_neg hback, if_true, if_neg hu, hv]
  rw [Option.map_eq_bind]
  rfl

theorem string_hex {a b c d : UInt16} {a' b' c' d' : Fin 16} (ha : hexVal? a = some a')
    (hb : hexVal? b = some b') (hc : hexVal? c = some c') (hd : hexVal? d = some d') (s : JsString) :
    string (unit '\\' :: unit 'u' :: a :: b :: c :: d :: s) =
      (string s).map fun r => (hexUnit a' b' c' d' :: r.1, r.2) := by
  have hback : unit '\\' ≠ unit '"' := by decide
  rw [string.eq_def]
  simp only [if_neg hback, if_true, ha, hb, hc, hd]
  rw [Option.map_eq_bind]
  rfl

/-- Units outside ASCII stand for themselves in a string. -/
theorem string_high {l : JsString} (hl : ∀ u ∈ l, 0x80 ≤ u.toNat) (s : JsString) :
    string (l ++ s) = (string s).map fun r => (l ++ r.1, r.2) := by
  induction l with
  | nil =>
      rw [List.nil_append]
      cases string s <;> rfl
  | cons u l ih =>
      have hu := hl u List.mem_cons_self
      have hne : ∀ v : UInt16, v.toNat < 0x80 → u ≠ v := by
        rintro v hv rfl
        omega
      have hctrl : ¬ u < 0x20 := by
        intro hlt
        have : u.toNat < 0x20 := hlt
        omega
      rw [List.cons_append, string_raw (hne _ (by decide)) (hne _ (by decide)) hctrl,
        ih (fun v hv => hl v (List.mem_cons_of_mem _ hv)), Option.map_map]
      rfl

theorem hexChar_spec : ∀ (v : Fin 16) (upper : Bool),
    (hexChar (v, upper)).toNat < 0x80 ∧ hexVal? (unit (hexChar (v, upper))) = some v := by
  decide

theorem hexChar_ascii (h : Hex) : (hexChar h).toNat < 0x80 := (hexChar_spec h.1 h.2).1

theorem hexVal?_hexChar (h : Hex) : hexVal? (unit (hexChar h)) = some h.1 :=
  (hexChar_spec h.1 h.2).2

theorem escape_spec (e : Escape) :
    e.char.toNat < 0x80 ∧ unit e.char ≠ unit 'u' ∧ escape? (unit e.char) = some e.units := by
  cases e <;> decide

section Strings

variable {enc : Char → JsString} (henc : Transparent enc)
include henc

theorem string_item (i : Item) (s : JsString) :
    string (i.chars.flatMap enc ++ s) = (string s).map fun r => (i.units enc ++ r.1, r.2) := by
  cases i with
  | raw c plain =>
      obtain ⟨hquote, hback, hctrl⟩ := plain
      rw [Item.chars, List.flatMap_singleton, Item.units]
      rcases Nat.lt_or_ge c.toNat 0x80 with hc | hc
      · have hlow : ¬ unit c < 0x20 := by
          intro hlt
          have : (unit c).toNat < 0x20 := hlt
          rw [toNat_unit hc] at this
          omega
        rw [henc.ascii c hc]
        exact string_raw (unit_ne hc (by decide) hquote) (unit_ne hc (by decide) hback) hlow s
      · exact string_high (henc.high c hc) s
  | esc e =>
      obtain ⟨hascii, hu, hv⟩ := escape_spec e
      simp only [Item.chars, List.flatMap_cons, List.flatMap_nil, henc.ascii _ hascii,
        henc.ascii '\\' (by decide)]
      exact string_escape hu hv s
  | hex a b c d =>
      simp only [Item.chars, List.flatMap_cons, List.flatMap_nil, henc.ascii _ (hexChar_ascii _),
        henc.ascii '\\' (by decide), henc.ascii 'u' (by decide)]
      exact string_hex (hexVal?_hexChar a) (hexVal?_hexChar b) (hexVal?_hexChar c)
        (hexVal?_hexChar d) s

/-- **Strings are read as what they denote.** -/
theorem string_items (is : List Item) (s : JsString) :
    string ((itemChars is).flatMap enc ++ unit '"' :: s) = some (itemUnits enc is, s) := by
  induction is with
  | nil => exact string_quote s
  | cons i is ih =>
      rw [itemChars, List.flatMap_cons, List.flatMap_append, List.append_assoc, string_item henc]
      rw [itemChars] at ih
      rw [ih]
      rfl

end Strings

/-! ## Whole texts -/

theorem Literal.head (l : Literal) :
    ∃ c cs, l.chars = c :: cs ∧ (c = '-' ∨ ∃ d, c = digitChar d) := by
  obtain ⟨d, ds, hint⟩ := l.intDigits_eq_cons
  rw [Literal.chars, hint]
  cases l.neg with
  | true => exact ⟨_, _, rfl, Or.inl rfl⟩
  | false => exact ⟨_, _, rfl, Or.inr ⟨d, rfl⟩⟩

/-- Nothing else that can come next begins like a number. -/
theorem start_spec {c : Char} (hc : c = '-' ∨ ∃ d, c = digitChar d) :
    c.toNat < 0x80 ∧ isBlank (unit c) = false ∧
      [']', '\x7b', '[', '"', 't', 'f', 'n'].all (fun o => unit o != unit c) = true := by
  rcases hc with rfl | ⟨d, rfl⟩
  · decide
  · revert d
    decide

theorem digitChar_ascii : ∀ d, (digitChar d).toNat < 0x80 := by
  decide

theorem ascii_digitChars (ds : List (Fin 10)) : ∀ c ∈ ds.map digitChar, c.toNat < 0x80 := by
  intro c hc
  obtain ⟨d, -, rfl⟩ := List.mem_map.mp hc
  exact digitChar_ascii d

theorem Exponent.ascii (e : Exponent) : ∀ c ∈ e.chars, c.toNat < 0x80 := by
  rw [Exponent.chars, List.forall_mem_cons, List.forall_mem_append]
  refine ⟨?_, ?_, ascii_digitChars _⟩
  · cases e.upper <;> decide
  · rw [Exponent.signChars]
    match e.sign with
    | none => simp
    | some true => simp
    | some false => simp

theorem Literal.ascii (l : Literal) : ∀ c ∈ l.chars, c.toNat < 0x80 := by
  rw [Literal.chars, List.forall_mem_append, List.forall_mem_append, List.forall_mem_append]
  refine ⟨?_, ascii_digitChars _, ?_, ?_⟩
  · cases l.neg <;> simp
  · rw [Literal.fracChars]
    cases l.frac with
    | none => exact List.forall_mem_nil _
    | some ds => exact List.forall_mem_cons.mpr ⟨by decide, ascii_digitChars _⟩
  · rw [Literal.expChars]
    cases l.exp with
    | none => exact List.forall_mem_nil _
    | some e => exact e.ascii

/-- A text begins with a character that is neither whitespace nor a closing bracket. -/
theorem Text.head (t : Text) :
    ∃ c cs, t.chars = c :: cs ∧ c.toNat < 0x80 ∧ isBlank (unit c) = false ∧ unit ']' ≠ unit c := by
  cases t with
  | num l =>
      obtain ⟨c, cs, hcs, hc⟩ := l.head
      obtain ⟨hascii, hblank, hother⟩ := start_spec hc
      exact ⟨c, cs, by rw [Text.chars, hcs], hascii, hblank,
        by simpa using List.all_eq_true.mp hother ']' List.mem_cons_self⟩
  | bool b => cases b <;> exact ⟨_, _, by rw [Text.chars], by decide⟩
  | _ => exact ⟨_, _, by rw [Text.chars], by decide⟩

theorem skip_cons {c : UInt16} (hc : isBlank c = false) (s : JsString) : skip (c :: s) = c :: s :=
  List.dropWhile_cons_of_neg (by rw [hc]; exact Bool.false_ne_true)

theorem blank_spec (b : Blank) :
    b.char.toNat < 0x80 ∧ isBlank (unit b.char) = true ∧ isDigit (unit b.char) = false ∧
      unit '.' ≠ unit b.char ∧ unit 'e' ≠ unit b.char ∧ unit 'E' ≠ unit b.char := by
  cases b <;> decide

section Dispatch

variable {ν : Type} (ofRat : ℚ → ν) (n : Nat) (s : JsString)

theorem value_bracket :
    value ofRat (n + 1) (unit '[' :: s) =
      match eat [unit ']'] (skip s) with
      | some s => some (.arr [], s)
      | none => (elements ofRat n s).map fun r => (.arr r.1, r.2) :=
  rfl

theorem value_brace :
    value ofRat (n + 1) (unit '\x7b' :: s) =
      match eat [unit '\x7d'] (skip s) with
      | some s => some (.obj [], s)
      | none => (members ofRat n s).map fun r => (.obj r.1, r.2) :=
  rfl

end Dispatch

section Texts

variable {enc : Char → JsString} (henc : Transparent enc)
include henc

theorem flatMap_ascii {cs : List Char} (hcs : ∀ c ∈ cs, c.toNat < 0x80) :
    cs.flatMap enc = cs.map unit := by
  induction cs with
  | nil => rfl
  | cons c cs ih =>
      obtain ⟨hc, hcs⟩ := List.forall_mem_cons.mp hcs
      rw [List.flatMap_cons, henc.ascii c hc, ih hcs]
      rfl

theorem flatMap_cons_ascii {c : Char} (hc : c.toNat < 0x80) (cs : List Char) :
    (c :: cs).flatMap enc = unit c :: cs.flatMap enc := by
  rw [List.flatMap_cons, henc.ascii c hc]
  rfl

theorem flatMap_blanks (w : List Blank) : (blanks w).flatMap enc = (blanks w).map unit := by
  refine flatMap_ascii henc ?_
  intro c hc
  obtain ⟨b, -, rfl⟩ := List.mem_map.mp hc
  exact (blank_spec b).1

theorem skip_blanks (w : List Blank) (s : JsString) : skip ((blanks w).flatMap enc ++ s) = skip s := by
  refine List.dropWhile_append_of_pos ?_
  intro u hu
  rw [flatMap_blanks henc, blanks, List.map_map] at hu
  obtain ⟨b, -, rfl⟩ := List.mem_map.mp hu
  exact (blank_spec b).2.1

/-- A number ends where whitespace begins. -/
theorem ends_blanks (w : List Blank) {s : JsString} (hs : Ends s) :
    Ends ((blanks w).flatMap enc ++ s) := by
  rw [flatMap_blanks henc]
  cases w with
  | nil => exact hs
  | cons b w =>
      intro c hc
      obtain rfl := Option.some.inj hc
      exact (blank_spec b).2.2

theorem skip_text (t : Text) (s : JsString) :
    skip (t.chars.flatMap enc ++ s) = t.chars.flatMap enc ++ s := by
  obtain ⟨c, cs, hcs, hascii, hblank, -⟩ := t.head
  rw [hcs, List.flatMap_cons, henc.ascii c hascii]
  exact skip_cons hblank _

theorem length_text (t : Text) : 0 < (t.chars.flatMap enc).length := by
  obtain ⟨c, cs, hcs, hascii, -, -⟩ := t.head
  rw [hcs, List.flatMap_cons, henc.ascii c hascii]
  exact Nat.zero_lt_succ _

variable {ν : Type} (ofRat : ℚ → ν)

theorem value_num (l : Literal) (n : Nat) {s : JsString} (hs : Ends s) :
    value ofRat (n + 1) (l.chars.flatMap enc ++ s) = some (.num (ofRat l.value), s) := by
  have hnumber := number_append l hs
  obtain ⟨c, cs, hcs, hc⟩ := l.head
  obtain ⟨-, -, hother⟩ := start_spec hc
  -- every other production begins with another character
  have hnone : ∀ o ∈ [']', '\x7b', '[', '"', 't', 'f', 'n'], ∀ w,
      eat (unit o :: w) (l.chars.map unit ++ s) = none := by
    intro o ho w
    rw [hcs]
    exact eat_of_ne (by simpa using List.all_eq_true.mp hother o ho) _ _
  rw [flatMap_ascii henc l.ascii, value, hnone _ (by decide), hnone _ (by decide), hnone _ (by decide)]
  simp only [scalar]
  rw [hnone _ (by decide), hnone _ (by decide), hnone _ (by decide), hnumber]
  rfl

/-- The name of a member is read up to the value. -/
theorem members_key (k : Key) (n : Nat) (s : JsString) :
    members ofRat (n + 1) (k.chars.flatMap enc ++ s) =
      (value ofRat n (skip s)).bind fun v =>
        more (unit '\x7d') (members ofRat n) (itemUnits enc k.items, v.1) v.2 := by
  have hquote : ∀ s, eat [unit '"'] (skip (unit '"' :: s)) = some s := fun s => rfl
  have hcolon : ∀ s, eat [unit ':'] (skip (unit ':' :: s)) = some s := fun s => rfl
  rw [members, Key.chars]
  simp only [List.flatMap_append, flatMap_cons_ascii henc, Char.reduceToNat, Nat.reduceLT,
    List.append_assoc, List.cons_append, skip_blanks henc, hquote, Option.bind_eq_bind,
    Option.bind_some, string_items henc, hcolon]

/-- A comma is passed … -/
theorem more_comma {α : Type} (close : UInt16) (rest : JsString → Option (List α × JsString)) (a : α)
    (w : List Blank) (s : JsString) :
    more close rest a ((blanks w).flatMap enc ++ unit ',' :: s) =
      (rest s).map fun r => (a :: r.1, r.2) := by
  rw [more, skip_blanks henc]
  rfl

/-- … and anything else has to be the end. -/
theorem more_close {α : Type} {close : Char} (hcomma : unit ',' ≠ unit close)
    (hblank : isBlank (unit close) = false) (rest : JsString → Option (List α × JsString)) (a : α)
    (w : List Blank) (s : JsString) :
    more (unit close) rest a ((blanks w).flatMap enc ++ unit close :: s) = some ([a], s) := by
  rw [more, skip_blanks henc, skip_cons hblank, eat_of_ne hcomma, eat, if_pos rfl]
  rfl

/-- After an element: whitespace, then a comma or the end. -/
theorem ends_separator (w : List Blank) {c : Char} (hc : c = ',' ∨ c = ']' ∨ c = '\x7d')
    (s : JsString) : Ends ((blanks w).flatMap enc ++ unit c :: s) := by
  refine ends_blanks henc w ?_
  intro u hu
  obtain rfl := Option.some.inj hu
  rcases hc with rfl | rfl | rfl <;> decide

/-- An array that is not empty does not close at once. -/
theorem eat_bracket_elements (es : Elements) (s : JsString) :
    eat [unit ']'] (skip (es.chars.flatMap enc ++ s)) = none := by
  have htext : ∀ (w : List Blank) (t : Text) (cs : List Char),
      eat [unit ']'] (skip ((blanks w ++ (t.chars ++ cs)).flatMap enc ++ s)) = none := by
    intro w t cs
    obtain ⟨c, cs', hcs, hascii, -, hclose⟩ := t.head
    rw [List.flatMap_append, List.flatMap_append, List.append_assoc, List.append_assoc,
      skip_blanks henc, skip_text henc, hcs, flatMap_cons_ascii henc hascii]
    exact eat_of_ne hclose _ _
  cases es with
  | last w t w' => exact htext w t _
  | cons w t w' es => exact htext w t _

/-- An object that is not empty does not close at once. -/
theorem eat_brace_members (ms : Members) (s : JsString) :
    eat [unit '\x7d'] (skip (ms.chars.flatMap enc ++ s)) = none := by
  have hkey : ∀ (k : Key) (cs : List Char),
      eat [unit '\x7d'] (skip ((k.chars ++ cs).flatMap enc ++ s)) = none := by
    intro k cs
    rw [Key.chars, List.append_assoc, List.flatMap_append, List.append_assoc, skip_blanks henc,
      List.cons_append, flatMap_cons_ascii henc (by decide)]
    rfl
  cases ms with
  | last k t w' => exact hkey k _
  | cons k t w' ms => exact hkey k _

mutual

theorem value_complete (t : Text) (n : Nat) (s : JsString) (hn : (t.chars.flatMap enc).length ≤ n)
    (hs : Ends s) : value ofRat n (t.chars.flatMap enc ++ s) = some (t.value enc ofRat, s) := by
  obtain ⟨n, rfl⟩ : ∃ m, n = m + 1 := ⟨n - 1, by have := length_text henc t; omega⟩
  cases t with
  | null =>
      rw [flatMap_ascii henc (by simp [Text.chars])]
      rfl
  | bool b =>
      cases b with
      | true =>
          rw [flatMap_ascii henc (by simp [Text.chars])]
          rfl
      | false =>
          rw [flatMap_ascii henc (by simp [Text.chars])]
          rfl
  | num l => exact value_num henc ofRat l n hs
  | str is =>
      simp only [Text.chars, List.flatMap_append, flatMap_cons_ascii henc, Char.reduceToNat,
        Nat.reduceLT, List.append_assoc, List.cons_append, List.flatMap_nil, List.nil_append]
      show (string ((itemChars is).flatMap enc ++ unit '"' :: s)).map _ = _
      rw [string_items henc]
      rfl
  | emptyArr w =>
      simp only [Text.chars, List.flatMap_append, flatMap_cons_ascii henc, Char.reduceToNat,
        Nat.reduceLT, List.append_assoc, List.cons_append, List.flatMap_nil, List.nil_append]
      rw [value_bracket, skip_blanks henc]
      rfl
  | arr es =>
      rw [Text.chars, flatMap_cons_ascii henc (by decide)] at hn ⊢
      rw [List.length_cons] at hn
      rw [List.cons_append, value_bracket, eat_bracket_elements henc]
      show (elements ofRat n _).map _ = _
      rw [elements_complete es n s (by omega)]
      rfl
  | emptyObj w =>
      simp only [Text.chars, List.flatMap_append, flatMap_cons_ascii henc, Char.reduceToNat,
        Nat.reduceLT, List.append_assoc, List.cons_append, List.flatMap_nil, List.nil_append]
      rw [value_brace, skip_blanks henc]
      rfl
  | obj ms =>
      rw [Text.chars, flatMap_cons_ascii henc (by decide)] at hn ⊢
      rw [List.length_cons] at hn
      rw [List.cons_append, value_brace, eat_brace_members henc]
      show (members ofRat n _).map _ = _
      rw [members_complete ms n s (by omega)]
      rfl

theorem elements_complete (es : Elements) (n : Nat) (s : JsString)
    (hn : (es.chars.flatMap enc).length ≤ n) :
    elements ofRat n (es.chars.flatMap enc ++ s) = some (es.values enc ofRat, s) := by
  cases es with
  | last w t w' =>
      simp only [Elements.chars, List.flatMap_append, flatMap_cons_ascii henc, Char.reduceToNat,
        Nat.reduceLT, List.append_assoc, List.cons_append, List.flatMap_nil, List.nil_append,
        List.length_append, List.length_cons] at hn ⊢
      obtain ⟨n, rfl⟩ : ∃ m, n = m + 1 := ⟨n - 1, by omega⟩
      rw [elements, skip_blanks henc, skip_text henc,
        value_complete t n _ (by omega) (ends_separator henc w' (by decide) s)]
      exact more_close henc (by decide) (by decide) _ _ w' s
  | cons w t w' es =>
      simp only [Elements.chars, List.flatMap_append, flatMap_cons_ascii henc, Char.reduceToNat,
        Nat.reduceLT, List.append_assoc, List.cons_append, List.length_append,
        List.length_cons] at hn ⊢
      obtain ⟨n, rfl⟩ : ∃ m, n = m + 1 := ⟨n - 1, by omega⟩
      rw [elements, skip_blanks henc, skip_text henc,
        value_complete t n _ (by omega) (ends_separator henc w' (by decide) _)]
      show more _ _ _ _ = _
      rw [more_comma henc, elements_complete es n s (by omega)]
      rfl

theorem members_complete (ms : Members) (n : Nat) (s : JsString)
    (hn : (ms.chars.flatMap enc).length ≤ n) :
    members ofRat n (ms.chars.flatMap enc ++ s) = some (ms.values enc ofRat, s) := by
  cases ms with
  | last k t w' =>
      simp only [Members.chars, List.flatMap_append, flatMap_cons_ascii henc, Char.reduceToNat,
        Nat.reduceLT, List.append_assoc, List.cons_append, List.flatMap_nil, List.nil_append,
        List.length_append, List.length_cons] at hn ⊢
      obtain ⟨n, rfl⟩ : ∃ m, n = m + 1 := ⟨n - 1, by omega⟩
      rw [members_key henc, skip_text henc,
        value_complete t n _ (by omega) (ends_separator henc w' (by decide) s)]
      exact more_close henc (by decide) (by decide) _ _ w' s
  | cons k t w' ms =>
      simp only [Members.chars, List.flatMap_append, flatMap_cons_ascii henc, Char.reduceToNat,
        Nat.reduceLT, List.append_assoc, List.cons_append, List.length_append,
        List.length_cons] at hn ⊢
      obtain ⟨n, rfl⟩ : ∃ m, n = m + 1 := ⟨n - 1, by omega⟩
      rw [members_key henc, skip_text henc,
        value_complete t n _ (by omega) (ends_separator henc w' (by decide) _)]
      show more _ _ _ _ = _
      rw [more_comma henc, members_complete ms n s (by omega)]
      rfl

end

/-- **Texts are read as what they denote**, in whatever transparent encoding they come. -/
theorem parse_document (d : Document) :
    parse ofRat (d.chars.flatMap enc) = some (d.text.value enc ofRat) := by
  have hafter : Ends ((blanks d.after).flatMap enc) := by
    have := ends_blanks henc d.after (s := []) (by intro c hc; cases hc)
    rwa [List.append_nil] at this
  have hend : skip ((blanks d.after).flatMap enc) = [] := by
    have := skip_blanks henc d.after []
    rwa [List.append_nil] at this
  have hlen : (d.text.chars.flatMap enc).length ≤ (d.chars.flatMap enc).length := by
    simp only [Document.chars, List.flatMap_append, List.length_append]
    omega
  have hvalue := value_complete henc ofRat d.text _ _ hlen hafter
  have hskip : skip (d.chars.flatMap enc) =
      d.text.chars.flatMap enc ++ (blanks d.after).flatMap enc := by
    rw [Document.chars, List.flatMap_append, List.flatMap_append, skip_blanks henc, skip_text henc]
  rw [parse, hskip, hvalue]
  exact if_pos hend

end Texts

end Lib.Json
