import Bibliotheque.Lib.Json

/-! # Texts in JSON

The syntax trees of JSON texts. A tree keeps everything that can be written in more than one way:
whitespace, escapes, the form of a number. `chars` is the text, `value` what it denotes; the value
depends on the encoding, since the characters of a string are encoded as they are.

`get?_value`: where a member with an ASCII name is, and whether it is a number and which, does not
depend on the encoding. -/

namespace Lib.Json

open JsString

/-! ## Numbers -/

def digitChar (d : Fin 10) : Char := Char.ofNat (48 + d)

/-- One digit or more. -/
structure Digits where
  first : Fin 10
  rest : List (Fin 10)

def Digits.list (ds : Digits) : List (Fin 10) := ds.first :: ds.rest

structure Exponent where
  upper : Bool
  /-- `some true` is a minus, `some false` a plus -/
  sign : Option Bool
  digits : Digits

/-- A number as it is written. The integer part is `0` or begins with another digit. -/
structure Literal where
  neg : Bool
  int : Option (Fin 9 × List (Fin 10))
  frac : Option Digits
  exp : Option Exponent

def Exponent.signChars (e : Exponent) : List Char :=
  match e.sign with
  | none => []
  | some true => ['-']
  | some false => ['+']

def Exponent.chars (e : Exponent) : List Char :=
  (if e.upper then 'E' else 'e') :: (e.signChars ++ e.digits.list.map digitChar)

def Exponent.value (e : Exponent) : Int :=
  if e.sign = some true then -(ofDigits e.digits.list : Int) else ofDigits e.digits.list

namespace Literal

def intDigits (l : Literal) : List (Fin 10) :=
  match l.int with
  | none => [zero]
  | some (d, ds) => d.succ :: ds

theorem intDigits_eq_cons (l : Literal) : ∃ d ds, l.intDigits = d :: ds := by
  rw [intDigits]
  cases l.int with
  | none => exact ⟨_, _, rfl⟩
  | some r => exact ⟨_, _, rfl⟩

def fracDigits (l : Literal) : List (Fin 10) :=
  match l.frac with
  | none => []
  | some ds => ds.list

def expValue (l : Literal) : Int :=
  match l.exp with
  | none => 0
  | some e => e.value

def value (l : Literal) : ℚ := decimal l.neg l.intDigits l.fracDigits l.expValue

def fracChars (l : Literal) : List Char :=
  match l.frac with
  | none => []
  | some ds => '.' :: ds.list.map digitChar

def expChars (l : Literal) : List Char :=
  match l.exp with
  | none => []
  | some e => e.chars

def chars (l : Literal) : List Char :=
  (if l.neg then ['-'] else []) ++ (l.intDigits.map digitChar ++ (l.fracChars ++ l.expChars))

end Literal

/-! ## Strings -/

/-- The two-character escapes. -/
inductive Escape where
  | quote | backslash | slash | backspace | formFeed | newline | ret | tab

namespace Escape

def char : Escape → Char
  | quote => '"'
  | backslash => '\\'
  | slash => '/'
  | backspace => 'b'
  | formFeed => 'f'
  | newline => 'n'
  | ret => 'r'
  | tab => 't'

/-- What it stands for. -/
def units : Escape → UInt16
  | quote => unit '"'
  | backslash => unit '\\'
  | slash => unit '/'
  | backspace => 0x08
  | formFeed => 0x0C
  | newline => 0x0A
  | ret => 0x0D
  | tab => 0x09

end Escape

/-- A hexadecimal digit, in the upper or the lower case. -/
abbrev Hex := Fin 16 × Bool

def hexChar (h : Hex) : Char :=
  if h.1.val < 10 then Char.ofNat (48 + h.1) else Char.ofNat ((if h.2 then 55 else 87) + h.1)

/-- A character of a string as it is written. -/
inductive Item where
  | raw (c : Char) (plain : c ≠ '"' ∧ c ≠ '\\' ∧ 0x20 ≤ c.toNat)
  | esc (e : Escape)
  | hex (a b c d : Hex)

namespace Item

def chars : Item → List Char
  | raw c _ => [c]
  | esc e => ['\\', e.char]
  | hex a b c d => ['\\', 'u', hexChar a, hexChar b, hexChar c, hexChar d]

def units (enc : Char → JsString) : Item → JsString
  | raw c _ => enc c
  | esc e => [e.units]
  | hex a b c d => [hexUnit a.1 b.1 c.1 d.1]

end Item

/-- The characters of a string between its quotes, and what they denote. -/
def itemChars (is : List Item) : List Char := is.flatMap Item.chars

def itemUnits (enc : Char → JsString) (is : List Item) : JsString := is.flatMap (Item.units enc)

/-! ## Whole texts -/

inductive Blank where
  | space | tab | newline | ret

def Blank.char : Blank → Char
  | space => ' '
  | tab => '\t'
  | newline => '\n'
  | ret => '\r'

/-- Whitespace as it is written. -/
def blanks (w : List Blank) : List Char := w.map Blank.char

/-- The name of a member with the colon after it. -/
structure Key where
  before : List Blank
  items : List Item
  mid : List Blank
  after : List Blank

def Key.chars (k : Key) : List Char :=
  blanks k.before ++ '"' :: (itemChars k.items ++ '"' :: (blanks k.mid ++ ':' :: blanks k.after))

mutual

inductive Text where
  | null
  | bool (b : Bool)
  | num (l : Literal)
  | str (is : List Item)
  | emptyArr (w : List Blank)
  | arr (es : Elements)
  | emptyObj (w : List Blank)
  | obj (ms : Members)

/-- What follows the opening bracket of an array that is not empty. -/
inductive Elements where
  | last (w : List Blank) (t : Text) (w' : List Blank)
  | cons (w : List Blank) (t : Text) (w' : List Blank) (es : Elements)

/-- What follows the opening brace of an object that is not empty. -/
inductive Members where
  | last (k : Key) (t : Text) (w' : List Blank)
  | cons (k : Key) (t : Text) (w' : List Blank) (ms : Members)

end

mutual

def Text.chars : Text → List Char
  | .null => ['n', 'u', 'l', 'l']
  | .bool true => ['t', 'r', 'u', 'e']
  | .bool false => ['f', 'a', 'l', 's', 'e']
  | .num l => l.chars
  | .str is => '"' :: (itemChars is ++ ['"'])
  | .emptyArr w => '[' :: (blanks w ++ [']'])
  | .arr es => '[' :: es.chars
  | .emptyObj w => '\x7b' :: (blanks w ++ ['\x7d'])
  | .obj ms => '\x7b' :: ms.chars

def Elements.chars : Elements → List Char
  | .last w t w' => blanks w ++ (t.chars ++ (blanks w' ++ [']']))
  | .cons w t w' es => blanks w ++ (t.chars ++ (blanks w' ++ ',' :: es.chars))

def Members.chars : Members → List Char
  | .last k t w' => k.chars ++ (t.chars ++ (blanks w' ++ ['\x7d']))
  | .cons k t w' ms => k.chars ++ (t.chars ++ (blanks w' ++ ',' :: ms.chars))

end

section Values

variable {ν : Type} (enc : Char → JsString) (ofRat : ℚ → ν)

mutual

def Text.value : Text → Json ν
  | .null => .null
  | .bool b => .bool b
  | .num l => .num (ofRat l.value)
  | .str is => .str (itemUnits enc is)
  | .emptyArr _ => .arr []
  | .arr es => .arr es.values
  | .emptyObj _ => .obj []
  | .obj ms => .obj ms.values

def Elements.values : Elements → List (Json ν)
  | .last _ t _ => [t.value]
  | .cons _ t _ es => t.value :: es.values

def Members.values : Members → List (JsString × Json ν)
  | .last k t _ => [(itemUnits enc k.items, t.value)]
  | .cons k t _ ms => (itemUnits enc k.items, t.value) :: ms.values

end

end Values

/-- A text with whitespace around it. -/
structure Document where
  before : List Blank
  text : Text
  after : List Blank

def Document.chars (d : Document) : List Char :=
  blanks d.before ++ (d.text.chars ++ blanks d.after)

/-! ## Members -/

def Members.fields : Members → List (List Item × Text)
  | .last k t _ => [(k.items, t)]
  | .cons k t _ ms => (k.items, t) :: ms.fields

theorem Members.values_eq_map {ν : Type} (enc : Char → JsString) (ofRat : ℚ → ν) :
    ∀ ms : Members, ms.values enc ofRat =
      ms.fields.map fun f => (itemUnits enc f.1, f.2.value enc ofRat)
  | .last _ _ _ => rfl
  | .cons _ _ _ ms => by rw [Members.values, Members.fields, values_eq_map enc ofRat ms]; rfl

/-- The last member with a name. -/
def Text.member? (k : JsString) : Text → Option Text
  | .obj ms => (ms.fields.reverse.find? fun f => itemUnits utf16 f.1 = k).map (·.2)
  | _ => none

section Lookup

variable {enc enc' : Char → JsString}

/-- A string that is ASCII in one encoding is the same in every other. -/
theorem itemUnits_eq_of_ascii (henc : Transparent enc) (henc' : Transparent enc') {is : List Item}
    (h : ∀ u ∈ itemUnits enc is, u.toNat < 0x80) : itemUnits enc' is = itemUnits enc is := by
  induction is with
  | nil => rfl
  | cons i is ih =>
      rw [itemUnits, List.flatMap_cons, List.forall_mem_append] at h
      obtain ⟨hi, his⟩ := h
      have hitem : i.units enc' = i.units enc := by
        cases i with
        | raw c plain =>
            -- a character outside ASCII would leave a unit outside ASCII
            have hc : c.toNat < 0x80 := by
              by_contra hge
              obtain ⟨u, us, hu⟩ := List.exists_cons_of_ne_nil (henc.ne_nil c)
              have hmem : u ∈ enc c := by
                rw [hu]
                exact List.mem_cons_self
              have hhigh := henc.high c (Nat.le_of_not_lt hge) u hmem
              have hlow := hi u hmem
              omega
            rw [Item.units, Item.units, henc.ascii c hc, henc'.ascii c hc]
        | esc e => rfl
        | hex a b c d => rfl
      have hrest := ih his
      rw [itemUnits, itemUnits] at hrest
      rw [itemUnits, itemUnits, List.flatMap_cons, List.flatMap_cons, hitem, hrest]

theorem itemUnits_eq_iff (henc : Transparent enc) (henc' : Transparent enc') {k : JsString}
    (hk : ∀ u ∈ k, u.toNat < 0x80) (is : List Item) :
    itemUnits enc is = k ↔ itemUnits enc' is = k := by
  constructor
  · rintro rfl
    exact itemUnits_eq_of_ascii henc henc' hk
  · rintro rfl
    exact itemUnits_eq_of_ascii henc' henc hk

/-- **A member with an ASCII name is found in every encoding.** -/
theorem get?_value {ν : Type} (henc : Transparent enc) (ofRat : ℚ → ν) {k : JsString}
    (hk : ∀ u ∈ k, u.toNat < 0x80) (t : Text) :
    (t.value enc ofRat).get? k = (t.member? k).map (Text.value enc ofRat) := by
  cases t with
  | obj ms =>
      have hsame : (fun m : JsString × Json ν => decide (m.1 = k)) ∘
          (fun f : List Item × Text => (itemUnits enc f.1, f.2.value enc ofRat)) =
          fun f => decide (itemUnits utf16 f.1 = k) := by
        funext f
        exact decide_eq_decide.mpr (itemUnits_eq_iff henc transparent_utf16 hk f.1)
      rw [Text.value, get?, Members.values_eq_map, ← List.map_reverse, List.find?_map, hsame,
        Text.member?, Option.map_map, Option.map_map]
      rfl
  | bool b => rfl
  | _ => rfl

/-- A number under an ASCII name is the same number in every encoding, up to what `ofRat` does. -/
theorem get?_num {ν : Type} (henc : Transparent enc) (ofRat : ℚ → ν) {k : JsString}
    (hk : ∀ u ∈ k, u.toNat < 0x80) {t : Text} {x : ℚ}
    (h : (t.value utf16 id).get? k = some (.num x)) :
    (t.value enc ofRat).get? k = some (.num (ofRat x)) := by
  rw [get?_value transparent_utf16 id hk, Option.map_eq_some_iff] at h
  obtain ⟨t', hmember, hvalue⟩ := h
  rw [get?_value henc ofRat hk, hmember, Option.map_some]
  cases t' with
  | num l =>
      obtain rfl : l.value = x := by
        rw [Text.value] at hvalue
        exact Json.num.inj hvalue
      rw [Text.value]
  | _ =>
      rw [Text.value] at hvalue
      cases hvalue

end Lookup

end Lib.Json
