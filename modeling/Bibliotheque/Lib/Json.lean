import Bibliotheque.Lib.JsString
import Mathlib.Algebra.Order.Ring.Rat
import Mathlib.Algebra.GroupWithZero.Basic

/-! # Reading JSON

`JSON.parse` on the code units of a string, by recursive descent. Every function takes the units that
are left and gives back what it read with the units after it; `none` is a `SyntaxError`. The values of
a text are nested at most as deep as the text is long, which bounds the recursion.

What numbers are is left open: a literal is read as the rational it denotes, and `ofRat` says what
becomes of it. -/

namespace Lib

/-- A value, with the members of an object in the order of the text. -/
inductive Json (ν : Type) where
  | null
  | bool (b : Bool)
  | num (x : ν)
  | str (s : JsString)
  | arr (vs : List (Json ν))
  | obj (ms : List (JsString × Json ν))

namespace Json

open JsString

variable {ν : Type}

/-- A property of a value. Of members with the same name the last one counts; only objects have
members. -/
def get? (k : JsString) : Json ν → Option (Json ν)
  | .obj ms => (ms.reverse.find? fun m => m.1 = k).map (·.2)
  | _ => none

/-! ## Units -/

def isBlank (c : UInt16) : Bool := c = unit ' ' || c = unit '\t' || c = unit '\n' || c = unit '\r'

def skip (s : JsString) : JsString := s.dropWhile isBlank

/-- The given units, which must come next. -/
def eat : JsString → JsString → Option JsString
  | [], s => some s
  | _ :: _, [] => none
  | c :: w, d :: s => if c = d then eat w s else none

/-! ## Numbers -/

def isDigit (c : UInt16) : Bool := unit '0' ≤ c && c ≤ unit '9'

def digitVal (c : UInt16) : Fin 10 := Fin.ofNat 10 (c - unit '0').toNat

def digits (s : JsString) : List (Fin 10) × JsString :=
  ((s.takeWhile isDigit).map digitVal, s.dropWhile isDigit)

/-- At least one digit. -/
def digits1 (s : JsString) : Option (List (Fin 10) × JsString) :=
  if (digits s).1 = [] then none else some (digits s)

/-- The digit that an integer part consists of or does not begin with. -/
def zero : Fin 10 := 0

/-- No leading zeros. -/
def intPart (s : JsString) : Option (List (Fin 10) × JsString) :=
  match eat [unit '0'] s with
  | some s => some ([zero], s)
  | none => digits1 s

def fracPart (s : JsString) : Option (List (Fin 10) × JsString) :=
  match eat [unit '.'] s with
  | some s => digits1 s
  | none => some ([], s)

/-- An optional sign; is it a minus? -/
def sign (s : JsString) : Bool × JsString :=
  match eat [unit '-'] s with
  | some s => (true, s)
  | none => (false, (eat [unit '+'] s).getD s)

/-- The number that decimal digits denote. -/
def ofDigits (ds : List (Fin 10)) : Nat := ds.foldl (fun n d => 10 * n + d) 0

def expPart (s : JsString) : Option (Int × JsString) :=
  match (eat [unit 'e'] s).or (eat [unit 'E'] s) with
  | some s => do
      let (ds, s') ← digits1 (sign s).2
      return (if (sign s).1 then -(ofDigits ds : Int) else ofDigits ds, s')
  | none => some (0, s)

/-- Sign, digits before and after the point, exponent. -/
def decimal (neg : Bool) (int frac : List (Fin 10)) (exp : Int) : ℚ :=
  (if neg then -1 else 1) * ofDigits (int ++ frac) * 10 ^ (exp - frac.length)

def unsigned (neg : Bool) (s : JsString) : Option (ℚ × JsString) := do
  let (int, s) ← intPart s
  let (frac, s) ← fracPart s
  let (exp, s) ← expPart s
  return (decimal neg int frac exp, s)

def number (s : JsString) : Option (ℚ × JsString) :=
  match eat [unit '-'] s with
  | some s => unsigned true s
  | none => unsigned false s

/-! ## Strings -/

def hexVal? (c : UInt16) : Option (Fin 16) :=
  if isDigit c then some (Fin.ofNat 16 (c - unit '0').toNat)
  else if unit 'a' ≤ c ∧ c ≤ unit 'f' then some (Fin.ofNat 16 ((c - unit 'a').toNat + 10))
  else if unit 'A' ≤ c ∧ c ≤ unit 'F' then some (Fin.ofNat 16 ((c - unit 'A').toNat + 10))
  else none

def hexUnit (a b c d : Fin 16) : UInt16 := UInt16.ofNat (((a * 16 + b) * 16 + c) * 16 + d)

/-- What stands for itself or for a control character after a backslash. -/
def escape? (c : UInt16) : Option UInt16 :=
  if c = unit '"' ∨ c = unit '\\' ∨ c = unit '/' then some c
  else if c = unit 'b' then some 0x08
  else if c = unit 'f' then some 0x0C
  else if c = unit 'n' then some 0x0A
  else if c = unit 'r' then some 0x0D
  else if c = unit 't' then some 0x09
  else none

/-- The rest of a string after its opening quote. Control characters have to be escaped. -/
def string : JsString → Option (JsString × JsString)
  | [] => none
  | c :: s =>
      if c = unit '"' then some ([], s)
      else if c = unit '\\' then
        match s with
        | [] => none
        | e :: s =>
            if e = unit 'u' then
              match s with
              | a :: b :: c :: d :: s => do
                  let (t, s') ← string s
                  return (hexUnit (← hexVal? a) (← hexVal? b) (← hexVal? c) (← hexVal? d) :: t, s')
              | _ => none
            else do
              let (t, s') ← string s
              return ((← escape? e) :: t, s')
      else if c < 0x20 then none
      else do
        let (t, s') ← string s
        return (c :: t, s')

/-! ## Values -/

variable (ofRat : ℚ → ν)

/-- `true`, `false`, `null` or a number. -/
def scalar (s : JsString) : Option (Json ν × JsString) :=
  match eat [unit 't', unit 'r', unit 'u', unit 'e'] s with
  | some s => some (.bool true, s)
  | none =>
    match eat [unit 'f', unit 'a', unit 'l', unit 's', unit 'e'] s with
    | some s => some (.bool false, s)
    | none =>
      match eat [unit 'n', unit 'u', unit 'l', unit 'l'] s with
      | some s => some (.null, s)
      | none => (number s).map fun r => (.num (ofRat r.1), r.2)

/-- After an element: a comma and more of them, or the end. -/
def more {α : Type} (close : UInt16) (rest : JsString → Option (List α × JsString)) (a : α)
    (s : JsString) : Option (List α × JsString) :=
  match eat [unit ','] (skip s) with
  | some s => (rest s).map fun r => (a :: r.1, r.2)
  | none => (eat [close] (skip s)).map fun s => ([a], s)

mutual

/-- A value, without the whitespace around it; `n` bounds the nesting. -/
def value : Nat → JsString → Option (Json ν × JsString)
  | 0, _ => none
  | n + 1, s =>
    -- `\x7b` and `\x7d` are the braces
    match eat [unit '\x7b'] s with
    | some s =>
      match eat [unit '\x7d'] (skip s) with
      | some s => some (.obj [], s)
      | none => (members n s).map fun r => (.obj r.1, r.2)
    | none =>
      match eat [unit '['] s with
      | some s =>
        match eat [unit ']'] (skip s) with
        | some s => some (.arr [], s)
        | none => (elements n s).map fun r => (.arr r.1, r.2)
      | none =>
        match eat [unit '"'] s with
        | some s => (string s).map fun r => (.str r.1, r.2)
        | none => scalar ofRat s

/-- The elements of an array, at least one, and the closing bracket. -/
def elements : Nat → JsString → Option (List (Json ν) × JsString)
  | 0, _ => none
  | n + 1, s => do
      let v ← value n (skip s)
      more (unit ']') (elements n) v.1 v.2

/-- The members of an object, at least one, and the closing brace. -/
def members : Nat → JsString → Option (List (JsString × Json ν) × JsString)
  | 0, _ => none
  | n + 1, s => do
      let s ← eat [unit '"'] (skip s)
      let k ← string s
      let s ← eat [unit ':'] (skip k.2)
      let v ← value n (skip s)
      more (unit '\x7d') (members n) (k.1, v.1) v.2

end

/-- `JSON.parse`. -/
def parse (s : JsString) : Option (Json ν) := do
  let v ← value ofRat s.length (skip s)
  if skip v.2 = [] then return v.1 else none

end Json

end Lib
