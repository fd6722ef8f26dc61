import Bibliotheque.Lib.Json.Complete

/-! # Writing JSON

`JSON.stringify` writes a value without whitespace. In strings it escapes quotes, backslashes, control
characters and surrogates that have lost their other half; everything else stays as it is. How a number
is printed is left open, as it was for reading: `print` gives the literal, or none for what JSON has no
number for, and then `null` is written.

`parse_stringify`: a value is read back from what was written, as long as its numbers are. -/

namespace Lib.Json

open JsString

/-! ## Strings -/

/-- The first and the second half of a character outside the basic plane. -/
def isHigh (u : UInt16) : Bool := decide (0xD800 ≤ u.toNat) && decide (u.toNat < 0xDC00)

def isLow (u : UInt16) : Bool := decide (0xDC00 ≤ u.toNat) && decide (u.toNat < 0xE000)

def pair (u v : UInt16) : Char :=
  Char.ofNat (0x10000 + (u.toNat - 0xD800) * 0x400 + (v.toNat - 0xDC00))

/-- The escapes that are used; a slash stays as it is. -/
def escapeOf? (u : UInt16) : Option Escape :=
  if u = unit '"' then some .quote
  else if u = unit '\\' then some .backslash
  else if u = 0x08 then some .backspace
  else if u = 0x0C then some .formFeed
  else if u = 0x0A then some .newline
  else if u = 0x0D then some .ret
  else if u = 0x09 then some .tab
  else none

/-- A hexadecimal digit in the lower case. -/
def nibble (n : Nat) : Hex := (⟨n % 16, Nat.mod_lt n (by decide)⟩, false)

def hexItem (u : UInt16) : Item :=
  .hex (nibble (u.toNat / 0x1000)) (nibble (u.toNat / 0x100)) (nibble (u.toNat / 0x10))
    (nibble u.toNat)

/-- A unit that is not half of a pair. -/
def unitItem (u : UInt16) : Item :=
  match escapeOf? u with
  | some e => .esc e
  | none =>
      if h : (isHigh u = false ∧ isLow u = false) ∧ Char.ofNat u.toNat ≠ '"' ∧
          Char.ofNat u.toNat ≠ '\\' ∧ 0x20 ≤ (Char.ofNat u.toNat).toNat then
        .raw (Char.ofNat u.toNat) h.2
      else hexItem u

theorem toNat_ofNat_of_valid {n : Nat} (h : n.isValidChar) : (Char.ofNat n).toNat = n := by
  rw [Char.ofNat, dif_pos h]
  rfl

theorem toNat_pair {u v : UInt16} (hu : isHigh u = true) (hv : isLow v = true) :
    (pair u v).toNat = 0x10000 + (u.toNat - 0xD800) * 0x400 + (v.toNat - 0xDC00) := by
  simp only [isHigh, isLow, Bool.and_eq_true, decide_eq_true_eq] at hu hv
  refine toNat_ofNat_of_valid (Or.inr ?_)
  omega

theorem plain_pair {u v : UInt16} (hu : isHigh u = true) (hv : isLow v = true) :
    pair u v ≠ '"' ∧ pair u v ≠ '\\' ∧ 0x20 ≤ (pair u v).toNat := by
  have hnat := toNat_pair hu hv
  refine ⟨?_, ?_, by omega⟩
  all_goals
    intro heq
    rw [heq] at hnat
    simp only [Char.reduceToNat] at hnat
    omega

/-- A string as it is written between its quotes. -/
def items : JsString → List Item
  | [] => []
  | [u] => [unitItem u]
  | u :: v :: s =>
      if h : isHigh u = true ∧ isLow v = true then .raw (pair u v) (plain_pair h.1 h.2) :: items s
      else unitItem u :: items (v :: s)

theorem units_hexItem (enc : Char → JsString) (u : UInt16) : (hexItem u).units enc = [u] := by
  have hlt := u.toNat_lt
  simp only [hexItem, Item.units, nibble, hexUnit, List.cons.injEq, and_true]
  apply UInt16.toNat_inj.mp
  rw [UInt16.toNat_ofNat']
  omega

theorem units_escapeOf? {u : UInt16} {e : Escape} (h : escapeOf? u = some e) : e.units = u := by
  unfold escapeOf? at h
  split_ifs at h with h₁ h₂ h₃ h₄ h₅ h₆ h₇
  all_goals
    cases h
    simp [Escape.units, *]

theorem units_unitItem (u : UInt16) : (unitItem u).units utf16 = [u] := by
  unfold unitItem
  split
  · next e he => rw [Item.units, units_escapeOf? he]
  · split
    · next h =>
      have hlt := u.toNat_lt
      have hvalid : u.toNat.isValidChar := by
        obtain ⟨hhigh, hlow⟩ := h.1
        simp only [isHigh, isLow, Bool.and_eq_false_iff, decide_eq_false_iff_not] at hhigh hlow
        unfold Nat.isValidChar
        omega
      have hnat := toNat_ofNat_of_valid hvalid
      rw [Item.units, utf16, if_pos (by omega), unit, hnat, UInt16.ofNat_toNat]
    · exact units_hexItem utf16 u

theorem utf16_pair {u v : UInt16} (hu : isHigh u = true) (hv : isLow v = true) :
    utf16 (pair u v) = [u, v] := by
  have hnat := toNat_pair hu hv
  simp only [isHigh, isLow, Bool.and_eq_true, decide_eq_true_eq] at hu hv
  have hsum : 0x10000 + (u.toNat - 0xD800) * 0x400 + (v.toNat - 0xDC00) - 0x10000 =
      (u.toNat - 0xD800) * 0x400 + (v.toNat - 0xDC00) := by omega
  have hfirst : UInt16.ofNat (0xD800 + ((u.toNat - 0xD800) * 0x400 + (v.toNat - 0xDC00)) / 0x400) =
      u := by
    apply UInt16.toNat_inj.mp
    rw [UInt16.toNat_ofNat']
    omega
  have hsecond : UInt16.ofNat (0xDC00 + ((u.toNat - 0xD800) * 0x400 + (v.toNat - 0xDC00)) % 0x400) =
      v := by
    apply UInt16.toNat_inj.mp
    rw [UInt16.toNat_ofNat']
    omega
  rw [utf16, if_neg (by omega), hnat, hsum, hfirst, hsecond]

/-- **What is written of a string denotes the string.** -/
theorem itemUnits_items (s : JsString) : itemUnits utf16 (items s) = s := by
  fun_induction items s with
  | case1 => rfl
  | case2 u => simp [itemUnits, units_unitItem]
  | case3 u v s h ih =>
      rw [itemUnits, List.flatMap_cons, Item.units, utf16_pair h.1 h.2]
      exact congrArg (u :: v :: ·) ih
  | case4 u v s h ih =>
      rw [itemUnits, List.flatMap_cons, units_unitItem]
      exact congrArg (u :: ·) ih

/-! ## Natural numbers -/

/-- The decimal digits. -/
def decimals (n : Nat) : List (Fin 10) :=
  if n < 10 then [Fin.ofNat 10 n] else decimals (n / 10) ++ [Fin.ofNat 10 n]

/-- How `Number::toString` prints a natural number below `10 ^ 21`. -/
def natLiteral (n : Nat) : Literal :=
  match decimals n with
  | [] => ⟨false, none, none, none⟩
  | d :: ds =>
      if h : d = 0 then ⟨false, none, none, none⟩ else ⟨false, some (d.pred h, ds), none, none⟩

theorem ofDigits_append_singleton (ds : List (Fin 10)) (d : Fin 10) :
    ofDigits (ds ++ [d]) = 10 * ofDigits ds + d := by
  simp [ofDigits]

theorem ofDigits_decimals (n : Nat) : ofDigits (decimals n) = n := by
  fun_induction decimals n with
  | case1 n h =>
      have hval := ofDigits_append_singleton [] (Fin.ofNat 10 n)
      rw [List.nil_append, Fin.val_ofNat] at hval
      rw [hval]
      show 10 * 0 + n % 10 = n
      omega
  | case2 n h ih =>
      rw [ofDigits_append_singleton, ih, Fin.val_ofNat]
      omega

/-- Only zero is written with a zero in front. -/
theorem decimals_eq_cons (n : Nat) :
    ∃ d ds, decimals n = d :: ds ∧ (d = 0 → n = 0 ∧ ds = []) := by
  fun_induction decimals n with
  | case1 n h =>
      refine ⟨_, [], rfl, fun hzero => ⟨?_, rfl⟩⟩
      have hval := congrArg Fin.val hzero
      simp only [Fin.val_ofNat, Fin.val_zero] at hval
      omega
  | case2 n h ih =>
      obtain ⟨d, ds, heq, hzero⟩ := ih
      refine ⟨d, ds ++ [Fin.ofNat 10 n], by rw [heq, List.cons_append], fun hd => ?_⟩
      have := (hzero hd).1
      omega

theorem intDigits_natLiteral (n : Nat) : (natLiteral n).intDigits = decimals n := by
  obtain ⟨d, ds, heq, hzero⟩ := decimals_eq_cons n
  rw [natLiteral, heq]
  dsimp only
  split
  · next hd =>
    obtain ⟨-, rfl⟩ := hzero hd
    rw [hd]
    rfl
  · next hd =>
    show (d.pred hd).succ :: ds = d :: ds
    rw [Fin.succ_pred]

/-- **A printed number is read back.** -/
theorem value_natLiteral (n : Nat) : (natLiteral n).value = n := by
  have hint := intDigits_natLiteral n
  have hshape : (natLiteral n).neg = false ∧ (natLiteral n).frac = none ∧
      (natLiteral n).exp = none := by
    unfold natLiteral
    split
    · exact ⟨rfl, rfl, rfl⟩
    · split <;> exact ⟨rfl, rfl, rfl⟩
  obtain ⟨hneg, hfrac, hexp⟩ := hshape
  rw [Literal.value, hint, Literal.fracDigits, hfrac, Literal.expValue, hexp, hneg, decimal,
    List.append_nil, ofDigits_decimals]
  simp

/-! ## Values -/

def keyText (k : JsString) : Key := ⟨[], items k, [], []⟩

def elementsOf : Text → List Text → Elements
  | t, [] => .last [] t []
  | t, t' :: ts => .cons [] t [] (elementsOf t' ts)

def membersOf : Key × Text → List (Key × Text) → Members
  | m, [] => .last m.1 m.2 []
  | m, m' :: ms => .cons m.1 m.2 [] (membersOf m' ms)

def arrayOf : List Text → Text
  | [] => .emptyArr []
  | t :: ts => .arr (elementsOf t ts)

def objectOf : List (Key × Text) → Text
  | [] => .emptyObj []
  | m :: ms => .obj (membersOf m ms)

section Values

variable {ν : Type} (print : ν → Option Literal) (ofRat : ℚ → ν)

mutual

/-- The text of a value. -/
def canonical : Json ν → Text
  | .null => .null
  | .bool b => .bool b
  | .num x => (print x).elim .null .num
  | .str s => .str (items s)
  | .arr vs => arrayOf (canonicals vs)
  | .obj ms => objectOf (canonicalMembers ms)

def canonicals : List (Json ν) → List Text
  | [] => []
  | v :: vs => canonical v :: canonicals vs

def canonicalMembers : List (JsString × Json ν) → List (Key × Text)
  | [] => []
  | (k, v) :: ms => (keyText k, canonical v) :: canonicalMembers ms

end

/-- `JSON.stringify`. -/
def stringify (v : Json ν) : JsString := (canonical print v).chars.flatMap utf16

/-- The numbers of the value are read back from what is printed. -/
inductive Printable : Json ν → Prop
  | null : Printable .null
  | bool (b : Bool) : Printable (.bool b)
  | num (x : ν) (l : Literal) : print x = some l → ofRat l.value = x → Printable (.num x)
  | str (s : JsString) : Printable (.str s)
  | arr (vs : List (Json ν)) : (∀ v ∈ vs, Printable v) → Printable (.arr vs)
  | obj (ms : List (JsString × Json ν)) : (∀ m ∈ ms, Printable m.2) → Printable (.obj ms)

variable {print ofRat}

theorem canonicals_eq_map (vs : List (Json ν)) : canonicals print vs = vs.map (canonical print) := by
  induction vs with
  | nil => rw [canonicals, List.map_nil]
  | cons v vs ih => rw [canonicals, List.map_cons, ih]

theorem canonicalMembers_eq_map (ms : List (JsString × Json ν)) :
    canonicalMembers print ms = ms.map fun m => (keyText m.1, canonical print m.2) := by
  induction ms with
  | nil => rw [canonicalMembers, List.map_nil]
  | cons m ms ih => rw [canonicalMembers, List.map_cons, ih]

theorem values_elementsOf (enc : Char → JsString) (t : Text) (ts : List Text) :
    (elementsOf t ts).values enc ofRat = (t :: ts).map (Text.value enc ofRat) := by
  induction ts generalizing t with
  | nil => rfl
  | cons t' ts ih =>
      rw [elementsOf, Elements.values, ih]
      rfl

theorem values_membersOf (enc : Char → JsString) (m : Key × Text) (ms : List (Key × Text)) :
    (membersOf m ms).values enc ofRat =
      (m :: ms).map fun m => (itemUnits enc m.1.items, m.2.value enc ofRat) := by
  induction ms generalizing m with
  | nil => rfl
  | cons m' ms ih =>
      rw [membersOf, Members.values, ih]
      rfl

theorem value_arrayOf (enc : Char → JsString) (ts : List Text) :
    (arrayOf ts).value enc ofRat = .arr (ts.map (Text.value enc ofRat)) := by
  cases ts with
  | nil => rfl
  | cons t ts => rw [arrayOf, Text.value, values_elementsOf]

theorem value_objectOf (enc : Char → JsString) (ms : List (Key × Text)) :
    (objectOf ms).value enc ofRat =
      .obj (ms.map fun m => (itemUnits enc m.1.items, m.2.value enc ofRat)) := by
  cases ms with
  | nil => rfl
  | cons m ms => rw [objectOf, Text.value, values_membersOf]

/-- **The text of a value denotes the value.** -/
theorem value_canonical {v : Json ν} (h : Printable print ofRat v) :
    (canonical print v).value utf16 ofRat = v := by
  induction h with
  | null => rfl
  | bool b => rfl
  | num x l hl hx =>
      rw [canonical, hl]
      exact congrArg Json.num hx
  | str s => rw [canonical, Text.value, itemUnits_items]
  | arr vs _ ih =>
      rw [canonical, value_arrayOf, canonicals_eq_map, List.map_map]
      exact congrArg Json.arr ((List.map_congr_left ih).trans (List.map_id vs))
  | obj ms _ ih =>
      rw [canonical, value_objectOf, canonicalMembers_eq_map, List.map_map]
      refine congrArg Json.obj ((List.map_congr_left ?_).trans (List.map_id ms))
      intro m hm
      simp only [Function.comp_apply, keyText, itemUnits_items, ih m hm, id_eq]

/-- **What is written is read back.** -/
theorem parse_stringify {v : Json ν} (h : Printable print ofRat v) :
    parse ofRat (stringify print v) = some v := by
  have hparse := parse_document transparent_utf16 ofRat ⟨[], canonical print v, []⟩
  rw [value_canonical h, Document.chars, blanks, List.map_nil, List.nil_append,
    List.append_nil] at hparse
  exact hparse

end Values

end Lib.Json
