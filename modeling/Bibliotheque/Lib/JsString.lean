import Mathlib.Data.List.Basic

/-! # Strings of JavaScript

A string is the list of its UTF-16 code units. A text becomes such a string by way of an encoding of
its characters: the right one is `utf16`, and `utf8Latin1` is what one gets by taking the bytes of the
UTF-8 encoding for characters.

Both are `Transparent`: ASCII stays what it is and nothing else turns into ASCII. A program that looks
for ASCII only cannot tell them apart. -/

namespace Lib

abbrev JsString := List UInt16

namespace JsString

/-- The code unit of a character of the basic plane. -/
def unit (c : Char) : UInt16 := UInt16.ofNat c.toNat

theorem toNat_unit {c : Char} (hc : c.toNat < 0x80) : (unit c).toNat = c.toNat := by
  rw [unit, UInt16.toNat_ofNat']
  omega

theorem unit_ne {c d : Char} (hc : c.toNat < 0x80) (hd : d.toNat < 0x80) (h : c ≠ d) :
    unit c ≠ unit d := by
  intro heq
  have hnat := congrArg UInt16.toNat heq
  rw [toNat_unit hc, toNat_unit hd] at hnat
  exact h (Char.toNat_inj.mp hnat)

/-- `String.prototype.replace` with a regular expression that is one character, everywhere. -/
def replaceAll (a b : UInt16) (s : JsString) : JsString := s.map fun c => if c = a then b else c

/-- `String.prototype.padEnd` with a filling of one unit. -/
def padEnd (s : JsString) (n : Nat) (c : UInt16) : JsString := s ++ List.replicate (n - s.length) c

/-- Three parts without the separator are what a split gives back. -/
theorem splitOn_three {sep : UInt16} {a b c : JsString} (ha : sep ∉ a) (hb : sep ∉ b) (hc : sep ∉ c) :
    (a ++ sep :: (b ++ sep :: c)).splitOn sep = [a, b, c] := by
  rw [List.splitOn_append_cons_self_of_not_mem ha, List.splitOn_append_cons_self_of_not_mem hb,
    List.splitOn_eq_singleton hc]

/-! ## Encodings -/

/-- One unit, or a pair of surrogates. -/
def utf16 (c : Char) : JsString :=
  if c.toNat < 0x10000 then [unit c]
  else
    [UInt16.ofNat (0xD800 + (c.toNat - 0x10000) / 0x400),
      UInt16.ofNat (0xDC00 + (c.toNat - 0x10000) % 0x400)]

/-- Bytes for characters. -/
def latin1 (p : List UInt8) : JsString := p.map UInt8.toUInt16

def utf8Latin1 (c : Char) : JsString := latin1 (String.utf8EncodeChar c)

/-- The bytes of a text. -/
def utf8 (cs : List Char) : List UInt8 := cs.flatMap String.utf8EncodeChar

theorem latin1_utf8 (cs : List Char) : latin1 (utf8 cs) = cs.flatMap utf8Latin1 := by
  rw [latin1, utf8, List.map_flatMap]
  rfl

/-- ASCII stays what it is and nothing else turns into ASCII. -/
structure Transparent (enc : Char → JsString) : Prop where
  ascii : ∀ c : Char, c.toNat < 0x80 → enc c = [unit c]
  ne_nil : ∀ c, enc c ≠ []
  high : ∀ c : Char, 0x80 ≤ c.toNat → ∀ u ∈ enc c, 0x80 ≤ u.toNat

theorem toNat_lt_size (c : Char) : c.toNat < 0x110000 := by
  have := c.valid
  simp only [UInt32.isValidChar, Nat.isValidChar] at this
  show c.val.toNat < 0x110000
  omega

theorem transparent_utf16 : Transparent utf16 := by
  constructor
  · intro c hc
    rw [utf16, if_pos (by omega)]
  · intro c
    rw [utf16]
    split
    · exact List.cons_ne_nil _ _
    · exact List.cons_ne_nil _ _
  · intro c hc u hu
    have hsize := toNat_lt_size c
    rw [utf16] at hu
    split at hu
    · obtain rfl := List.mem_singleton.mp hu
      rw [unit, UInt16.toNat_ofNat']
      omega
    · simp only [List.mem_cons, List.not_mem_nil, or_false] at hu
      rcases hu with rfl | rfl
      · rw [UInt16.toNat_ofNat']
        omega
      · rw [UInt16.toNat_ofNat']
        omega

theorem transparent_utf8Latin1 : Transparent utf8Latin1 := by
  constructor
  · intro c hc
    have hbyte : (UInt8.ofNat c.toNat).toUInt16 = unit c := by
      apply UInt16.toNat_inj.mp
      rw [UInt8.toNat_toUInt16, UInt8.toNat_ofNat', unit, UInt16.toNat_ofNat']
      omega
    have hone : String.utf8EncodeChar c = [UInt8.ofNat c.toNat] :=
      if_pos (show c.val.toNat ≤ 0x7f from Nat.le_of_lt_succ hc)
    rw [utf8Latin1, hone, latin1, List.map_singleton, hbyte]
  · intro c hnil
    exact String.utf8EncodeChar_ne_nil (List.map_eq_nil_iff.mp hnil)
  · intro c hc u hu
    obtain ⟨b, hb, rfl⟩ := List.mem_map.mp hu
    have hc : 0x80 ≤ c.val.toNat := hc
    rw [UInt8.toNat_toUInt16]
    rw [String.utf8EncodeChar, if_neg (by omega)] at hb
    split_ifs at hb with htwo hthree
    · simp only [List.mem_cons, List.not_mem_nil, or_false] at hb
      rcases hb with rfl | rfl <;> rw [UInt8.toNat_ofNat'] <;> omega
    · simp only [List.mem_cons, List.not_mem_nil, or_false] at hb
      rcases hb with rfl | rfl | rfl <;> rw [UInt8.toNat_ofNat'] <;> omega
    · simp only [List.mem_cons, List.not_mem_nil, or_false] at hb
      rcases hb with rfl | rfl | rfl | rfl <;> rw [UInt8.toNat_ofNat'] <;> omega

end JsString

end Lib
