import Bibliotheque.Lib.Base64
import Bibliotheque.Lib.Double
import Bibliotheque.Lib.Json.Complete

/-! # The expiry of a token

`isTokenExpired` and `decodeTokenPayload` of `AuthService`, on the strings and numbers of JavaScript.
What can throw is in `Except`: `atob`, `JSON.parse`, and a property of `null`.

The bytes of the payload are taken for characters: `atob` gives one character for each byte, and the
payload is UTF-8. Since that encoding is transparent, `exp` is read all the same
(`isTokenExpired_jwt`). -/

namespace Bibliotheque.Client

open Lib JsString

/-- What is thrown. -/
inductive JsError where
  | invalidCharacter
  | syntaxError
  | typeError
  deriving DecidableEq, Repr

def atob (data : JsString) : Except JsError JsString :=
  match Base64.atob data with
  | some s => .ok s
  | none => .error .invalidCharacter

/-- `JSON.parse`, with the numbers of JavaScript. -/
def parse (s : JsString) : Except JsError (Lib.Json Double) :=
  match Lib.Json.parse Double.round s with
  | some v => .ok v
  | none => .error .syntaxError

/-- A property, if there is one. -/
def property (k : JsString) : Lib.Json Double → Except JsError (Option (Lib.Json Double))
  | .null => .error .typeError
  | v => .ok (v.get? k)

def truthy : Lib.Json Double → Bool
  | .null => false
  | .bool b => b
  | .num x => x ≠ .finite 0
  | .str s => s ≠ []
  | .arr _ => true
  | .obj _ => true

/-- The middle part of a token in the standard alphabet, filled up to a multiple of four. -/
def padded (part : JsString) : JsString :=
  let base64 := replaceAll (unit '_') (unit '/') (replaceAll (unit '-') (unit '+') part)
  base64.padEnd (base64.length + ((4 - base64.length % 4) % 4)) (unit '=')

/-- The payload, or `null`. -/
def decodeTokenPayload (token : JsString) : Except JsError (Lib.Json Double) :=
  match token.splitOn (unit '.') with
  | [_, part, _] =>
      tryCatch (do parse (← atob (padded part))) fun _ => return .null
  | _ => return .null

def expKey : JsString := [unit 'e', unit 'x', unit 'p']

theorem expKey_ascii : ∀ u ∈ expKey, u.toNat < 0x80 := by
  intro u hu
  obtain ⟨c, hc, rfl⟩ := List.mem_map.mp (show u ∈ ['e', 'x', 'p'].map unit from hu)
  have hascii : c.toNat < 0x80 := by
    simp only [List.mem_cons, List.not_mem_nil, or_false] at hc
    rcases hc with rfl | rfl | rfl <;> decide
  rw [toNat_unit hascii]
  exact hascii

/-- `now` is `Date.now()`. -/
def isTokenExpired (token : JsString) (now : Int) : Except JsError Bool := do
  let payload ← decodeTokenPayload token
  if !truthy payload then return true
  match ← property expKey payload with
  | some (.num exp) => return exp.le (Double.round (now / 1000)).floor
  | _ => return true

/-! ## The payload -/

/-- **What `decodeTokenPayload` undoes.** -/
theorem atob_padded_encodeUrl (p : List UInt8) :
    Base64.atob (padded (Base64.encodeUrl p)) = some (latin1 p) := by
  have hlen := Base64.length_sextets p
  have hpad : padded (Base64.encodeUrl p) = (Base64.sextets p).map Base64.digit ++
      List.replicate ((4 - (Base64.sextets p).length % 4) % 4) (unit '=') := by
    simp only [padded, Base64.replaceAll_encodeUrl, padEnd, List.length_map, Nat.add_sub_cancel_left]
  rw [hpad, Base64.atob_map_digit (by omega) (by omega), Base64.octets_sextets]
  rfl

/-- A part whose length is one more than a multiple of four gets three padding characters, which
`atob` does not take. -/
theorem atob_padded_of_length {part : JsString} (h : part.length % 4 = 1) :
    Base64.atob (padded part) = none := by
  simp only [padded, replaceAll, padEnd, List.length_map, Nat.add_sub_cancel_left]
  rw [show (4 - part.length % 4) % 4 = 3 by omega]
  exact Base64.atob_three_pads _

/-- What is caught becomes `null`. -/
def payload (token : JsString) : Lib.Json Double :=
  match token.splitOn (unit '.') with
  | [_, part, _] => ((Base64.atob (padded part)).bind (Lib.Json.parse Double.round)).getD .null
  | _ => .null

theorem decodeTokenPayload_eq (token : JsString) :
    decodeTokenPayload token = .ok (payload token) := by
  rw [decodeTokenPayload, payload]
  split
  · next part _ _ =>
    rw [atob]
    cases Base64.atob (padded part) with
    | none => rfl
    | some s =>
        show tryCatch (parse s) _ = _
        rw [parse, Option.bind_some]
        cases Lib.Json.parse Double.round s <;> rfl
  · rfl

/-- The number under `exp`, if it is one. -/
def expires? (token : JsString) : Option Double :=
  match (payload token).get? expKey with
  | some (.num exp) => some exp
  | _ => none

/-- **`isTokenExpired` never throws**, and without a number under `exp` the token counts as expired.
That a payload is falsy makes no difference: it has no `exp` then. -/
theorem isTokenExpired_eq (token : JsString) (now : Int) :
    isTokenExpired token now =
      .ok ((expires? token).elim true fun exp => exp.le (Double.round (now / 1000)).floor) := by
  rw [isTokenExpired, decodeTokenPayload_eq, expires?]
  show (if !truthy (payload token) then pure true
    else property expKey (payload token) >>= _ : Except JsError Bool) = _
  cases payload token with
  | null => rfl
  | bool b => cases b <;> rfl
  | num x => cases truthy (.num x) <;> rfl
  | str t => cases truthy (.str t) <;> rfl
  | arr vs => rfl
  | obj ms =>
      show (match (Lib.Json.obj ms).get? expKey with
        | some (.num exp) => pure (exp.le (Double.round (now / 1000)).floor)
        | _ => pure true : Except JsError Bool) = _
      cases (Lib.Json.obj ms).get? expKey with
      | none => rfl
      | some v => cases v <;> rfl

/-! ## The clock -/

/-- A time value of ECMAScript: milliseconds, within a hundred million days of the epoch. -/
structure TimeValue where
  ms : Int
  bounded : |ms| ≤ 8640000000000000

/-- `Math.floor(Date.now() / 1000)` is the whole seconds: the quotient is rounded, but not up to the
next second. -/
theorem floor_seconds (now : TimeValue) :
    (Double.round (now.ms / 1000)).floor = .finite ((now.ms / 1000 : Int) : ℚ) := by
  have hbound := now.bounded
  have h := Double.floor_round_div (t := now.ms) (d := 1000) (k := 43) (by norm_num) (by omega)
    (by norm_num)
  exact_mod_cast h

/-- Below `2 ^ 53` the comparison is that of the integers. -/
theorem le_floor_seconds {z : Int} (hz : z < 2 ^ 53) (now : TimeValue) :
    (Double.round z).le (Double.round (now.ms / 1000)).floor = decide (z ≤ now.ms / 1000) := by
  have hbound := now.bounded
  rw [abs_le] at hbound
  rw [floor_seconds]
  rcases lt_or_ge (-2 ^ 53) z with hlow | hlow
  · rw [Double.round_intCast (abs_lt.mpr ⟨hlow, hz⟩)]
    show decide ((z : ℚ) ≤ ((now.ms / 1000 : Int) : ℚ)) = _
    exact decide_eq_decide.mpr Int.cast_le
  · -- too long ago for an exact double, and before every time value
    rw [Double.round_le_of_le (by exact_mod_cast hlow) (by exact_mod_cast (by omega)),
      decide_eq_true (by omega)]

/-! ## Tokens -/

/-- A token with the payload `p`. -/
def jwt (header : JsString) (p : List UInt8) (signature : JsString) : JsString :=
  header ++ unit '.' :: (Base64.encodeUrl p ++ unit '.' :: signature)

section Jwt

variable {header signature : JsString} (hheader : unit '.' ∉ header) (hsignature : unit '.' ∉ signature)
include hheader hsignature

theorem payload_jwt (p : List UInt8) :
    payload (jwt header p signature) = (Lib.Json.parse Double.round (latin1 p)).getD .null := by
  rw [payload, jwt, splitOn_three hheader (Base64.dot_notMem_encodeUrl p) hsignature]
  simp only [atob_padded_encodeUrl, Option.bind_some]

/-- The payload is read in the wrong encoding, and `exp` is found in it. -/
theorem expires?_jwt {d : Lib.Json.Document} {x : ℚ}
    (hexp : (d.text.value utf16 id).get? expKey = some (.num x)) :
    expires? (jwt header (utf8 d.chars) signature) = some (Double.round x) := by
  have hvalue : payload (jwt header (utf8 d.chars) signature) =
      d.text.value utf8Latin1 Double.round := by
    rw [payload_jwt hheader hsignature, latin1_utf8,
      Lib.Json.parse_document transparent_utf8Latin1 Double.round d, Option.getD_some]
  rw [expires?, hvalue, Lib.Json.get?_num transparent_utf8Latin1 Double.round expKey_ascii hexp]

theorem isTokenExpired_jwt {d : Lib.Json.Document} {exp : Int}
    (hexp : (d.text.value utf16 id).get? expKey = some (.num (exp : ℚ))) (hlt : exp < 2 ^ 53)
    (now : TimeValue) :
    isTokenExpired (jwt header (utf8 d.chars) signature) now.ms =
      .ok (decide (exp ≤ now.ms / 1000)) := by
  rw [isTokenExpired_eq, expires?_jwt hheader hsignature hexp, Option.elim_some,
    le_floor_seconds hlt]

end Jwt

theorem expires?_of_length {token : JsString} (h : (token.splitOn (unit '.')).length ≠ 3) :
    expires? token = none := by
  have hnull : payload token = .null := by
    rw [payload]
    split
    · next hparts =>
      rw [hparts] at h
      exact absurd rfl h
    · rfl
  rw [expires?, hnull]
  rfl

theorem payload_of_parts {token header part signature : JsString}
    (h : token.splitOn (unit '.') = [header, part, signature]) :
    payload token = ((Base64.atob (padded part)).bind (Lib.Json.parse Double.round)).getD .null := by
  rw [payload, h]

/-- **The expiry of a token is read from every well-formed token.** The payload is decoded to its
bytes; with an integer below `2 ^ 53` under `exp`, whatever else the payload holds and however it is
written, the token is expired exactly from that second on; and every other string gives an answer,
which is "expired" when there are not three parts, when the payload cannot be decoded or parsed, and
when `exp` is not a number. -/
theorem isTokenExpired_correct :
    (∀ p : List UInt8, Base64.atob (padded (Base64.encodeUrl p)) = some (latin1 p)) ∧
    (∀ (d : Lib.Json.Document) (exp : Int) (header signature : JsString) (now : TimeValue),
      (d.text.value utf16 id).get? expKey = some (.num (exp : ℚ)) → exp < 2 ^ 53 →
      unit '.' ∉ header → unit '.' ∉ signature →
      isTokenExpired (jwt header (utf8 d.chars) signature) now.ms =
        .ok (decide (exp ≤ now.ms / 1000))) ∧
    (∀ (token : JsString) (now : Int), ∃ b, isTokenExpired token now = .ok b ∧
      ((token.splitOn (unit '.')).length ≠ 3 → b = true) ∧
      (∀ header part signature, token.splitOn (unit '.') = [header, part, signature] →
        (part.length % 4 = 1 → b = true) ∧
        (Base64.atob (padded part) = none → b = true) ∧
        (∀ s, Base64.atob (padded part) = some s → Lib.Json.parse Double.round s = none → b = true) ∧
        (∀ s v, Base64.atob (padded part) = some s → Lib.Json.parse Double.round s = some v →
          (∀ x, v.get? expKey ≠ some (.num x)) → b = true))) := by
  refine ⟨atob_padded_encodeUrl, ?_, ?_⟩
  · intro d exp header signature now hexp hlt hheader hsignature
    exact isTokenExpired_jwt hheader hsignature hexp hlt now
  · intro token now
    refine ⟨_, isTokenExpired_eq token now, ?_, ?_⟩
    · intro hlength
      rw [expires?_of_length hlength, Option.elim_none]
    · intro header part signature hparts
      have hpayload := payload_of_parts hparts
      -- without a payload there is no number under `exp`
      have hnone : Base64.atob (padded part) = none → expires? token = none := by
        intro hatob
        rw [expires?, hpayload, hatob]
        rfl
      refine ⟨?_, ?_, ?_, ?_⟩
      · intro hlength
        rw [hnone (atob_padded_of_length hlength), Option.elim_none]
      · intro hatob
        rw [hnone hatob, Option.elim_none]
      · intro s hatob hparse
        rw [expires?, hpayload, hatob, Option.bind_some, hparse]
        rfl
      · intro s v hatob hparse hnum
        have hexp : expires? token = none := by
          rw [expires?, hpayload, hatob, Option.bind_some, hparse, Option.getD_some]
          split
          · next exp hget => exact absurd hget (hnum exp)
          · rfl
        rw [hexp, Option.elim_none]

/-- `{"nom":"é","exp":900}`. -/
def chargeUtile : Lib.Json.Document where
  before := []
  text := .obj
    (.cons ⟨[], [.raw 'n' (by decide), .raw 'o' (by decide), .raw 'm' (by decide)], [], []⟩
      (.str [.raw 'é' (by decide)]) []
      (.last ⟨[], [.raw 'e' (by decide), .raw 'x' (by decide), .raw 'p' (by decide)], [], []⟩
        (.num ⟨false, some (Fin.last 8, [Lib.Json.zero, Lib.Json.zero]), none, none⟩) []))
  after := []

theorem chargeUtile_exp :
    (chargeUtile.text.value utf16 id).get? expKey = some (.num ((900 : Int) : ℚ)) := by
  have hvalue : (⟨false, some (Fin.last 8, [Lib.Json.zero, Lib.Json.zero]), none, none⟩ :
      Lib.Json.Literal).value = ((900 : Int) : ℚ) := by
    norm_num [Lib.Json.Literal.value, Lib.Json.Literal.intDigits, Lib.Json.Literal.fracDigits,
      Lib.Json.Literal.expValue, Lib.Json.decimal, Lib.Json.ofDigits, Lib.Json.zero]
  rw [← hvalue]
  rfl

theorem isTokenExpired_chargeUtile :
    let token := jwt [unit 'h'] (utf8 chargeUtile.chars) [unit 's']
    isTokenExpired token 899999 = .ok false ∧ isTokenExpired token 900000 = .ok true := by
  have h := isTokenExpired_correct.2.1 chargeUtile 900 [unit 'h'] [unit 's']
  exact ⟨h ⟨899999, by decide⟩ chargeUtile_exp (by decide) (by decide) (by decide),
    h ⟨900000, by decide⟩ chargeUtile_exp (by decide) (by decide) (by decide)⟩

end Bibliotheque.Client
