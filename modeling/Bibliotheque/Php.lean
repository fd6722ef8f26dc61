import Mathlib.Data.Rat.Defs

/-! # Decoded request bodies and the surroundings of the code

The controllers read their payload with `json_decode($request->getContent(), true)`. `Json` is the
value that call returns: objects become associative arrays, an undecodable body becomes `null`.
What PHP then does with such a value — truthiness, reading a key, passing it where a `string` is
declared — is defined here once.

`Env` gathers what the code calls but does not contain: the collation of the `utilisateur.email`
column, the password hasher, the key Doctrine binds for an identifier, the database's text
functions and PHP's date parser. Every result is stated for an arbitrary `Env`. -/

namespace Bibliotheque

/-- A value returned by `json_decode(…, true)`. -/
inductive Json where
  | null
  | bool (b : Bool)
  | int (n : Int)
  | float (x : Rat)
  | str (s : String)
  | list (vs : List Json)
  | obj (fields : List (String × Json))

namespace Json

/-- PHP's conversion to `bool`. -/
def truthy : Json → Bool
  | null => false
  | bool b => b
  | int n => n != 0
  | float x => x != 0
  | str s => s != "" && s != "0"
  | list vs => !vs.isEmpty
  | obj fields => !fields.isEmpty

/-- `$data[k] ?? null`: anything but an associative array holding the key gives `null`. -/
def key (k : String) : Json → Json
  | obj fields => ((fields.find? (fun f => f.1 == k)).map Prod.snd).getD null
  | _ => null

/-- `is_array($data)`. -/
def isArray : Json → Bool
  | list _ => true
  | obj _ => true
  | _ => false

/-- `is_string($v)` together with the string. -/
def asString? : Json → Option String
  | str s => some s
  | _ => none

end Json

/-- `empty($s)` of a string. -/
def emptyText (s : String) : Bool := s == "" || s == "0"

/-- What the hasher refuses to hash and to verify: more than `MAX_PASSWORD_LENGTH` bytes. -/
def tooLong (password : String) : Bool := decide (4096 < password.utf8ByteSize)

/-- What the code relies on and does not contain. -/
structure Env where
  /-- Sort key under which the database compares e-mails (the collation of the column). -/
  collation : String → String
  /-- The integer Doctrine's `find` binds for a decoded identifier; `none` when it throws. -/
  entityId : Json → Option Nat
  /-- How PHP prints a float. -/
  floatText : Rat → String
  /-- `UserPasswordHasherInterface::hashPassword`, where it does not throw. -/
  hashPassword : String → String
  /-- Whether a stored hash accepts a plain password. -/
  verifyPassword : String → String → Bool
  /-- Whether a stored hash was made with outdated parameters. -/
  needsRehash : String → Bool
  /-- SQL `LOWER`. -/
  lower : String → String
  /-- SQL `LIKE`: value, then pattern. -/
  like : String → String → Bool
  /-- `new \DateTime($value)`; `none` when it throws. -/
  parseDateTime : String → Option Int

/-- Plain surroundings for concrete runs: e-mails and texts compared as they are, integer
identifiers, passwords kept in clear. -/
def Env.plain : Env where
  collation := fun s => s
  entityId
    | .int n => some n.toNat
    | _ => none
  floatText := fun x => toString x
  hashPassword := fun s => s
  verifyPassword := fun hash s => hash == s
  needsRehash := fun _ => false
  lower := fun s => s
  like := fun s p => s == p
  parseDateTime := fun _ => none

/-- Passing a decoded value to a parameter declared `string`, in coercive typing mode: scalars are
converted, `null` and arrays are a `TypeError`. -/
def Json.toStringParam (env : Env) : Json → Option String
  | .str s => some s
  | .int n => some (toString n)
  | .float x => some (env.floatText x)
  | .bool b => some (if b then "1" else "")
  | _ => none

end Bibliotheque
