import RemoteDrive.Number.Binary64

/-!
# JSON values

Replies of the remote service are JSON whose fields cannot be relied on: an identifier may be a
number or a text, a name may be missing, a flag may be a text that says `true`. So a reply stays a
value of this type until a rule asks for a particular field, and every question returns an
`Option`.

A number keeps which of three ranges it was read into, because the ranges answer differently:
a non-negative integer of one word, a negative integer of one word, and everything else as
binary64. In particular `-0` is the negative zero of binary64 and no integer.

An object is an association list. Values that come from a text have each key once (`Tree.toJson?`
keeps the last of equal keys), and looking a key up takes the first.
-/

set_option autoImplicit false

namespace RemoteDrive

/-- A JSON number in the range it was read into. -/
inductive JsonNumber where
  | natural (n : UInt64)
  | integer (n : Int64)
  | real (x : Binary64)
deriving DecidableEq

inductive Json where
  | null
  | bool (b : Bool)
  | number (n : JsonNumber)
  | text (s : String)
  | array (items : List Json)
  | object (fields : List (String × Json))

/-- 2⁶³, the bound of the integers of one signed word. -/
def signedLimit : Nat := 0x8000000000000000

namespace JsonNumber

/-- The number as binary64, rounded where it does not fit. -/
def toBinary64 : JsonNumber → Binary64
  | .natural n => (Binary64.ofInt? n.toNat).getD (.zero false)
  | .integer n => (Binary64.ofInt? n.toInt).getD (.zero false)
  | .real x => x

/-- The number if it is a non-negative integer of one word. -/
def toWord? : JsonNumber → Option UInt64
  | .natural n => some n
  | .integer n => if 0 ≤ n.toInt then some (UInt64.ofNat n.toInt.toNat) else none
  | .real _ => none

/-- The number if it is an integer between -2⁶³ and 2⁶³ - 1. -/
def toInteger? : JsonNumber → Option Int64
  | .natural n => if n.toNat < signedLimit then some (Int64.ofInt n.toNat) else none
  | .integer n => some n
  | .real _ => none

/-- An integer as a JSON number: a word if it is not negative. -/
def ofInt (n : Int) : JsonNumber :=
  if 0 ≤ n then .natural (UInt64.ofNat n.toNat) else .integer (Int64.ofInt n)

/-- The number in JSON notation. -/
def render : JsonNumber → String
  | .natural n => Decimal.nat n.toNat
  | .integer n => Decimal.int n.toInt
  | .real x => x.text

end JsonNumber

namespace Json

/-- The value of a key; none for anything but an object that has it. -/
def field? (key : String) : Json → Option Json
  | .object fields => fields.lookup key
  | _ => none

/-- The value of a key, `null` where there is none. -/
def fieldOrNull (key : String) (j : Json) : Json := (j.field? key).getD .null

def text? : Json → Option String
  | .text s => some s
  | _ => none

def bool? : Json → Option Bool
  | .bool b => some b
  | _ => none

def number? : Json → Option JsonNumber
  | .number n => some n
  | _ => none

def array? : Json → Option (List Json)
  | .array items => some items
  | _ => none

def isObject : Json → Bool
  | .object _ => true
  | _ => false

def isNull : Json → Bool
  | .null => true
  | _ => false

/-- The first of `keys` whose value in `j` answers `ask`. -/
def firstOf {α : Type} (ask : Json → Option α) (keys : List String) (j : Json) : Option α :=
  keys.findSome? fun key => (j.field? key).bind ask

end Json

end RemoteDrive
