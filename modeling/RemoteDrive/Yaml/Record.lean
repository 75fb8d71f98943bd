import RemoteDrive.Yaml.Node
import RemoteDrive.Config.Record

/-!
# Records in YAML

A scalar is a text as it stands, in whatever way it is written. It is a count only if it is plain,
because quotes say that a text is meant; the one way to take a longer form for a count is to tag
it. A mapping lists fields by name. Where a record belongs, a scalar that was left out is a record
without fields, but a null that was written is an error, like every other scalar and every
sequence.

An alias is followed where a text, a count or a record is asked for, and nowhere else: what a field
holds that nobody asks for may well contain itself.
-/

set_option autoImplicit false

namespace RemoteDrive

namespace Yaml

/-- The value of digits in a base. -/
def digitsIn? (base : Nat) (s : List Char) : Option Nat :=
  if s.isEmpty then none
  else s.foldlM (fun v c => do
    let d ← Hex.value? c
    if d < base then some (v * base + d) else none) 0

/-- The number that a word writes, if it writes one that is not negative: in decimal without
superfluous zeros, or in another base with its mark. A plus sign may stand before it. -/
def unsigned? (s : List Char) : Option Nat :=
  let s := if s.head? = some '+' then s.drop 1 else s
  match s with
  | '0' :: 'x' :: digits => digitsIn? 16 digits
  | '0' :: 'o' :: digits => digitsIn? 8 digits
  | '0' :: 'b' :: digits => digitsIn? 2 digits
  | '0' :: _ :: _ => none
  | _ => digitsIn? 10 s

/-- The tag of integers. -/
def integerTag : String := "tag:yaml.org,2002:int"

namespace Node

/-- The text of a scalar. -/
def text? : Node → Option String
  | .scalar _ _ text => some text
  | _ => none

/-- The count that a scalar writes. -/
def word? : Node → Option UInt64
  | .scalar style tag text =>
    if style = .plain ∨ (style = .literal ∧ tag = some integerTag) then
      match unsigned? text.toList with
      | some n => if n < UInt64.size then some (UInt64.ofNat n) else none
      | none => none
    else none
  | _ => none

/-- The entries of a mapping. -/
def entries? : Node → Option (List (Node × Node))
  | .mapping entries => some entries
  | .scalar .plain _ "" => some []
  | _ => none

end Node

namespace Value

def text? (v : Value) : Option String := v.target?.bind Node.text?

def word? (v : Value) : Option UInt64 := v.target?.bind Node.word?

/-- The fields of a record. -/
def slots? (names : List String) (v : Value) : Option (List (Slot Value)) := do
  let entries ← (← v.target?).entries?
  let fields ← entries.mapM fun (key, value) =>
    { v with node := key }.text?.map (·, { v with node := value })
  Slot.ofNamed fields names

instance : Document Value where
  text? := text?
  word? := word?
  slots? := slots?

end Value

end Yaml

/-! ## Configuration files -/

/-- Why a configuration file gives no configuration. -/
inductive ConfigFileFault where
  /-- There is no file, or it is not UTF-8. -/
  | unreadable
  /-- It is no YAML, or not that of a configuration. -/
  | malformed
deriving DecidableEq

namespace Config

/-- The configuration that a YAML text writes. -/
def ofYaml? (text : List Char) : Option Config := (Yaml.Value.parse? text).bind read?

/-- The configuration in a file with these bytes, if there is one. -/
def load (file : Option (List UInt8)) : Except ConfigFileFault Config :=
  match file.bind Utf8.decode? with
  | none => .error .unreadable
  | some text => (ofYaml? text).elim (.error .malformed) .ok

/-- The configuration in a file, or the standard one. -/
def loadOrStandard (file : Option (List UInt8)) : Config :=
  match load file with
  | .ok c => c
  | .error _ => standard

end Config

end RemoteDrive
