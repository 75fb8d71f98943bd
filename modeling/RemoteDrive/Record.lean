import RemoteDrive.Json.Tree

/-!
# Records read from a document

A record (a configuration, a file object, a pair of tokens) is read from a document whose notation
varies: a JSON text, a JSON value, a configuration file. What the notations share is small, and it
is all that a record's reader may use: a node may be a text, it may be a count, and it may offer a
value for each of the record's fields. `Document` is that interface, `RichDocument` adds the kinds
that only JSON has.

## Fields

`slots? names` answers with one `Slot` for each name. A node that lists its fields by name leaves
a field `missing` if it does not mention it, ignores names that are not asked for, and is refused
if it gives an asked-for name twice (a JSON *value* cannot do so, because there the last one has
already won). A node that lists them by position is refused if it has more values than there are
names; if it has fewer, the remaining fields are `cutOff`. The two kinds of absence differ in one
case only: an optional field may be missing, but a positional list has to go on to it.

A reader that knows a default uses it for either (`Slot.orElse`).
-/

set_option autoImplicit false

namespace RemoteDrive

/-- What a record's node has for one field. -/
inductive Slot (δ : Type) where
  | given (node : δ)
  | missing
  | cutOff

namespace Slot

variable {δ α : Type}

/-- The field must be there. -/
def required (read : δ → Option α) : Slot δ → Option α
  | .given d => read d
  | .missing => none
  | .cutOff => none

/-- Without the field, `default` stands in for it. -/
def orElse (default : α) (read : δ → Option α) : Slot δ → Option α
  | .given d => read d
  | .missing => some default
  | .cutOff => some default

/-- The field may be absent or null, which are the same. -/
def optional (isNull : δ → Bool) (read : δ → Option α) : Slot δ → Option (Option α)
  | .given d => if isNull d then some none else (read d).map some
  | .missing => some none
  | .cutOff => none

end Slot

/-- A notation in which texts, counts and records can be written. -/
class Document (δ : Type) where
  /-- The text that a node writes. -/
  text? : δ → Option String
  /-- The count of one machine word that a node writes. -/
  word? : δ → Option UInt64
  /-- What a node has for each of the named fields. -/
  slots? : List String → δ → Option (List (Slot δ))

/-- A notation that also has truth values, signed integers, lists and null. -/
class RichDocument (δ : Type) extends Document δ where
  bool? : δ → Option Bool
  integer? : δ → Option Int64
  items? : δ → Option (List δ)
  isNull : δ → Bool

/-! ## Fields by name and by position -/

/-- The slots of a list of named fields in which each asked-for name is there at most once. -/
def Slot.ofNamed {δ : Type} (fields : List (String × δ)) (names : List String) :
    Option (List (Slot δ)) :=
  names.mapM fun name =>
    match fields.filter (·.1 == name) with
    | [] => some .missing
    | [(_, d)] => some (.given d)
    | _ => none

/-- The slots of a list of values in the order of `names`. -/
def Slot.ofListed {δ : Type} : List δ → List String → Option (List (Slot δ))
  | [], [] => some []
  | _ :: _, [] => none
  | [], _ :: names => (Slot.ofListed [] names).map (.cutOff :: ·)
  | d :: ds, _ :: names => (Slot.ofListed ds names).map (.given d :: ·)

/-! ## JSON values -/

namespace Json

def slots? (names : List String) : Json → Option (List (Slot Json))
  | .object fields =>
    some (names.map fun name => match fields.lookup name with
      | some j => .given j
      | none => .missing)
  | .array items => Slot.ofListed items names
  | _ => none

instance : RichDocument Json where
  text? := Json.text?
  word? j := j.number?.bind JsonNumber.toWord?
  slots? := Json.slots?
  bool? := Json.bool?
  integer? j := j.number?.bind JsonNumber.toInteger?
  items? := Json.array?
  isNull := Json.isNull

/-! ## JSON texts -/

namespace Tree

def text? : Tree → Option String
  | .text u => (characters? u).map String.ofList
  | _ => none

def number? : Tree → Option JsonNumber
  | .number n => n.toNumber?
  | _ => none

def bool? : Tree → Option Bool
  | .bool b => some b
  | _ => none

def items? : Tree → Option (List Tree)
  | .array items => some items
  | _ => none

def isNull : Tree → Bool
  | .null => true
  | _ => false

/-- The fields of an object with their keys as text; none for an unusable key. -/
def namedFields? (fields : List (List TextUnit × Tree)) : Option (List (String × Tree)) :=
  fields.mapM fun (key, t) => (characters? key).map fun cs => (String.ofList cs, t)

def slots? (names : List String) : Tree → Option (List (Slot Tree))
  | .object fields => (namedFields? fields).bind fun fields => Slot.ofNamed fields names
  | .array items => Slot.ofListed items names
  | _ => none

instance : RichDocument Tree where
  text? := Tree.text?
  word? t := t.number?.bind JsonNumber.toWord?
  slots? := Tree.slots?
  bool? := Tree.bool?
  integer? t := t.number?.bind JsonNumber.toInteger?
  items? := Tree.items?
  isNull := Tree.isNull

end Tree

end Json

end RemoteDrive
