import RemoteDrive.Json.Token
import RemoteDrive.Json.Value
import RemoteDrive.Text.Utf8

/-!
# The structure of a JSON text, and what it means

`Tree` is the structure of a JSON text with every word kept as it was written, equal keys
included. It is built by a machine that reads one token at a time and keeps the containers that
are still open on a stack (`Reader`), so nesting of any depth costs no recursion.

Meaning is a second step. `toJson?` turns a tree into a value and is where a text is refused that
is well formed and still cannot be used: a lone surrogate escape, a number too large for binary64,
a nesting deeper than `depthLimit`. Of fields with equal keys the last one counts. Readers of
records work on the tree directly (`RemoteDrive.Record`) and never ask for the meaning of a field
they do not know.

## How a number is read

An integer literal that fits a machine word is that integer; `-0` and everything that does not fit
or has a point or an exponent is binary64. There the digits are gathered into one word as long as
they fit (`gather`): a digit before the point that no longer fits counts as a power of ten, one
after it is dropped. The word is then rounded to binary64 and scaled by its power of ten.
-/

set_option autoImplicit false

namespace RemoteDrive.Json

/-- The structure of a JSON text. -/
inductive Tree where
  | null
  | bool (b : Bool)
  | number (n : NumberLiteral)
  | text (units : List TextUnit)
  | array (items : List Tree)
  | object (fields : List (List TextUnit × Tree))

/-! ## Building the tree -/

/-- A container that is still open, its contents so far in reverse. -/
inductive Frame where
  | array (items : List Tree)
  | object (fields : List (List TextUnit × Tree)) (key : List TextUnit)

/-- What may come next. -/
inductive Awaits where
  /-- A value; where `orEnd`, also the end of the array. -/
  | item (orEnd : Bool)
  /-- A key; where `orEnd`, also the end of the object. -/
  | key (orEnd : Bool)
  | colon
  | separator
deriving DecidableEq

/-- A text read in part, or a whole value. -/
inductive Reader where
  | within (open_ : List Frame) (awaits : Awaits)
  | done (t : Tree)

namespace Reader

/-- A value is complete: it goes into the innermost open container. -/
def put (t : Tree) : List Frame → Reader
  | [] => .done t
  | .array items :: outer => .within (.array (t :: items) :: outer) .separator
  | .object fields key :: outer => .within (.object ((key, t) :: fields) [] :: outer) .separator

/-- One token further; none where it may not stand here. -/
def step : Reader → Token → Option Reader
  | .done _, _ => none
  | .within outer (.item orEnd), token =>
    match token, outer with
    | .null, _ => some (put .null outer)
    | .bool b, _ => some (put (.bool b) outer)
    | .number n, _ => some (put (.number n) outer)
    | .text u, _ => some (put (.text u) outer)
    | .openArray, _ => some (.within (.array [] :: outer) (.item true))
    | .openObject, _ => some (.within (.object [] [] :: outer) (.key true))
    | .closeArray, .array [] :: rest => if orEnd then some (put (.array []) rest) else none
    | _, _ => none
  | .within outer (.key orEnd), token =>
    match token, outer with
    | .text u, .object fields _ :: rest => some (.within (.object fields u :: rest) .colon)
    | .closeObject, .object [] _ :: rest => if orEnd then some (put (.object []) rest) else none
    | _, _ => none
  | .within outer .colon, token =>
    if token = .colon then some (.within outer (.item false)) else none
  | .within outer .separator, token =>
    match token, outer with
    | .comma, .array _ :: _ => some (.within outer (.item false))
    | .comma, .object _ _ :: _ => some (.within outer (.key false))
    | .closeArray, .array items :: rest => some (put (.array items.reverse) rest)
    | .closeObject, .object fields _ :: rest => some (put (.object fields.reverse) rest)
    | _, _ => none

/-- All tokens, one after the other. -/
def run (r : Reader) (ts : List Token) : Option Reader := ts.foldlM step r

end Reader

namespace Tree

/-- The one value that the tokens of a text write. -/
def ofTokens? (ts : List Token) : Option Tree :=
  match Reader.run (.within [] (.item false)) ts with
  | some (.done t) => some t
  | _ => none

/-- The structure of a text. -/
def parse? (s : List Char) : Option Tree := (tokens s).bind ofTokens?

end Tree

/-! ## The meaning of words -/

/-- The characters that the pieces of a text write: a `\u` escape of a high surrogate is one
character together with the escape of a low one behind it, and neither stands alone. -/
def characters? : List TextUnit → Option (List Char)
  | [] => some []
  | .char c :: rest => (characters? rest).map (c :: ·)
  | .code n :: rest =>
    if n < 0xD800 ∨ 0xE000 ≤ n then (characters? rest).map (Char.ofNat n :: ·)
    else
      match rest with
      | .code m :: rest =>
        if n < 0xDC00 ∧ 0xDC00 ≤ m ∧ m < 0xE000 then
          (characters? rest).map
            (Char.ofNat (0x10000 + (n - 0xD800) * 0x400 + (m - 0xDC00)) :: ·)
        else none
      | _ => none

namespace NumberLiteral

/-- Digits gathered into a word: from `sig` on, as many of `ds` as fit, and how many did not. -/
def gather (sig : Nat) : List Char → Nat × Nat
  | [] => (sig, 0)
  | d :: ds =>
    let next := sig * 10 + Decimal.digitValue d
    if next < UInt64.size then gather next ds else (sig, ds.length + 1)

/-- The number as binary64; none where it is too large. -/
def toBinary64? (n : NumberLiteral) : Option Binary64 := do
  let (sig, unread) := gather 0 n.whole
  let fraction := n.fraction.getD []
  let (sig, dropped) := gather sig fraction
  let kept := fraction.length - dropped
  let x ← Binary64.ofInt? sig
  let y ← x.scaled? ((unread : Int) - kept + n.exponent.getD 0)
  return { y with negative := n.negative }

/-- The number a literal writes. -/
def toNumber? (n : NumberLiteral) : Option JsonNumber :=
  let v := Decimal.value n.whole
  let isInteger := n.fraction.isNone && n.exponent.isNone
  if isInteger ∧ n.negative = false ∧ v < UInt64.size then some (.natural (UInt64.ofNat v))
  else if isInteger ∧ n.negative = true ∧ 0 < v ∧ v ≤ signedLimit then
    some (.integer (Int64.ofInt (-(v : Int))))
  else n.toBinary64?.map .real

end NumberLiteral

/-! ## From tree to value -/

/-- How deep containers may be nested. -/
def depthLimit : Nat := 127

/-- `fields` with `key` at `j`: in its place if the key is there, else at the end. -/
def setField (fields : List (String × Json)) (key : String) (j : Json) : List (String × Json) :=
  match fields with
  | [] => [(key, j)]
  | (k, v) :: rest => if k = key then (k, j) :: rest else (k, v) :: setField rest key j

namespace Tree

mutual

/-- The value of a tree whose containers may be nested `depth` deep. -/
def toJsonWithin? (depth : Nat) : Tree → Option Json
  | .null => some .null
  | .bool b => some (.bool b)
  | .number n => n.toNumber?.map .number
  | .text u => (characters? u).map fun cs => .text (String.ofList cs)
  | .array items =>
    if depth = 0 then none else (itemsWithin? (depth - 1) items).map .array
  | .object fields =>
    if depth = 0 then none else (fieldsWithin? (depth - 1) [] fields).map .object

def itemsWithin? (depth : Nat) : List Tree → Option (List Json)
  | [] => some []
  | t :: rest => do
    let j ← toJsonWithin? depth t
    let js ← itemsWithin? depth rest
    return j :: js

/-- The fields read into `known`, a later field replacing an earlier one with its key. -/
def fieldsWithin? (depth : Nat) (known : List (String × Json)) :
    List (List TextUnit × Tree) → Option (List (String × Json))
  | [] => some known
  | (key, t) :: rest => do
    let key ← characters? key
    let j ← toJsonWithin? depth t
    fieldsWithin? depth (setField known (String.ofList key) j) rest

end

/-- The value of a tree. -/
def toJson? (t : Tree) : Option Json := t.toJsonWithin? depthLimit

end Tree

/-- The value that a text writes. -/
def parse? (s : List Char) : Option Json := (Tree.parse? s).bind Tree.toJson?

/-- The value that bytes write, which must be UTF-8. -/
def ofBytes? (bytes : List UInt8) : Option Json := (Utf8.decode? bytes).bind parse?

end RemoteDrive.Json
