import RemoteDrive.Url.Percent
import RemoteDrive.Url.Domain
import RemoteDrive.Text.Decimal
import RemoteDrive.Text.Utf8

/-!
# Hosts

The host of a URL is a domain or an address. Each has one spelling to which every other is brought:
a domain is in lower-case ASCII, a version 4 address has four decimal numbers, a version 6 address
stands in brackets without superfluous zeros. Whatever ends in a number is a version 4 address or
nothing at all.

In a scheme that is not well known the host is a text of its own, of which only the characters are
looked at.
-/

set_option autoImplicit false

namespace RemoteDrive.Host

/-! ## Addresses of version 4 -/

/-- The number that a part of an address writes, in octal behind a zero and in hexadecimal behind
`0x`. -/
def part? (s : List Char) : Option Nat :=
  let read (base : Nat) (digits : List Char) : Option Nat :=
    digits.foldlM (fun v c => do
      let d ← Hex.value? c
      if d < base then some (v * base + d) else none) 0
  match s with
  | [] => none
  | '0' :: 'x' :: digits => read 16 digits
  | '0' :: 'X' :: digits => read 16 digits
  | '0' :: d :: digits => read 8 (d :: digits)
  | digits => read 10 digits

/-- The parts between dots; a dot at the end adds none. -/
def parts (s : List Char) : List (List Char) :=
  let all := s.splitOn '.'
  if 1 < all.length && all.getLast? == some [] then all.dropLast else all

/-- The host can only be an address. -/
def endsInNumber (s : List Char) : Bool :=
  match (parts s).getLast? with
  | some last => (!last.isEmpty && last.all Decimal.isDigit) || (part? last).isSome
  | none => false

/-- The address with these numbers, of which the last one fills what the others leave. -/
def joinNumbers? : Nat → List Nat → Option Nat
  | _, [] => none
  | room, [n] => if n < Nat.pow 256 room then some n else none
  | 0, _ => none
  | room + 1, n :: rest => do
    let low ← joinNumbers? room rest
    if n < 256 then some (n * Nat.pow 256 room + low) else none

/-- The version 4 address that a text writes. -/
def version4? (s : List Char) : Option Nat := do
  let ps := parts s
  if 4 < ps.length then none
  joinNumbers? 4 (← ps.mapM part?)

/-- The spelling of a version 4 address. -/
def version4Text (n : Nat) : String :=
  let bytes := [n / 0x1000000, n / 0x10000, n / 0x100, n].map (· % 256)
  String.intercalate "." (bytes.map Decimal.nat)

/-! ## Addresses of version 6 -/

/-- The value of one to four hexadecimal digits. -/
def group? (s : List Char) : Option Nat :=
  if s.isEmpty || 4 < s.length then none
  else s.foldlM (fun v c => (Hex.value? c).map (v * 16 + ·)) 0

/-- A number of a version 4 address inside one of version 6. -/
def plainByte? (s : List Char) : Option Nat :=
  if s.isEmpty || 3 < s.length || !s.all Decimal.isDigit || (1 < s.length && s.head? == some '0')
  then none
  else if Decimal.value s < 256 then some (Decimal.value s) else none

/-- The two groups of a version 4 address. -/
def embedded? (s : List Char) : Option (List Nat) := do
  match ← (s.splitOn '.').mapM plainByte? with
  | [a, b, c, d] => some [a * 256 + b, c * 256 + d]
  | _ => none

/-- The groups between colons; the last may be a version 4 address. -/
def groups? : List (List Char) → Option (List Nat)
  | [] => some []
  | [s] => if s.contains '.' then embedded? s else (group? s).map ([·])
  | s :: rest => do return (← group? s) :: (← groups? rest)

/-- The groups of a text that is not shortened. -/
def fullGroups? (s : List Char) : Option (List Nat) :=
  if s.isEmpty then some [] else groups? (s.splitOn ':')

/-- What stands before and after the first two colons. -/
def splitShortened? : List Char → Option (List Char × List Char)
  | [] => none
  | ':' :: ':' :: rest => some ([], rest)
  | c :: rest => (splitShortened? rest).map fun (a, b) => (c :: a, b)

/-- The eight groups that a text writes. -/
def version6? (s : List Char) : Option (List Nat) := do
  match splitShortened? s with
  | some (left, right) =>
    if left.contains '.' then none
    let a ← fullGroups? left
    let b ← fullGroups? right
    if 7 < a.length + b.length then none
    return a ++ List.replicate (8 - a.length - b.length) 0 ++ b
  | none =>
    let all ← groups? (s.splitOn ':')
    if all.length = 8 then some all else none

/-- How many zeros stand at the start. -/
def zeros (groups : List Nat) : Nat := (groups.takeWhile (· == 0)).length

/-- Where the longest run of zeros starts, the first of several, and how long it is. -/
def longestZeros (groups : List Nat) : Nat × Nat :=
  (List.range groups.length).foldl
    (fun best i => let n := zeros (groups.drop i); if best.2 < n then (i, n) else best) (0, 0)

def groupsText (groups : List Nat) : List Char :=
  List.intercalate [':'] (groups.map Hex.nat)

/-- The spelling of a version 6 address. -/
def version6Text (groups : List Nat) : String :=
  let (start, n) := longestZeros groups
  let body :=
    if n < 2 then groupsText groups
    else groupsText (groups.take start) ++ "::".toList ++ groupsText (groups.drop (start + n))
  "[" ++ String.ofList body ++ "]"

/-! ## Domains -/

/-- A character that no domain may hold. -/
def isForbidden (c : Char) : Bool :=
  c.toNat ≤ 0x20 || c.toNat = 0x7F || "#%/:<>?@[\\]^|".toList.contains c

/-- The domain that a text writes, or the address. -/
def domain? (s : List Char) : Option String := do
  let name ← Domain.spell? (← Utf8.decode? (Percent.decode s))
  if name.isEmpty || name.any isForbidden then none
  if endsInNumber name then (version4? name).map version4Text else some (String.ofList name)

/-- The text between brackets. -/
def bracketed? (s : List Char) : Option (List Char) :=
  if s.head? = some '[' ∧ s.getLast? = some ']' then some (s.drop 1).dropLast else none

/-- The host of a well-known scheme. -/
def known? (s : List Char) : Option String :=
  if s.head? = some '[' then do return version6Text (← version6? (← bracketed? s)) else domain? s

/-- A character that no host of another scheme may hold. -/
def isForbiddenForeign (c : Char) : Bool := "\x00\t\n\r #/:<>?@[\\]^|".toList.contains c

/-- The host of another scheme. -/
def foreign? (s : List Char) : Option String :=
  if s.head? = some '[' then do return version6Text (← version6? (← bracketed? s))
  else if s.any isForbiddenForeign then none
  else some (String.ofList (Percent.encode Percent.isPrintable s))

end RemoteDrive.Host
