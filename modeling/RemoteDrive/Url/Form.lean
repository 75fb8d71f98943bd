import RemoteDrive.Url.Percent
import RemoteDrive.Text.Utf8

/-!
# Forms in a query

A list of named values is written into a query with `&` between the pairs and `=` inside each;
letters, digits and four marks stand for themselves, a space is a plus sign, and every other
character is written with percent signs. None of the characters with a meaning stands for itself,
so `decode` gives back the pairs that were encoded.
-/

set_option autoImplicit false

namespace RemoteDrive.Form

/-- A character that stands for itself. -/
def isPlain (c : Char) : Bool := c.isAlphanum || "*-._".toList.contains c

/-- One character of a name or a value. -/
def encodeChar (c : Char) : List Char :=
  if isPlain c then [c] else if c = ' ' then ['+'] else Percent.char c

/-- A name or a value. -/
def encodeText (s : List Char) : List Char := s.flatMap encodeChar

/-- One pair. -/
def encodePair (p : String × String) : List Char :=
  encodeText p.1.toList ++ '=' :: encodeText p.2.toList

/-- A list of pairs. -/
def encode (pairs : List (String × String)) : String :=
  String.ofList (List.intercalate ['&'] (pairs.map encodePair))

/-- The name or the value that a text stands for. -/
def decodeText (s : List Char) : String :=
  String.ofList (Utf8.decodeLossy (Percent.decode (s.map fun c => if c = '+' then ' ' else c)))

/-- The pair that a text stands for; without an equals sign the value is empty. -/
def decodePair (s : List Char) : String × String :=
  (decodeText (s.takeWhile (· != '=')), decodeText ((s.dropWhile (· != '=')).drop 1))

/-- The pairs that a query stands for; empty ones are passed over. -/
def decode (query : String) : List (String × String) :=
  ((query.toList.splitOn '&').filter (· ≠ [])).map decodePair

end RemoteDrive.Form
