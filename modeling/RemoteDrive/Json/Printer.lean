import RemoteDrive.Json.Value
import RemoteDrive.Text.Hex

/-!
# JSON as text

A value is written without blanks, object fields in the order in which they stand. Inside a text
the quote, the backslash and the characters below U+0020 are escaped, the latter by four digits,
and every other character stands for itself.
-/

set_option autoImplicit false

namespace RemoteDrive.Json

/-- How one character is written inside a JSON text. -/
def escapedChar (c : Char) : List Char :=
  if c = '"' ∨ c = '\\' then ['\\', c]
  else if c.toNat < 0x20 then
    ['\\', 'u', '0', '0', Hex.digit (c.toNat / 16), Hex.digit (c.toNat % 16)]
  else [c]

/-- A text with its quotation marks. -/
def renderText (s : String) : String :=
  String.ofList ('"' :: s.toList.flatMap escapedChar ++ ['"'])

mutual

def render : Json → String
  | .null => "null"
  | .bool b => if b then "true" else "false"
  | .number n => n.render
  | .text s => renderText s
  | .array items => "[" ++ renderItems items ++ "]"
  | .object fields => "\x7b" ++ renderFields fields ++ "\x7d"

/-- The items of an array, a comma between any two. -/
def renderItems : List Json → String
  | [] => ""
  | [j] => j.render
  | j :: rest => j.render ++ "," ++ renderItems rest

/-- The fields of an object, a comma between any two. -/
def renderFields : List (String × Json) → String
  | [] => ""
  | [(key, j)] => renderText key ++ ":" ++ j.render
  | (key, j) :: rest => renderText key ++ ":" ++ j.render ++ "," ++ renderFields rest

end

end RemoteDrive.Json
