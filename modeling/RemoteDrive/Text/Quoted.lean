import RemoteDrive.Text.Glyphless
import RemoteDrive.Text.Hex
import RemoteDrive.Text.Blank

/-!
# Text in quotation marks

Where a message repeats text that somebody else supplied, it does so in a form that shows every
character: the text stands in double quotes, a quote or a backslash inside it is marked by a
backslash, the usual control characters have their letter, and any character that would not be
seen (`isGlyphless`) is written `\u{…}` with its number in hexadecimal. A single quote needs no
mark, because the text is never enclosed in them.

The form is unambiguous: each character's piece starts with a backslash exactly when it is not
the character itself.
-/

set_option autoImplicit false

namespace RemoteDrive.Text

/-- How one character is shown inside double quotes. -/
def quotedChar (c : Char) : List Char :=
  if c = '\x00' then ['\\', '0']
  else if c = '\t' then ['\\', 't']
  else if c = '\r' then ['\\', 'r']
  else if c = '\n' then ['\\', 'n']
  else if c = '"' ∨ c = '\\' then ['\\', c]
  else if isGlyphless c then ['\\', 'u', '\x7b'] ++ Hex.nat c.toNat ++ ['\x7d']
  else [c]

/-- `s` in double quotes, every character visible. -/
def quoted (s : String) : String :=
  String.ofList ('"' :: s.toList.flatMap quotedChar ++ ['"'])

end RemoteDrive.Text
