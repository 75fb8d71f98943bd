/-!
# White space, and text that is nothing else

Two rules of this library ask about white space: an identifier may hold none, and a name or a
credential may not consist of it. Both mean the Unicode property `White_Space`, which is a fixed
list of twenty-five characters; the zero-width characters (U+200B, U+FEFF and their kin) and the
control separators U+001C to U+001F are outside it. The predicate in core knows ASCII only, so the
list is written out here.

Trimming is a function of the character list: what is proved of it is an induction on that list, and
a wrapper over `String` would add nothing to it.
-/

set_option autoImplicit false

namespace RemoteDrive.Text

/-- Unicode's `White_Space` property. -/
def isBlank (c : Char) : Bool :=
  let n := c.toNat
  (9 ≤ n && n ≤ 13) || n == 0x20 || n == 0x85 || n == 0xA0 || n == 0x1680 ||
    (0x2000 ≤ n && n ≤ 0x200A) || n == 0x2028 || n == 0x2029 || n == 0x202F || n == 0x205F ||
    n == 0x3000

/-- The characters of `s` without the white space before them. -/
def dropBlanks (s : List Char) : List Char := s.dropWhile isBlank

/-- The characters of `s` without the white space on either side. -/
def trimChars (s : List Char) : List Char :=
  (dropBlanks (dropBlanks s).reverse).reverse

/-- Nothing but white space; the empty text is blank too. -/
def blank (s : String) : Bool := s.toList.all isBlank

end RemoteDrive.Text
