/-!
# A place in a YAML text

Where a token stands decides what it means in YAML: its column against the columns of the
collections that are still open, and its line against the line on which a key began. A `Cursor` is
the rest of the text together with that place. It also carries the size of the rest in bytes: loops
take it as their bound, since no text has fewer bytes than characters, and the distance between two
places is the difference of what is left behind them. Columns are counted in characters.

The text is prepared once. The line breaks that are written as a carriage return, with or without a
line feed, or as U+0085 become line feeds, since nothing tells them apart afterwards; U+2028 and
U+2029 are line breaks too and keep their form. A character that no YAML text may hold makes the
whole text unreadable.
-/

set_option autoImplicit false

namespace RemoteDrive.Yaml

/-- The characters that may stand in a YAML text. -/
def isAllowed (c : Char) : Bool :=
  let n := c.toNat
  n == 0x9 || n == 0xA || n == 0xD || (0x20 ≤ n && n ≤ 0x7E) || n == 0x85 ||
    (0xA0 ≤ n && n ≤ 0xD7FF) || (0xE000 ≤ n && n ≤ 0xFFFD) || 0x10000 ≤ n

/-- The text with one form of line break. -/
def unifyBreaks : List Char → List Char
  | [] => []
  | '\r' :: '\n' :: s => '\n' :: unifyBreaks s
  | c :: s => (if c = '\r' ∨ c = '\u0085' then '\n' else c) :: unifyBreaks s

def isBreak (c : Char) : Bool := c = '\n' || c = '\u2028' || c = '\u2029'

/-- A space or a tab. -/
def isBlank (c : Char) : Bool := c = ' ' || c = '\t'

/-- A character of an anchor's name. -/
def isNameChar (c : Char) : Bool := c.isAlphanum || c = '_' || c = '-'

/-- The mark that some editors put at the start of a file. -/
def byteOrderMark : Char := '\uFEFF'

/-- How many bytes a text fills in UTF-8. -/
def byteCount : List Char → Nat
  | [] => 0
  | c :: s => c.utf8Size + byteCount s

structure Cursor where
  rest : List Char
  /-- How many bytes are left, which is known without counting them again. -/
  left : Nat
  line : Nat
  column : Nat
  byteCount_rest : byteCount rest = left

namespace Cursor

def start (text : List Char) : Cursor := ⟨text, byteCount text, 0, 0, rfl⟩

/-- The character `n` places on. -/
def peek (c : Cursor) (n : Nat) : Option Char := c.rest[n]?

/-- The character `n` places on is `x`. -/
def isAt (c : Cursor) (n : Nat) (x : Char) : Bool := c.peek n == some x

def atEnd (c : Cursor) : Bool := c.rest.isEmpty

/-- The character `n` places on is a line break. -/
def breakAt (c : Cursor) (n : Nat) : Bool := (c.peek n).any isBreak

/-- The character `n` places on is a space or a tab. -/
def blankAt (c : Cursor) (n : Nat) : Bool := (c.peek n).any isBlank

/-- Nothing that belongs to a word stands `n` places on: white space, or the end of the text. -/
def gapAt (c : Cursor) (n : Nat) : Bool := (c.peek n).all fun x => isBlank x || isBreak x

/-- The line or the text ends here. -/
def atLineEnd (c : Cursor) : Bool := (c.peek 0).all isBreak

/-- One character on; a line break leads to the start of the next line. -/
def next (c : Cursor) : Cursor :=
  match h : c.rest with
  | [] => c
  | x :: rest =>
    have h' : byteCount rest = c.left - x.utf8Size := by
      simp [← c.byteCount_rest, h, byteCount]
    if isBreak x then ⟨rest, c.left - x.utf8Size, c.line + 1, 0, h'⟩
    else ⟨rest, c.left - x.utf8Size, c.line, c.column + 1, h'⟩

/-- `n` characters on. -/
def skip (c : Cursor) (n : Nat) : Cursor := Nat.repeat next n c

/-- How many characters are left to go on while `p` holds. -/
def runLength (c : Cursor) (p : Char → Bool) : Nat := (c.rest.takeWhile p).length

/-- Past all characters for which `p` holds. -/
def skipWhile (c : Cursor) (p : Char → Bool) : Cursor := c.skip (c.runLength p)

/-- The characters for which `p` holds, and the place behind them. -/
def takeWhile (c : Cursor) (p : Char → Bool) : List Char × Cursor :=
  (c.rest.takeWhile p, c.skipWhile p)

/-- A mark between documents stands at the start of this line: three times `x`. -/
def documentMark (c : Cursor) (x : Char) : Bool :=
  c.column == 0 && c.isAt 0 x && c.isAt 1 x && c.isAt 2 x && c.gapAt 3

/-- A mark between documents stands here, of either kind. -/
def anyDocumentMark (c : Cursor) : Bool := c.documentMark '-' || c.documentMark '.'

end Cursor

end RemoteDrive.Yaml
