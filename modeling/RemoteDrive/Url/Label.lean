import RemoteDrive.Text.Direction
import RemoteDrive.Text.Joining
import RemoteDrive.Url.Mapping
import RemoteDrive.Url.Punycode

/-!
# Labels of a domain

A domain has labels with dots between them. A label in other than ASCII letters also has a spelling
in ASCII, which starts with `xn--`, and either may be written. `word?` is what a label says,
whichever of its spellings it is in, and `spell?` is the spelling in ASCII.

What a label says has to be in the form in which domains are compared (`Domain.fold?`), may not
start with a mark, and may hold the two characters that only say how their neighbours join where
they make a difference (`joinersFit`). Where a domain holds letters that are written from right to
left, each of its labels has to have one direction (`hasDirection`), so that it can be told from its
neighbours.
-/

set_option autoImplicit false

namespace RemoteDrive.Label

open RemoteDrive.Text

def isAscii (s : List Char) : Bool := s.all (·.toNat < 0x80)

/-! ## The two spellings -/

/-- What a spelling in ASCII starts with. -/
def codeSign : List Char := "xn--".toList

/-- The longest spelling in ASCII that is read, without its sign. -/
def readLimit : Nat := 2000

/-- The longest label that is spelled in ASCII. -/
def spellLimit : Nat := 1000

/-- What a label says. A spelling in ASCII has to say something that needs one. -/
def word? (s : List Char) : Option (List Char) :=
  if s.take 4 = codeSign then do
    let code := s.drop 4
    if !isAscii code || readLimit < code.length || code.getLast?.all (· = '-') then none
    let word ← Punycode.decode? code
    if isAscii word || Domain.fold? word ≠ some word then none else some word
  else some s

/-- A label in ASCII. -/
def spell? (s : List Char) : Option (List Char) :=
  if isAscii s then some s
  else if spellLimit < s.length then none
  else some (codeSign ++ Punycode.encode s)

/-! ## What a label may say -/

/-- The last letter of these characters, which are in reverse, joins what comes behind it. -/
def joinsForward (before : List Char) : Bool :=
  (before.dropWhile fun c => Joining.of c = .transparent).head?.any fun c =>
    Joining.of c = .left || Joining.of c = .both

/-- The first letter of these characters joins what comes before it. -/
def joinsBackward (behind : List Char) : Bool :=
  (behind.dropWhile fun c => Joining.of c = .transparent).head?.any fun c =>
    Joining.of c = .right || Joining.of c = .both

/-- The last of these characters, which are in reverse, takes the vowel from its letter. -/
def isBehindVirama (before : List Char) : Bool :=
  before.head?.any fun c => combiningClass c = viramaClass

/-- The two joiners stand only where they make a difference. `before` is in reverse. -/
def joinersFit : List Char → List Char → Bool
  | _, [] => true
  | before, c :: rest =>
    (if c = '\u200D' then isBehindVirama before
      else if c = '\u200C' then
        isBehindVirama before || (joinsForward before && joinsBackward rest)
      else true) &&
      joinersFit (c :: before) rest

/-- A label may say this, as far as its directions do not matter. -/
def isWellFormed (s : List Char) : Bool :=
  isAscii s || (!s.head?.any isMark && joinersFit [] s)

/-! ## Directions -/

/-- Some character is written from right to left; none below U+0590 is. -/
def hasRightToLeft (s : List Char) : Bool :=
  s.any fun c => 0x590 ≤ c.toNat &&
    [.rightToLeft, .arabicLetter, .arabicNumber].contains (Direction.of c)

/-- What may stand inside a label of either direction. -/
def weakDirections : List Direction :=
  [.europeanNumber, .europeanSeparator, .europeanTerminator, .commonSeparator, .nonspacingMark,
    .boundaryNeutral, .otherNeutral]

/-- What stands behind the first character fits a label from left to right. It is in reverse, and
its own first is no mark. -/
def fitsLeftToRight (s : List Direction) : Bool :=
  s.head?.all [.leftToRight, .europeanNumber].contains &&
    (s.drop 1).all (.leftToRight :: weakDirections).contains

/-- What stands behind the first character fits a label from right to left, which may have numbers
of one kind only. It is in reverse, and its own first is no mark. -/
def fitsRightToLeft (s : List Direction) : Bool :=
  s.head?.all [.rightToLeft, .arabicLetter, .europeanNumber, .arabicNumber].contains &&
    (s.drop 1).all (.rightToLeft :: .arabicLetter :: .arabicNumber :: weakDirections).contains &&
    !(s.contains .europeanNumber && s.contains .arabicNumber)

/-- The label has one direction. -/
def hasDirection (s : List Char) : Bool :=
  match s.map Direction.of with
  | [] => true
  | first :: rest =>
    let behind := rest.reverse.dropWhile (· = .nonspacingMark)
    match first with
    | .leftToRight => fitsLeftToRight behind
    | .rightToLeft => fitsRightToLeft behind
    | .arabicLetter => fitsRightToLeft behind
    | _ => false

end RemoteDrive.Label
