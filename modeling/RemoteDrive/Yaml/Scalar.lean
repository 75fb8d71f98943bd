import RemoteDrive.Yaml.Cursor
import RemoteDrive.Text.Hex

/-!
# Scalars of a YAML text

A scalar is written in one of five ways: plain, between single quotes, between double quotes, and
as a block of lines that is kept or folded. All but the kept block *fold* their line breaks, and
they agree on how (`Gap`): a single line feed between two words becomes a space, of several the
first one goes, and the blanks around them go too. Blanks within a line stay.

A reader starts on the scalar's first character and returns its text and the place behind it. The
loops take the number of characters left as a bound, which they cannot reach because each round
moves on.
-/

set_option autoImplicit false

namespace RemoteDrive.Yaml

/-- White space between two words of a scalar, held back until another word follows. -/
inductive Gap where
  | none
  /-- Blanks within the line, in reverse. -/
  | blanks (run : List Char)
  /-- Line breaks: the first, if it was not escaped, and the others in reverse. -/
  | breaks (first : Option Char) (others : List Char)

namespace Gap

/-- What stands for the gap in the folded text. -/
def folded : Gap → List Char
  | .none => []
  | .blanks run => run.reverse
  | .breaks (some '\n') [] => [' ']
  | .breaks (some '\n') others => others.reverse
  | .breaks first others => first.toList ++ others.reverse

/-- The gap with one more character of white space. -/
def extend (g : Gap) (c : Char) : Gap :=
  match g with
  | .none => if isBreak c then .breaks (some c) [] else .blanks [c]
  | .blanks run => if isBreak c then .breaks (some c) [] else .blanks (c :: run)
  | .breaks first others => if isBreak c then .breaks first (c :: others) else .breaks first others

/-- The gap reaches over the end of a line. -/
def hasBreak : Gap → Bool
  | .breaks _ _ => true
  | _ => false

/-- The gap after an escaped line break. -/
def escapedBreak : Gap := .breaks Option.none []

end Gap

/-- Reads white space onto a gap. -/
def readGap : Nat → Gap → Cursor → Gap × Cursor
  | 0, g, c => (g, c)
  | n + 1, g, c =>
    match c.peek 0 with
    | some x => if isBlank x || isBreak x then readGap n (g.extend x) c.next else (g, c)
    | none => (g, c)

/-! ## Plain scalars -/

/-- The characters that end a plain scalar inside brackets and braces. -/
def isFlowMark (c : Char) : Bool :=
  c = ',' || c = '[' || c = ']' || c = '\x7b' || c = '\x7d'

/-- Reads one word of a plain scalar, in reverse. A colon inside brackets or braces may not be
followed by one of their marks. -/
def readPlainWord (inFlow : Bool) : Nat → List Char → Cursor → Option (List Char × Cursor)
  | 0, word, c => some (word, c)
  | n + 1, word, c =>
    match c.peek 0 with
    | none => some (word, c)
    | some x =>
      if isBlank x || isBreak x then some (word, c)
      else if inFlow && x = ':' && (c.peek 1).any fun y => isFlowMark y || y = '?' then none
      else if (x = ':' && c.gapAt 1) || (inFlow && isFlowMark x) then some (word, c)
      else readPlainWord inFlow n (x :: word) c.next

/-- A tab stands where the indentation of a continuation line belongs. -/
def tabInIndent (indent : Nat) : Nat → Bool → Cursor → Bool
  | 0, _, _ => false
  | n + 1, lineStart, c =>
    match c.peek 0 with
    | none => false
    | some x =>
      if isBreak x then tabInIndent indent n true c.next
      else if x = '\t' && lineStart && c.column < indent then true
      else if isBlank x then tabInIndent indent n lineStart c.next
      else false

/-- Reads the words of a plain scalar from `c` on; `text` is what has been read, in reverse, and
`gap` the white space behind it. Answers also whether a line break was passed at the end. -/
def readPlainFrom (inFlow : Bool) (indent : Nat) :
    Nat → List Char → Gap → Cursor → Option (List Char × Bool × Cursor)
  | 0, text, gap, c => some (text.reverse, gap.hasBreak, c)
  | n + 1, text, gap, c => do
    if c.anyDocumentMark || c.isAt 0 '#' then return (text.reverse, gap.hasBreak, c)
    let (word, c') ← readPlainWord inFlow c.left [] c
    if word.isEmpty then return (text.reverse, gap.hasBreak, c)
    let text := word ++ (gap.folded.reverse ++ text)
    if !(c'.blankAt 0 || c'.breakAt 0) then return (text.reverse, false, c')
    if tabInIndent indent c'.left false c' then none
    let (gap, c'') := readGap c'.left .none c'
    if !inFlow && c''.column < indent then return (text.reverse, gap.hasBreak, c'')
    readPlainFrom inFlow indent n text gap c''

/-- Reads a plain scalar whose continuation lines are indented by `indent` or more. -/
def readPlain (inFlow : Bool) (indent : Nat) (c : Cursor) :
    Option (List Char × Bool × Cursor) :=
  readPlainFrom inFlow indent (c.left + 1) [] .none c

/-! ## Quoted scalars -/

/-- The character that a letter means behind a backslash. -/
def escape? : Char → Option Char
  | '0' => some '\x00'
  | 'a' => some '\x07'
  | 'b' => some '\x08'
  | 't' => some '\t'
  | '\t' => some '\t'
  | 'n' => some '\n'
  | 'v' => some '\x0b'
  | 'f' => some '\x0c'
  | 'r' => some '\r'
  | 'e' => some '\x1b'
  | ' ' => some ' '
  | '"' => some '"'
  | '/' => some '/'
  | '\\' => some '\\'
  | 'N' => some '\u0085'
  | '_' => some '\u00A0'
  | 'L' => some '\u2028'
  | 'P' => some '\u2029'
  | _ => none

/-- How many hexadecimal digits follow a letter behind a backslash. -/
def escapeWidth? : Char → Option Nat
  | 'x' => some 2
  | 'u' => some 4
  | 'U' => some 8
  | _ => none

/-- The number that hexadecimal digits write. -/
def hexNumber? (ds : List Char) : Option Nat :=
  ds.foldlM (fun v d => (Hex.value? d).map (v * 16 + ·)) 0

/-- The character with a code point, if it is one. -/
def character? (n : Nat) : Option Char :=
  if n < 0xD800 ∨ (0xE000 ≤ n ∧ n < 0x110000) then some (Char.ofNat n) else none

/-- Reads an escape; the cursor is on the backslash. -/
def readEscape (c : Cursor) : Option (Char × Cursor) := do
  let letter ← c.peek 1
  match escapeWidth? letter with
  | some width =>
    let ds := (c.rest.drop 2).take width
    if ds.length < width then none
    return (← character? (← hexNumber? ds), c.skip (2 + width))
  | none => return (← escape? letter, c.skip 2)

/-- Reads a quoted scalar to its closing quote; the opening one is behind us. `text` is what has
been read, in reverse, and `gap` the white space behind it. -/
def readQuotedFrom (quote : Char) : Nat → List Char → Gap → Cursor → Option (List Char × Cursor)
  | 0, _, _, _ => none
  | n + 1, text, gap, c => do
    if c.anyDocumentMark then none
    let x ← c.peek 0
    if isBlank x || isBreak x then
      let (gap, c) := readGap c.left gap c
      readQuotedFrom quote n text gap c
    else
      let text := gap.folded.reverse ++ text
      if x = quote then
        if quote = '\'' && c.isAt 1 '\'' then
          readQuotedFrom quote n ('\'' :: text) .none (c.skip 2)
        else return (text.reverse, c.next)
      else if quote = '"' && x = '\\' then
        if c.breakAt 1 then
          readQuotedFrom quote n text .escapedBreak (c.skip 2)
        else
          let (y, c) ← readEscape c
          readQuotedFrom quote n (y :: text) .none c
      else readQuotedFrom quote n (x :: text) .none c.next

/-- Reads a quoted scalar; the cursor is on its opening quote. -/
def readQuoted (quote : Char) (c : Cursor) : Option (List Char × Cursor) :=
  readQuotedFrom quote (c.left + 1) [] .none c.next

/-! ## Blocks -/

/-- What becomes of the line breaks at the end of a block. -/
inductive Chomping where
  | strip
  | clip
  | keep
deriving DecidableEq

/-- Reads a chomping indicator, if there is one. -/
def readChomping (c : Cursor) : Chomping × Cursor :=
  if c.isAt 0 '+' then (.keep, c.next)
  else if c.isAt 0 '-' then (.strip, c.next)
  else (.clip, c)

/-- Reads an indentation indicator, if there is one; it may not be zero. -/
def readIncrement (c : Cursor) : Option (Nat × Cursor) :=
  match c.peek 0 with
  | some d =>
    if d = '0' then none
    else if d.isDigit then some (d.toNat - '0'.toNat, c.next)
    else some (0, c)
  | none => some (0, c)

/-- Reads the two indicators of a block in either order. -/
def readBlockHeader (c : Cursor) : Option (Chomping × Nat × Cursor) := do
  if c.isAt 0 '+' || c.isAt 0 '-' then
    let (chomping, c) := readChomping c
    let (increment, c) ← readIncrement c
    return (chomping, increment, c)
  else
    let (increment, c) ← readIncrement c
    if increment = 0 then return (.clip, 0, c)
    else
      let (chomping, c) := readChomping c
      return (chomping, increment, c)

/-- Past the indentation of a line; without a known `indent` that is all spaces. -/
def skipIndent (indent : Nat) : Nat → Cursor → Cursor
  | 0, c => c
  | n + 1, c =>
    if (indent = 0 || c.column < indent) && c.isAt 0 ' ' then skipIndent indent n c.next else c

/-- Reads the empty lines before a line of a block: their breaks in reverse, the largest column
met, and the place at which the line starts. A tab may not stand in the indentation. -/
def readEmptyLines (indent : Nat) :
    Nat → Nat → List Char → Cursor → Option (Nat × List Char × Cursor)
  | 0, widest, breaks, c => some (widest, breaks, c)
  | n + 1, widest, breaks, c => do
    let c := skipIndent indent c.left c
    let widest := max widest c.column
    if (indent = 0 || c.column < indent) && c.isAt 0 '\t' then none
    match c.peek 0 with
    | some x =>
      if isBreak x then readEmptyLines indent n widest (x :: breaks) c.next
      else return (widest, breaks, c)
    | none => return (widest, breaks, c)

/-- Reads the lines of a block. `text` is what has been read, `first` the break at the end of the
last line and `others` the breaks of the empty lines after it, all in reverse; `afterBlank` says
that the last line started with a blank, in which case it is not joined to the next. -/
def readLines (folds : Bool) (indent : Nat) :
    Nat → List Char → Option Char → List Char → Bool → Cursor →
      Option (List Char × Option Char × List Char × Cursor)
  | 0, text, first, others, _, c => some (text, first, others, c)
  | n + 1, text, first, others, afterBlank, c => do
    if c.column ≠ indent || c.atEnd then return (text, first, others, c)
    let startsBlank := c.blankAt 0
    let join :=
      if folds && first == some '\n' && !afterBlank && !startsBlank then
        if others.isEmpty then [' '] else []
      else first.toList
    let (line, c) := c.takeWhile fun x => !isBreak x
    let text := line.reverse ++ (others ++ (join ++ text))
    let first := c.peek 0
    let (_, others, c) ← readEmptyLines indent (c.left + 1) 0 [] c.next
    readLines folds indent n text first others startsBlank c

/-- Reads a block; the cursor is on its indicator, and `parent` is the column of the collection
around it, if there is one. -/
def readBlock (folds : Bool) (parent : Option Nat) (c : Cursor) : Option (List Char × Cursor) := do
  let (chomping, increment, c) ← readBlockHeader c.next
  let c := c.skipWhile isBlank
  let c := if c.isAt 0 '#' then c.skipWhile (fun x => !isBreak x) else c
  if !c.atLineEnd then none
  let c := c.next
  let given := if increment = 0 then 0 else parent.getD 0 + increment
  let (widest, others, c) ← readEmptyLines given (c.left + 1) 0 [] c
  let indent := if given = 0 then max (max widest (parent.elim 0 (· + 1))) 1 else given
  let (text, first, others, c) ←
    readLines folds indent (c.left + 1) [] none others false c
  let text := match chomping with
    | .strip => text
    | .clip => first.toList ++ text
    | .keep => others ++ (first.toList ++ text)
  return (text.reverse, c)

end RemoteDrive.Yaml
