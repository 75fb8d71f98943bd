import RemoteDrive.Yaml.Scalar
import RemoteDrive.Text.Utf8
import RemoteDrive.Text.Decimal

/-!
# The tokens of a YAML text

Most tokens stand in the text as they are. Three do not: a block collection is opened and closed by
the column in which its entries start, and a key may be recognised only when the colon behind it
is met. So `Scanner` remembers, besides the place it has reached,

* the columns of the block collections that are open (`columns`): a token further left closes
  collections, a key or an entry further right opens one;
* how many brackets are open (`depth`), and for each of them, and for the text around them all, the
  place at which a key may have begun, if there is one (`keys`). The colon puts the token of the
  key, and the start of the collection if it is the first, in front of the tokens that came since.
  A key has to be on one line and short, so an old place is forgotten; it is an error to forget one
  that nothing but a key can explain;
* whether a key may begin here (`keyAllowed`).

`tokens?` is all the tokens of a text in the order in which they are read, which is not quite the
order in which they are met.
-/

set_option autoImplicit false

namespace RemoteDrive.Yaml

/-- The ways of writing a scalar. -/
inductive ScalarStyle where
  | plain
  | singleQuoted
  | doubleQuoted
  | literal
  | folded
deriving DecidableEq

inductive Token where
  | version (major minor : Nat)
  | tagHandle (handle meaning : String)
  | documentStart
  | documentEnd
  | blockSequenceStart
  | blockMappingStart
  | blockEnd
  | flowSequenceStart
  | flowSequenceEnd
  | flowMappingStart
  | flowMappingEnd
  | blockEntry
  | flowEntry
  | key
  | value
  | alias (name : String)
  | anchor (name : String)
  | tag (handle suffix : String)
  | scalar (style : ScalarStyle) (text : String)
deriving DecidableEq

/-! ## Names, tags and directives -/

/-- Reads the name behind the mark of an anchor or an alias. -/
def readName (c : Cursor) : Option (String × Cursor) :=
  let (name, c) := c.next.takeWhile isNameChar
  let ends := c.gapAt 0 || (c.peek 0).any fun x => "?:,]\x7d%@`".toList.contains x
  if name.isEmpty || !ends then none else some (String.ofList name, c)

/-- The characters of a tag; inside angle brackets there are some more. -/
def isTagChar (bracketed : Bool) (c : Char) : Bool :=
  isNameChar c || ";/?:@&=+$.%!~*'()".toList.contains c || (bracketed && ",[]".toList.contains c)

/-- The byte that a percent sign and two digits write. -/
def percentByte? (c : Cursor) : Option Nat := do
  if !c.isAt 0 '%' then none
  return 16 * (← Hex.value? (← c.peek 1)) + (← Hex.value? (← c.peek 2))

/-- How many bytes a character has that starts with `b`. -/
def sequenceWidth? (b : Nat) : Option Nat :=
  if b < 0x80 then some 1
  else if 0xC0 ≤ b ∧ b < 0xE0 then some 2
  else if 0xE0 ≤ b ∧ b < 0xF0 then some 3
  else if 0xF0 ≤ b ∧ b < 0xF8 then some 4
  else none

/-- Reads a character that is written byte by byte with percent signs. -/
def readPercents (c : Cursor) : Option (List Char × Cursor) := do
  let first ← percentByte? c
  let width ← sequenceWidth? first
  let others ← (List.range (width - 1)).mapM fun n => do
    let b ← percentByte? (c.skip (3 * (n + 1)))
    if 0x80 ≤ b ∧ b < 0xC0 then some b else none
  return (Utf8.decodeLossy ((first :: others).map UInt8.ofNat), c.skip (3 * width))

/-- Reads the characters of a tag onto `text`, which is in reverse. -/
def readTagChars (bracketed : Bool) : Nat → List Char → Cursor → Option (List Char × Cursor)
  | 0, text, c => some (text.reverse, c)
  | n + 1, text, c => do
    match c.peek 0 with
    | none => return (text.reverse, c)
    | some x =>
      if x = '%' then
        let (chars, c) ← readPercents c
        readTagChars bracketed n (chars.reverse ++ text) c
      else if isTagChar bracketed x then readTagChars bracketed n (x :: text) c.next
      else return (text.reverse, c)

/-- A tag's text ends at its first null character, which can only be written with percent signs. -/
def beforeNull (text : List Char) : List Char := text.takeWhile (· != '\x00')

/-- Reads the handle of a tag: an exclamation mark, or a name between two of them. -/
def readHandle (c : Cursor) : Option (List Char × Cursor) :=
  if c.isAt 0 '!' then
    let (name, c) := c.next.takeWhile isNameChar
    if c.isAt 0 '!' then some ('!' :: name ++ ['!'], c.next) else some ('!' :: name, c)
  else none

/-- A handle that is closed, so that it has to be looked up. -/
def isClosedHandle (handle : List Char) : Bool :=
  1 < handle.length && handle.getLast? == some '!'

/-- Reads a tag; the cursor is on its exclamation mark. -/
def readTag (inFlow : Bool) (c : Cursor) : Option (Token × Cursor) := do
  let (handle, suffix, c) ←
    if c.isAt 1 '<' then do
      let (text, c) ← readTagChars true (c.left + 1) [] (c.skip 2)
      if text.isEmpty || !c.isAt 0 '>' then none
      pure ([], beforeNull text, c.next)
    else do
      let (handle, c) ← readHandle c
      let fuel := c.left + 1
      if isClosedHandle handle then
        let (text, c) ← readTagChars false fuel [] c
        if text.isEmpty then none
        pure (handle, beforeNull text, c)
      else
        let (text, c) ← readTagChars false fuel (handle.drop 1).reverse c
        let text := beforeNull text
        pure (if text.isEmpty then ([], ['!'], c) else (['!'], text, c))
  if !(c.gapAt 0 || (inFlow && c.isAt 0 ',')) then none
  return (.tag (String.ofList handle) (String.ofList suffix), c)

/-- Reads one number of a version, which has nine digits at the most. -/
def readVersionNumber (c : Cursor) : Option (Nat × Cursor) :=
  let (digits, c) := c.takeWhile Decimal.isDigit
  if digits.isEmpty || 9 < digits.length then none else some (Decimal.value digits, c)

/-- Reads a directive, which fills a line; the cursor is on its percent sign. -/
def readDirective (c : Cursor) : Option (Token × Cursor) := do
  let (name, c) := c.next.takeWhile isNameChar
  if !c.gapAt 0 then none
  let c := c.skipWhile isBlank
  let (token, c) ←
    if name = "YAML".toList then do
      let (major, c) ← readVersionNumber c
      if !c.isAt 0 '.' then none
      let (minor, c) ← readVersionNumber c.next
      pure (Token.version major minor, c)
    else if name = "TAG".toList then do
      let (handle, c) ← readHandle c
      if !(isClosedHandle handle || handle = ['!']) || !c.blankAt 0 then none
      let c := c.skipWhile isBlank
      let (meaning, c) ← readTagChars true (c.left + 1) [] c
      if meaning.isEmpty || !c.gapAt 0 then none
      pure (Token.tagHandle (String.ofList handle) (String.ofList (beforeNull meaning)), c)
    else none
  let c := c.skipWhile isBlank
  let c := if c.isAt 0 '#' then c.skipWhile (fun x => !isBreak x) else c
  if !c.atLineEnd then none
  return (token, c.next)

/-! ## The scanner -/

/-- A place at which a key may have begun. -/
structure KeyPlace where
  /-- How many brackets are open around it. -/
  depth : Nat
  /-- How many tokens stand before it. -/
  number : Nat
  start : Cursor
  /-- Nothing but a key may stand here. -/
  required : Bool

/-- How many bytes a key may fill that is not announced by a question mark. -/
def keyLengthLimit : Nat := 1024

structure Scanner where
  cursor : Cursor
  tokens : Array Token
  depth : Nat
  /-- At most one place for each depth, the deepest first. -/
  keys : List KeyPlace
  columns : List Nat
  keyAllowed : Bool

namespace Scanner

def start (text : List Char) : Scanner := ⟨.start text, #[], 0, [], [], true⟩

/-- A bracket or a brace is open. -/
def inFlow (s : Scanner) : Bool := 0 < s.depth

/-- With one more token. -/
def emit (s : Scanner) (t : Token) : Scanner := { s with tokens := s.tokens.push t }

/-- With a token in front of all but the first `n`. -/
def insert (s : Scanner) (n : Nat) (t : Token) : Scanner :=
  { s with tokens := s.tokens.insertIdxIfInBounds n t }

/-- `n` characters further, after which a key may begin or not. -/
def pass (s : Scanner) (n : Nat) (keyAllowed : Bool) : Scanner :=
  { s with cursor := s.cursor.skip n, keyAllowed := keyAllowed }

/-! ### Places of keys -/

/-- The place of a key in the innermost bracket, and the places outside. -/
def key? (s : Scanner) : Option (KeyPlace × List KeyPlace) :=
  match s.keys with
  | [] => none
  | k :: outer => if k.depth = s.depth then some (k, outer) else none

/-- Forgets the place of a key in the innermost bracket. -/
def dropKey (s : Scanner) : Option Scanner :=
  match s.key? with
  | some (k, outer) => if k.required then none else some { s with keys := outer }
  | none => some s

/-- Remembers this place as one where a key may begin. -/
def offerKey (s : Scanner) : Option Scanner := do
  if !s.keyAllowed then return s
  let s ← s.dropKey
  let required := !s.inFlow && s.columns.head? == some s.cursor.column
  return { s with keys := ⟨s.depth, s.tokens.size, s.cursor, required⟩ :: s.keys }

/-- The place is too far back for a key that ends at `c`. -/
def isOld (c : Cursor) (k : KeyPlace) : Bool :=
  k.start.line < c.line || c.left + keyLengthLimit < k.start.left

/-- Forgets all places that are too far back. -/
def forgetOldKeys (s : Scanner) : Option Scanner :=
  let (old, young) := s.keys.partition (isOld s.cursor)
  if old.any KeyPlace.required then none else some { s with keys := young }

/-! ### Block collections -/

/-- Opens a block collection in `column`, if none is open there, with the token `t` as the one
numbered `n`. -/
def openBlock (s : Scanner) (column n : Nat) (t : Token) : Scanner :=
  if !s.inFlow && s.columns.head?.all (· < column) then
    { s.insert n t with columns := column :: s.columns }
  else s

/-- Closes the block collections to the right of `column`; without one, all of them. -/
def closeBlocks (s : Scanner) (column : Option Nat) : Scanner :=
  if s.inFlow then s
  else
    let right := fun open_ => column.all (· < open_)
    { s with
      tokens := (s.columns.takeWhile right).foldl (fun ts _ => ts.push .blockEnd) s.tokens
      columns := s.columns.dropWhile right }

/-! ### Single tokens -/

/-- Past white space, comments, line breaks and the mark that may stand at the start of a line,
which has a column as every character has. Outside brackets a key may begin on a new line, and
where it may, a tab is no white space. -/
def skipGap : Nat → Scanner → Scanner
  | 0, s => s
  | n + 1, s =>
    let c := s.cursor
    let c := if c.column = 0 && c.isAt 0 byteOrderMark then c.next else c
    let c := c.skipWhile fun x => x = ' ' || (x = '\t' && (s.inFlow || !s.keyAllowed))
    let c := if c.isAt 0 '#' then c.skipWhile (fun x => !isBreak x) else c
    if c.breakAt 0 then
      skipGap n { s with cursor := c.next, keyAllowed := s.keyAllowed || !s.inFlow }
    else { s with cursor := c }

/-- A token that stands on its own between block collections. -/
def outerToken (s : Scanner) (t : Token) (c : Cursor) : Option Scanner := do
  let s ← (s.closeBlocks none).dropKey
  return { s with cursor := c, keyAllowed := false }.emit t

/-- A bracket opens. -/
def openFlow (s : Scanner) (t : Token) : Option Scanner := do
  let s ← s.offerKey
  return ({ s with depth := s.depth + 1 }.pass 1 true).emit t

/-- A bracket closes. -/
def closeFlow (s : Scanner) (t : Token) : Option Scanner := do
  let s ← s.dropKey
  return ({ s with depth := s.depth - 1 }.pass 1 false).emit t

/-- The dash of an entry or the question mark of a key. -/
def openEntry (s : Scanner) (t collection : Token) (keyAllowed : Bool) : Option Scanner := do
  if !s.inFlow && !s.keyAllowed then none
  let s := s.openBlock s.cursor.column s.tokens.size collection
  return ((← s.dropKey).pass 1 keyAllowed).emit t

/-- The colon of a value. If a key was possible, it was one. -/
def openValue (s : Scanner) : Option Scanner :=
  match s.key? with
  | some (k, outer) =>
    let s := (s.insert k.number .key).openBlock k.start.column k.number .blockMappingStart
    some (({ s with keys := outer }.pass 1 false).emit .value)
  | none =>
    if !s.inFlow && !s.keyAllowed then none
    else
      let s := s.openBlock s.cursor.column s.tokens.size .blockMappingStart
      some ((s.pass 1 (!s.inFlow)).emit .value)

/-- A token that may be a key or belong to one. -/
def keyToken (s : Scanner) (read : Cursor → Option (Token × Cursor)) : Option Scanner := do
  let s ← s.offerKey
  let (t, c) ← read s.cursor
  return { s with cursor := c, keyAllowed := false }.emit t

/-- A plain scalar; when it ends with a line, a key may follow. -/
def plainToken (s : Scanner) : Option Scanner := do
  let s ← s.offerKey
  let indent := s.columns.head?.elim 0 (· + 1)
  let (text, passedBreak, c) ← readPlain s.inFlow indent s.cursor
  return { s with cursor := c, keyAllowed := passedBreak }.emit
    (.scalar .plain (String.ofList text))

/-- A block scalar, which can be no key. -/
def blockToken (s : Scanner) (style : ScalarStyle) : Option Scanner := do
  let s ← s.dropKey
  let (text, c) ← readBlock (style == .folded) s.columns.head? s.cursor
  return { s with cursor := c, keyAllowed := true }.emit (.scalar style (String.ofList text))

/-- A quoted scalar. -/
def quotedToken (s : Scanner) (style : ScalarStyle) (quote : Char) : Option Scanner :=
  s.keyToken fun c => do
    let (text, c) ← readQuoted quote c
    return (.scalar style (String.ofList text), c)

/-- A plain scalar starts here: no other token does, and the character marks none. -/
def plainStarts (s : Scanner) : Bool :=
  let c := s.cursor
  let marks := "-?:,[]\x7b\x7d#&*!|>'\"%@`".toList
  !(c.gapAt 0 || (c.peek 0).any marks.contains) || (c.isAt 0 '-' && !c.blankAt 1) ||
    (!s.inFlow && (c.isAt 0 '?' || c.isAt 0 ':') && !c.gapAt 1)

/-- The next token, on the first character of which the cursor is. -/
def nextToken (s : Scanner) (x : Char) : Option Scanner :=
  let c := s.cursor
  if c.column = 0 && x = '%' then do
    let s ← (s.closeBlocks none).dropKey
    let (t, c) ← readDirective s.cursor
    return { s with cursor := c, keyAllowed := false }.emit t
  else if c.documentMark '-' then s.outerToken .documentStart (c.skip 3)
  else if c.documentMark '.' then s.outerToken .documentEnd (c.skip 3)
  else if x = '[' then s.openFlow .flowSequenceStart
  else if x = '\x7b' then s.openFlow .flowMappingStart
  else if x = ']' then s.closeFlow .flowSequenceEnd
  else if x = '\x7d' then s.closeFlow .flowMappingEnd
  else if x = ',' then do return ((← s.dropKey).pass 1 true).emit .flowEntry
  else if x = '-' && c.gapAt 1 then s.openEntry .blockEntry .blockSequenceStart true
  else if x = '?' && (s.inFlow || c.gapAt 1) then s.openEntry .key .blockMappingStart (!s.inFlow)
  else if x = ':' && (s.inFlow || c.gapAt 1) then s.openValue
  else if x = '*' then s.keyToken fun c => (readName c).map fun (n, c) => (.alias n, c)
  else if x = '&' then s.keyToken fun c => (readName c).map fun (n, c) => (.anchor n, c)
  else if x = '!' then s.keyToken (readTag s.inFlow)
  else if x = '|' && !s.inFlow then s.blockToken .literal
  else if x = '>' && !s.inFlow then s.blockToken .folded
  else if x = '\'' then s.quotedToken .singleQuoted '\''
  else if x = '"' then s.quotedToken .doubleQuoted '"'
  else if s.plainStarts then s.plainToken
  else none

/-- All tokens from here on. Every round but the last reads a character, so the length of the text
bounds their number. -/
def run : Nat → Scanner → Option (Array Token)
  | 0, _ => none
  | n + 1, s => do
    let s ← (s.skipGap (s.cursor.left + 1)).forgetOldKeys
    match s.cursor.peek 0 with
    | none => return (← (s.closeBlocks none).dropKey).tokens
    | some x => run n (← (s.closeBlocks (some s.cursor.column)).nextToken x)

end Scanner

/-- The tokens of a text. -/
def tokens? (text : List Char) : Option (List Token) :=
  if text.all isAllowed then
    let text := unifyBreaks text
    ((Scanner.start text).run (text.length + 1)).map Array.toList
  else none

end RemoteDrive.Yaml
