import RemoteDrive.Yaml.Token

/-!
# The nodes of a YAML text

A text holds at most one document here, and a document is one node: a scalar, a sequence, a mapping
or an alias of one of these. The grammar below takes tokens from a list (`Reader`). A scalar that is
left out where a node belongs is the empty plain scalar; an empty text is that scalar too.

## Names

A node may be given a name, from its first token on, and an alias stands for the node that has the
name then; so a node may hold an alias of itself. An alias is not replaced by what it stands for: it
keeps a number, and `Value` has the nodes that go with the numbers. A name is given the number of
the names so far, itself included if it is not new. So a name that is given again gets a number that
the next new name gets too, and of two nodes with one number the later one counts, for the aliases
before it as well.

## Bounds

Every function of the grammar gives one unit of its bound to the functions it calls. Between two
tokens there are at most three such calls.
-/

set_option autoImplicit false

namespace RemoteDrive.Yaml

inductive Node where
  | scalar (style : ScalarStyle) (tag : Option String) (text : String)
  | sequence (items : List Node)
  | mapping (entries : List (Node × Node))
  | alias (number : Nat)

namespace Node

/-- The node that stands where none is written. -/
def absent : Node := .scalar .plain none ""

end Node

/-- The tokens that are left, and what the tokens before them have defined. -/
structure NodeSource where
  tokens : List Token
  /-- The names so far, each with its number. -/
  names : List (String × Nat)
  /-- The nodes that have been given a name, with its number, in the order of their first tokens. A
  node that is not there yet is `Node.absent`. -/
  named : Array (Nat × Node)
  handles : List (String × String)

/-- Reading nodes from a source; it fails where the grammar has no place for a token. -/
abbrev Reader := StateT NodeSource Option

namespace Reader

/-- The next token. -/
def peek : Reader (Option Token) := do return (← get).tokens.head?

/-- The next token is one of `ts`. -/
def isNext (ts : List Token) : Reader Bool := do return (← peek).any ts.contains

/-- Past one token. -/
def skip : Reader Unit := modify fun s => { s with tokens := s.tokens.drop 1 }

/-- Past the token `t`, which must be there. -/
def expect (t : Token) : Reader Unit := do
  if (← peek) = some t then skip else failure

/-! ## Names and tags -/

/-- The alias of a name, which has to be there. -/
def aliasOf (name : String) : Reader Node := fun s =>
  (s.names.lookup name).map fun number => (.alias number, s)

/-- What a tag means with its handle looked up. -/
def resolveTag (handle suffix : String) : Reader String := fun s =>
  if handle = "" then some (suffix, s)
  else (s.handles.lookup handle).map fun meaning => (meaning ++ suffix, s)

/-- The name of a node, if it has one. -/
def anchor? : Reader (Option String) := do
  match ← peek with
  | some (.anchor name) => skip; return some name
  | _ => return none

/-- The tag of a node, if it has one. -/
def tag? : Reader (Option String) := do
  match ← peek with
  | some (.tag handle suffix) => skip; return some (← resolveTag handle suffix)
  | _ => return none

/-- Name and tag, which come in either order. -/
def properties : Reader (Option String × Option String) := do
  match ← anchor? with
  | some name => return (some name, ← tag?)
  | none =>
    let tag ← tag?
    return (← anchor?, tag)

/-- Reads a node that has been given a name, which stands for the node from then on. -/
def naming (name : Option String) (read : Reader Node) : Reader Node :=
  match name with
  | none => read
  | some name => do
    let s ← get
    let number := s.names.length
    let others := s.names.filter (·.1 != name)
    set { s with names := (name, number) :: others, named := s.named.push (number, .absent) }
    let node ← read
    modify fun t => { t with named := t.named.setIfInBounds s.named.size (number, node) }
    return node

/-! ## The grammar -/

/-- Where a node stands. -/
inductive Place where
  /-- Inside brackets or braces. -/
  | flow
  /-- As an entry, or as the whole document. -/
  | block
  /-- As a key or a value of a block mapping, where a sequence need not be indented. -/
  | blockMapping
deriving DecidableEq

mutual

def node : Nat → Place → Reader Node
  | 0, _ => failure
  | n + 1, place => do
    match ← peek with
    | some (.alias name) => skip; aliasOf name
    | _ =>
      let (name, tag) ← properties
      naming name (content n place (name.isSome || tag.isSome) tag)

/-- A node after its properties; with properties it may be left out. -/
def content : Nat → Place → Bool → Option String → Reader Node
  | 0, _, _, _ => failure
  | n + 1, place, mayBeAbsent, tag => do
    match ← peek with
    | some .blockEntry =>
      if place = .blockMapping then return .sequence (← looseItems n)
      else if mayBeAbsent then return .scalar .plain tag ""
      else failure
    | some (.scalar style text) => skip; return .scalar style tag text
    | some .flowSequenceStart => skip; return .sequence (← flowItems n true)
    | some .flowMappingStart => skip; return .mapping (← flowEntries n true)
    | some .blockSequenceStart =>
      if place ≠ .flow then skip; return .sequence (← blockItems n)
      else if mayBeAbsent then return .scalar .plain tag ""
      else failure
    | some .blockMappingStart =>
      if place ≠ .flow then skip; return .mapping (← blockEntries n)
      else if mayBeAbsent then return .scalar .plain tag ""
      else failure
    | _ => if mayBeAbsent then return .scalar .plain tag "" else failure

/-- A node, left out if one of `ends` is next. -/
def nodeUnless : Nat → Place → List Token → Reader Node
  | 0, _, _ => failure
  | n + 1, place, ends => do
    if ← isNext ends then return .absent else node n place

/-- The items of a block sequence to its end. -/
def blockItems : Nat → Reader (List Node)
  | 0 => failure
  | n + 1 => do
    if ← isNext [.blockEnd] then skip; return []
    else
      expect .blockEntry
      let item ← nodeUnless n .block [.blockEntry, .blockEnd]
      return item :: (← blockItems n)

/-- The items of a sequence that is not indented; it has no end of its own. -/
def looseItems : Nat → Reader (List Node)
  | 0 => failure
  | n + 1 => do
    if ← isNext [.blockEntry] then
      skip
      let item ← nodeUnless n .block [.blockEntry, .key, .value, .blockEnd]
      return item :: (← looseItems n)
    else return []

/-- The entries of a block mapping to its end. -/
def blockEntries : Nat → Reader (List (Node × Node))
  | 0 => failure
  | n + 1 => do
    let ends := [.key, .value, .blockEnd]
    if ← isNext [.blockEnd] then skip; return []
    else
      expect .key
      let key ← nodeUnless n .blockMapping ends
      let value ←
        if ← isNext [.value] then skip; nodeUnless n .blockMapping ends
        else pure .absent
      return (key, value) :: (← blockEntries n)

/-- The items of a sequence in brackets to its end. An item with a key is a mapping of its own. -/
def flowItems : Nat → Bool → Reader (List Node)
  | 0, _ => failure
  | n + 1, first => do
    if ← isNext [.flowSequenceEnd] then skip; return []
    else
      if !first then expect .flowEntry
      if ← isNext [.flowSequenceEnd] then skip; return []
      else
        let item ← if ← isNext [.key] then skip; flowPair n else node n .flow
        return item :: (← flowItems n false)

/-- The one entry of a mapping without braces. A key that is left out takes the next token with
it. -/
def flowPair : Nat → Reader Node
  | 0 => failure
  | n + 1 => do
    let key ←
      if ← isNext [.value, .flowEntry, .flowSequenceEnd] then skip; pure .absent
      else node n .flow
    let value ←
      if ← isNext [.value] then skip; nodeUnless n .flow [.flowEntry, .flowSequenceEnd]
      else pure .absent
    return .mapping [(key, value)]

/-- The entries of a mapping in braces to its end. -/
def flowEntries : Nat → Bool → Reader (List (Node × Node))
  | 0, _ => failure
  | n + 1, first => do
    let ends := [.flowEntry, .flowMappingEnd]
    if ← isNext [.flowMappingEnd] then skip; return []
    else
      if !first then expect .flowEntry
      if ← isNext [.flowMappingEnd] then skip; return []
      else if ← isNext [.key] then
        skip
        let key ← nodeUnless n .flow (.value :: ends)
        let value ← if ← isNext [.value] then skip; nodeUnless n .flow ends else pure .absent
        return (key, value) :: (← flowEntries n false)
      else
        let key ← node n .flow
        return (key, .absent) :: (← flowEntries n false)

end

/-! ## Documents -/

/-- A version of the notation that is known. -/
def isKnownVersion (major minor : Nat) : Bool := major = 1 ∧ (minor = 1 ∨ minor = 2)

/-- Reads the directives before a document: at most one version, and each handle once. -/
def directives : Nat → Bool → List String → Reader Unit
  | 0, _, _ => failure
  | n + 1, versioned, handles => do
    match ← peek with
    | some (.version major minor) =>
      if versioned || !isKnownVersion major minor then failure
      skip
      directives n true handles
    | some (.tagHandle handle meaning) =>
      if handles.contains handle then failure
      skip
      modify fun s => { s with handles := (handle, meaning) :: s.handles }
      directives n versioned (handle :: handles)
    | _ => return ()

/-- Past the marks that end a document. -/
def skipEnds : Nat → Reader Unit
  | 0 => failure
  | n + 1 => do
    if ← isNext [.documentEnd] then
      skip
      skipEnds n
    else return ()

/-- A token that belongs to no node. -/
def isOuter : Token → Bool
  | .version _ _ => true
  | .tagHandle _ _ => true
  | .documentStart => true
  | .documentEnd => true
  | _ => false

/-- The one document of a whole text. -/
def document (n : Nat) : Reader Node := do
  let first ← peek
  if first.isNone then return .absent
  if first.any fun t => isOuter t && t != .documentEnd then
    directives n false []
    expect .documentStart
  else if first = some .documentEnd then failure
  let root ← if (← peek).all isOuter then pure .absent else node n .block
  skipEnds n
  if (← peek).isNone then return root else failure

end Reader

/-- The handles that need no directive. -/
def standardHandles : List (String × String) := [("!", "!"), ("!!", "tag:yaml.org,2002:")]

/-- A node together with the nodes that its aliases stand for. -/
structure Value where
  node : Node
  named : Array (Nat × Node)

namespace Value

/-- The node itself, or the one that it is an alias of. -/
def target? (v : Value) : Option Node :=
  match v.node with
  | .alias number => (v.named.findRev? (·.1 == number)).map (·.2)
  | node => some node

/-- The value that tokens write. -/
def ofTokens? (ts : List Token) : Option Value :=
  ((Reader.document (4 * ts.length + 16)).run ⟨ts, [], #[], standardHandles⟩).map
    fun (node, s) => ⟨node, s.named⟩

/-- The value that a text writes. -/
def parse? (text : List Char) : Option Value := (tokens? text).bind ofTokens?

end Value

end RemoteDrive.Yaml
