import RemoteDrive.Url.Host
import RemoteDrive.Url.Form

/-!
# URLs

A URL is read into its parts, each brought to its one spelling, and `Url.text` writes them again.
White space at the ends and line breaks inside do not count, with one exception: in a file's path a
line break right behind a drive stands for a slash. The fragment and the query are cut off first,
since nothing before them may hold a `#` or a `?`; what is left starts with a scheme.

For the well-known schemes two slashes may be any number of slashes of either kind, the host may
not be empty, a port that is the scheme's own is dropped, and the path is at least a slash. In a
path the segments `.` and `..` are carried out, but no `..` leads out of a drive (`isDrive`). A file
on a drive has no host.

A URL without a scheme is none: there is nothing here that it could be relative to.
-/

set_option autoImplicit false

namespace RemoteDrive

structure Url where
  scheme : String
  /-- The user's name, empty if there is none. -/
  user : String
  password : Option String
  /-- None where the scheme is followed by a bare path. -/
  host : Option String
  port : Option Nat
  path : String
  query : Option String
  fragment : Option String
deriving DecidableEq

namespace Url

/-! ## Characters that do not count -/

def isLineBreak (c : Char) : Bool := c = '\t' || c = '\n' || c = '\r'

/-- The text without white space and control characters at its ends. -/
def trimmed (s : List Char) : List Char :=
  let isEdge := fun (c : Char) => decide (c.toNat ≤ 0x20)
  ((s.dropWhile isEdge).reverse.dropWhile isEdge).reverse

/-- The characters that count. -/
def relevant (s : List Char) : List Char := s.filter fun c => !isLineBreak c

/-! ## Schemes -/

/-- The port of a scheme. -/
def standardPort? : String → Option Nat
  | "http" => some 80
  | "ws" => some 80
  | "https" => some 443
  | "wss" => some 443
  | "ftp" => some 21
  | _ => none

def isFile (scheme : String) : Bool := scheme = "file"

/-- A scheme whose URLs have a host and a path of segments. -/
def isKnown (scheme : String) : Bool := (standardPort? scheme).isSome || isFile scheme

def isSchemeChar (c : Char) : Bool := c.isAlphanum || c = '+' || c = '-' || c = '.'

/-- The scheme before the first colon, in lower case. -/
def scheme? (s : List Char) : Option String :=
  if s.head?.any Char.isAlpha && (s.dropWhile isSchemeChar).head? = some ':' then
    some (String.ofList ((s.takeWhile isSchemeChar).map Char.toLower))
  else none

/-! ## Paths -/

/-- A slash; a backslash too in the well-known schemes. -/
def isSlash (known : Bool) (c : Char) : Bool := c = '/' || (known && c = '\\')

/-- The segment means the one it stands in. -/
def isHere (segment : List Char) : Bool :=
  [".", "%2e"].contains (String.ofList (segment.map Char.toLower))

/-- The segment means the one above. -/
def isAbove (segment : List Char) : Bool :=
  ["..", ".%2e", "%2e.", "%2e%2e"].contains (String.ofList (segment.map Char.toLower))

/-- The name of a drive: a letter, and a colon or a bar behind it. -/
def isDrive : List Char → Bool
  | [letter, mark] => letter.isAlpha && (mark = ':' || mark = '|')
  | _ => false

/-- Segments without the last one, which is the first of the list. A drive is not left; what stands
behind a backslash does not count there. -/
def leave : List (List Char) → List (List Char)
  | [] => []
  | s :: done => if isDrive ((relevant s).takeWhile (· != '\\')) then s :: done else done

/-- What stands behind a drive and a line break, if anything does; and the drive with the break,
which keeps it from being taken for a drive that was written as such. -/
def brokenDrive? (s : List Char) : Option (List Char × List Char) :=
  match s.dropWhile isLineBreak with
  | [] => none
  | letter :: behind =>
    match behind.dropWhile isLineBreak with
    | ':' :: mark :: rest =>
      if letter.isAlpha && isLineBreak mark && relevant rest ≠ [] then
        some (rest, [letter, ':', mark])
      else none
    | _ => none

/-- Segments with one more, `done` being those before it in reverse. At the start of a file's path
a drive is written with a colon. -/
def enter (inFile : Bool) (done : List (List Char)) (s : List Char) : List (List Char) :=
  if inFile && done.isEmpty then
    match brokenDrive? s with
    | some (rest, drive) => [rest, drive]
    | none => if isDrive (relevant s) then [(relevant s).take 1 ++ [':']] else [s]
  else s :: done

/-- Segments with `.` and `..` carried out; `done` is what stands before them, in reverse. At the
end either leaves an empty segment, because what it means is a folder. -/
def resolve (inFile : Bool) : List (List Char) → List (List Char) → List (List Char)
  | done, [] => done.reverse
  | done, s :: rest =>
    let word := relevant s
    if isAbove word then
      resolve inFile (if rest.isEmpty then [] :: leave done else leave done) rest
    else if isHere word then resolve inFile (if rest.isEmpty then [] :: done else done) rest
    else resolve inFile (enter inFile done s) rest

/-- The spelling of a path with these segments. -/
def segmentsText (segments : List (List Char)) : List Char :=
  segments.flatMap fun s => '/' :: Percent.encode Percent.inPath (relevant s)

/-- The text without a slash at its start. -/
def dropSlash (known : Bool) (s : List Char) : List Char :=
  let s := s.dropWhile isLineBreak
  if s.head?.any (isSlash known) then s.drop 1 else s

/-- The spelling of a path; its first slash may be left out. -/
def pathText (known : Bool) (s : List Char) : String :=
  String.ofList (segmentsText (resolve false [] ((dropSlash known s).splitOnP (isSlash known))))

/-- The spelling of the path behind a host. -/
def pathAfterHost (known : Bool) (s : List Char) : String :=
  if s.isEmpty && !known then "" else pathText known s

/-- The spelling of a file's path, in which slashes at the start are one, and whether it is on a
drive. Line breaks are still in `s`. -/
def filePath (s : List Char) : Bool × String :=
  let segments := resolve true [] ((dropSlash true s).splitOnP (isSlash true))
  (segments.head?.any isDrive,
    String.ofList ('/' :: (segmentsText segments).dropWhile (· == '/')))

/-! ## Users, hosts and ports -/

/-- Name and password before the last `@`, and what follows it. -/
def splitUser (s : List Char) : Option (List Char) × List Char :=
  match s.reverse.splitOnP (· == '@') with
  | [_] => (none, s)
  | last :: others => (some (List.intercalate ['@'] others).reverse, last.reverse)
  | [] => (none, s)

/-- How many characters the host fills: a colon inside brackets belongs to it. -/
def hostLength : Bool → List Char → Nat
  | _, [] => 0
  | bracketed, c :: rest =>
    if c = ':' && !bracketed then 0
    else 1 + hostLength (if c = '[' then true else if c = ']' then false else bracketed) rest

/-- The port behind a host, where the scheme's own is none, and what follows it. No more than a
backslash may do so, which starts the path. -/
def port? (scheme : String) (s : List Char) : Option (Option Nat × List Char) :=
  match s with
  | [] => some (none, [])
  | c :: s =>
    let digits := s.takeWhile Decimal.isDigit
    let rest := s.dropWhile Decimal.isDigit
    let port := Decimal.value digits
    if c ≠ ':' || rest.head?.any (· != '\\') || 65535 < port then none
    else if digits.isEmpty || standardPort? scheme = some port then some (none, rest)
    else some (some port, rest)

/-- The URL of a scheme with a host, files apart; `s` is what stands behind the slashes. An `@`
with nothing on either side is no host. -/
def ofAuthority? (scheme : String) (s : List Char) (query fragment : Option String) :
    Option Url := do
  let known := isKnown scheme
  let authority := s.takeWhile fun c => !isSlash known c
  let path := s.drop authority.length
  if authority = ['@'] && (!path.isEmpty || query.isSome || fragment.isSome) then none
  let (login, place) := splitUser authority
  let name := login.getD []
  let user := name.takeWhile (· != ':')
  let password := (name.dropWhile (· != ':')).drop 1
  let spell := fun cs => String.ofList (Percent.encode Percent.inUser cs)
  let n := hostLength false place
  let host ← if known then Host.known? (place.take n) else Host.foreign? (place.take n)
  let hasUser := !user.isEmpty || !password.isEmpty
  if host = "" && (known || hasUser || (place.drop n).head? = some ':') then none
  let (port, rest) ← port? scheme (place.drop n)
  return ⟨scheme, spell user, if password.isEmpty then none else some (spell password), host, port,
    pathAfterHost known (rest ++ path), query, fragment⟩

/-- The URL of a file; `s` is what follows the scheme, with its line breaks. The host is usually
left out, and what looks like a drive is none. -/
def ofFile? (s : List Char) (query fragment : Option String) : Option Url := do
  let slashes := (relevant s).take 2
  let isPlace := fun c => !isSlash true c
  let hasPlace := slashes.length = 2 && slashes.all (isSlash true)
  let s := if hasPlace then dropSlash true (dropSlash true s) else s
  let place := if hasPlace then relevant (s.takeWhile isPlace) else []
  if place.isEmpty || isDrive place then
    return ⟨"file", "", none, some "", none, (filePath s).2, query, fragment⟩
  else
    let host ← Host.known? place
    let (onDrive, path) := filePath (s.dropWhile isPlace)
    let host := if onDrive || host = "localhost" then "" else host
    return ⟨"file", "", none, some host, none, path, query, fragment⟩

/-! ## Reading -/

/-- What stands before the first `mark`, and what behind it. -/
def cut (mark : Char) (s : List Char) : List Char × Option (List Char) :=
  match s.dropWhile (· != mark) with
  | [] => (s, none)
  | _ :: rest => (s.takeWhile (· != mark), some rest)

/-- The URL that a text writes. -/
def parse? (text : String) : Option Url := do
  let (s, fragment) := cut '#' (trimmed text.toList)
  let (s, query) := cut '?' s
  let scheme ← scheme? (relevant s)
  let known := isKnown scheme
  let spell := fun keep cs => String.ofList (Percent.encode keep (relevant cs))
  let query := query.map (spell (Percent.inQuery known))
  let fragment := fragment.map (spell Percent.inFragment)
  let rest := (s.dropWhile (· != ':')).drop 1
  let s := relevant rest
  if isFile scheme then ofFile? rest query fragment
  else if known then ofAuthority? scheme (s.dropWhile (isSlash true)) query fragment
  else if s.take 2 = ['/', '/'] then ofAuthority? scheme (s.drop 2) query fragment
  else if s.head? = some '/' then
    return ⟨scheme, "", none, none, none, pathText false s, query, fragment⟩
  else
    let path := String.ofList (Percent.encode Percent.isPrintable s)
    return ⟨scheme, "", none, none, none, path, query, fragment⟩

/-! ## Writing -/

/-- User and host with what separates them. -/
def authorityText (u : Url) : String :=
  match u.host with
  | none => ""
  | some host =>
    let password := u.password.elim "" (":" ++ ·)
    let login := if u.user = "" && u.password.isNone then "" else u.user ++ password ++ "@"
    "//" ++ login ++ host ++ u.port.elim "" fun n => ":" ++ Decimal.nat n

/-- What keeps the start of a path from being taken for a host. -/
def pathGuard (u : Url) : String :=
  if u.host.isNone && u.path.toList.take 2 = ['/', '/'] then "/." else ""

/-- The URL in its one spelling. -/
def text (u : Url) : String :=
  u.scheme ++ ":" ++ u.authorityText ++ u.pathGuard ++ u.path ++ u.query.elim "" ("?" ++ ·) ++
    u.fragment.elim "" ("#" ++ ·)

/-! ## Use -/

/-- There is somebody to connect to. -/
def hasHost (u : Url) : Bool := u.host.any (· ≠ "")

/-- The longest URL that is sent, in bytes. -/
def lengthLimit : Nat := 65534

/-- A request can be sent there: the protocol is the right one, and the URL stays within the limits
of a request. -/
def isSendable (u : Url) : Bool :=
  (u.scheme = "http" || u.scheme = "https") &&
    !(u.host.getD "").toList.any "\"`\x7b\x7d".toList.contains &&
    u.text.utf8ByteSize ≤ lengthLimit

/-- The URL with one more pair in its query. -/
def withPair (u : Url) (name value : String) : Url :=
  let pair := Form.encode [(name, value)]
  let query := match u.query with
    | none => pair
    | some "" => pair
    | some q => q ++ "&" ++ pair
  { u with query := some query }

/-- Name and password as they were before they were written into the URL. There are none if the
name is no text; a password that is no text is none. -/
def login? (u : Url) : Option (String × Option String) := do
  let text := fun (s : String) => (Utf8.decode? (Percent.decode s.toList)).map String.ofList
  let user ← text u.user
  let password := u.password.bind text
  if user = "" && password.isNone then none else some (user, password)

/-- The URL without name and password. -/
def withoutUser (u : Url) : Url := { u with user := "", password := none }

end Url

end RemoteDrive
