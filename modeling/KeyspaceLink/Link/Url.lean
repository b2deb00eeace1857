import KeyspaceLink.Link.Address
import KeyspaceLink.Link.HostName
import KeyspaceLink.Text.Case

/-! Addresses of resources in their normal form: the host in small letters, no default port,
no dot segments, and every octet escaped that may not stand for itself. -/

namespace KeyspaceLink

namespace Url

structure User where
  name : String
  secret : Option String
deriving DecidableEq, Repr

/-- Who is asked. The host may be empty where the scheme is of no special kind. -/
structure Authority where
  user : Option User
  host : String
  /-- Absent when it is the default of the scheme. -/
  port : Option Nat
deriving DecidableEq, Repr

/-- A path of segments after slashes, or a text that has no parts. -/
inductive Path
  | segments (names : List String)
  | plain (text : String)
deriving DecidableEq, Repr

end Url

structure Url where
  scheme : String
  authority : Option Url.Authority
  path : Url.Path
  query : Option String
  fragment : Option String
deriving DecidableEq, Repr

namespace Url

/-- The schemes of a special kind: their addresses have a host, and a backslash is a slash.
Those that have a default port come with it. -/
def specialSchemes : List (String × Option Nat) :=
  [("http", some 80), ("https", some 443), ("ws", some 80), ("wss", some 443), ("ftp", some 21),
   ("file", none)]

def isSpecial (scheme : String) : Bool := (specialSchemes.lookup scheme).isSome

def defaultPort (scheme : String) : Option Nat := (specialSchemes.lookup scheme).bind id

def kept (escaped : List Char) (b : UInt8) : Bool :=
  0x20 < b && b < 0x7F && !escaped.contains (Char.ofNat b.toNat)

/-- Octets that stand for themselves in a fragment, a path, a query and a user. -/
def keptInFragment : UInt8 → Bool := kept ['"', '<', '>', '\x60']
def keptInPath : UInt8 → Bool := kept ['"', '<', '>', '\x60', '#', '?', '\x7b', '\x7d']
def keptInQuery (special : Bool) : UInt8 → Bool :=
  kept (if special then ['"', '<', '>', '#', '\''] else ['"', '<', '>', '#'])
def keptInUser : UInt8 → Bool :=
  kept ['"', '<', '>', '\x60', '#', '?', '\x7b', '\x7d', '/', ':', ';', '=', '@', '[', '\\', ']',
    '^', '|']

/-- Octets that stand for themselves where only controls are escaped. -/
def keptInPlain (b : UInt8) : Bool := 0x20 ≤ b && b < 0x7F

def escaped (keep : UInt8 → Bool) (s : List Char) : String := .ofList (escapeText keep s)

/-- Characters no host may have, and those no name of a host may have. -/
def barredInHost : List Char :=
  ['\x00', '\t', '\n', '\r', ' ', '#', '/', ':', '<', '>', '?', '@', '[', '\\', ']', '^', '|']
def barredInName (c : Char) : Bool :=
  c.toNat ≤ 0x20 || c.toNat == 0x7F || c == '%' || barredInHost.contains c

def readBracketed? (s : List Char) : Option String := do
  let groups ← Address.readEight? (← dropEnding? [']'] s)
  some (.ofList ('[' :: Address.writeEight groups ++ [']']))

def readNamed? (s : List Char) : Option String := do
  let name ← HostName.read? (unescapeText s)
  if name.isEmpty || name.any barredInName then none
  else if Address.endsInNumber name then
    (Address.readFour? name).map fun n => .ofList (Address.writeFour n)
  else some (.ofList name)

def readHost? (special : Bool) : List Char → Option String
  | '[' :: s => readBracketed? s
  | s =>
    if special then readNamed? s
    else if s.any barredInHost.contains then none
    else some (escaped keptInPlain s)

/-- The port after a host; an empty one is as good as none. -/
def readPort? (scheme : String) (s : List Char) : Option (Option Nat) :=
  if s.isEmpty then some none
  else (readDigits? word16 s).map fun n => if defaultPort scheme = some n then none else some n

/-- Splits the port off a host; the colons of an address in brackets are its own. -/
def splitPort (inside : Bool) : List Char → List Char × Option (List Char)
  | [] => ([], none)
  | c :: s =>
    if c == ':' && !inside then ([], some s)
    else
      let (host, port) := splitPort (c == '[' || (inside && c != ']')) s
      (c :: host, port)

/-- A user, whose secret stands after the first colon; what is empty is left out. -/
def readUser (s : List Char) : Option User :=
  let (name, secret) := (cutFirst? ':' s).getD (s, [])
  if name.isEmpty && secret.isEmpty then none
  else
    some ⟨escaped keptInUser name,
      if secret.isEmpty then none else some (escaped keptInUser secret)⟩

def readAuthority? (scheme : String) (s : List Char) : Option Authority := do
  let (user, rest) := match cutLast? '@' s with
    | some (user, rest) => (readUser user, rest)
    | none => (none, s)
  let (host, port) := splitPort false rest
  if host.isEmpty && (isSpecial scheme || port.isSome || user.isSome) then none
  else
    some
      { user
        host := ← readHost? (isSpecial scheme) host
        port := ← readPort? scheme (port.getD []) }

def isSlash (c : Char) : Bool := c == '/' || c == '\\'

def isOneDot (s : List Char) : Bool := [".", "%2e"].contains (lower (.ofList s))

def isTwoDots (s : List Char) : Bool :=
  ["..", ".%2e", "%2e.", "%2e%2e"].contains (lower (.ofList s))

/-- A letter that names a drive, with a colon or a bar. -/
def isDrive : List Char → Bool
  | [c, mark] => c.isAlpha && (mark == ':' || mark == '|')
  | _ => false

/-- Takes the last segment away, the first one here, unless it names a drive. -/
def leave : List String → List String
  | [] => []
  | s :: rest => if isDrive s.toList then s :: rest else rest

/-- The segments of a path, read in turn; `done` holds those kept, the last one first. -/
def segmentsFrom (done : List String) : List (List Char) → List String
  | [] => done.reverse
  | [last] =>
    if isTwoDots last then ("" :: leave done).reverse
    else if isOneDot last then ("" :: done).reverse
    else (escaped keptInPath last :: done).reverse
  | s :: t :: rest =>
    if isTwoDots s then segmentsFrom (leave done) (t :: rest)
    else if isOneDot s then segmentsFrom done (t :: rest)
    else segmentsFrom (escaped keptInPath s :: done) (t :: rest)

/-- The segments of a path after its first slash. -/
def readSegments (special : Bool) (s : List Char) : List String :=
  segmentsFrom [] (pieces (if special then isSlash else (· == '/')) s)

def splitAt (mark : Char) (s : List Char) : List Char × Option (List Char) :=
  match cutFirst? mark s with
  | some (before, after) => (before, some after)
  | none => (s, none)

def withoutControls (s : List Char) : List Char :=
  let edge (c : Char) := c.toNat ≤ 0x20
  (((s.dropWhile edge).reverse.dropWhile edge).reverse).filter fun c =>
    c != '\t' && c != '\n' && c != '\r'

/-- A scheme: a letter, and letters, digits and three marks, before a colon. -/
def scheme? (s : List Char) : Option (String × List Char) := do
  let (before, after) ← cutFirst? ':' s
  if before.head?.any Char.isAlpha &&
      before.all fun c => c.isAlphanum || c == '+' || c == '-' || c == '.' then
    some (lower (.ofList before), after)
  else none

/-- The segments from the first one on that is not empty; the last one stays. -/
def dropEmpty : List String → List String
  | "" :: s :: rest => dropEmpty (s :: rest)
  | names => names

/-- What follows the scheme of a file: its host may be left out, and a drive has none. -/
def readFile? (s : List Char) : Option (Authority × Path) := do
  let slashes := (s.takeWhile isSlash).length
  let rest := if 2 ≤ slashes then s.drop 2 else []
  let named := rest.takeWhile (!isSlash ·)
  let atHost := 2 ≤ slashes && !isDrive named
  let host ← if atHost && !named.isEmpty then readHost? true named else some ""
  let path := if atHost then rest.dropWhile (!isSlash ·) else if 2 ≤ slashes then rest else s
  match pieces isSlash (path.dropWhile isSlash) with
  | first :: more =>
    if isDrive first then
      let drive := String.ofList [first.headD 'c', ':']
      some (⟨none, "", none⟩, .segments (segmentsFrom [drive] more))
    else
      let host := if host == "localhost" then "" else host
      some (⟨none, host, none⟩, .segments (dropEmpty (segmentsFrom [] (first :: more))))
  | [] => none

def readRest? (scheme : String) (s : List Char) : Option (Option Authority × Path) :=
  if scheme == "file" then (readFile? s).map fun (authority, path) => (some authority, path)
  else if isSpecial scheme then do
    let s := s.dropWhile isSlash
    let authority ← readAuthority? scheme (s.takeWhile (!isSlash ·))
    some (some authority, .segments (readSegments true ((s.dropWhile (!isSlash ·)).drop 1)))
  else match s with
    | '/' :: '/' :: s => do
      let authority ← readAuthority? scheme (s.takeWhile (· != '/'))
      let path := s.dropWhile (· != '/')
      let names := if path.isEmpty then [] else readSegments false (path.drop 1)
      some (some authority, .segments names)
    | '/' :: s => some (none, .segments (readSegments false s))
    | s => some (none, .plain (escaped keptInPlain s))

/-- Whether an empty user is told and then no host, though more follows. -/
def lacksHost (s : List Char) : Bool :=
  (dropStart? ['/', '/', '@'] s).any fun rest => rest.head?.any ['/', '?', '#'].contains

def read? (text : String) : Option Url := do
  let (scheme, rest) ← (scheme? (withoutControls text.toList)).filter fun s => !lacksHost s.2
  let (rest, fragment) := splitAt '#' rest
  let (rest, query) := splitAt '?' rest
  let (authority, path) ← readRest? scheme rest
  some
    { scheme
      authority
      path
      query := query.map (escaped (keptInQuery (isSpecial scheme)))
      fragment := fragment.map (escaped keptInFragment) }

def marked (mark : String) : Option String → String
  | some s => mark ++ s
  | none => ""

def pathText (u : Url) : String :=
  match u.path with
  | .plain text => text
  | .segments [] => ""
  | .segments names =>
    let text := "/" ++ "/".intercalate names
    if u.authority.isNone && text.startsWith "//" then "/." ++ text else text

def User.text (user : User) : String := user.name ++ marked ":" user.secret ++ "@"

def authorityText (a : Authority) : String :=
  "//" ++ ((a.user.map User.text).getD "") ++ a.host ++ marked ":" (a.port.map toString)

def text (u : Url) : String :=
  u.scheme ++ ":" ++ ((u.authority.map authorityText).getD "") ++ u.pathText ++
    marked "?" u.query ++ marked "#" u.fragment

def host (u : Url) : String := (u.authority.map Authority.host).getD ""

def peer (u : Url) : String :=
  u.host ++ marked ":" (((u.authority.bind Authority.port).orElse fun _ => defaultPort u.scheme).map
    toString)

/-- The text of a part with its escapes undone, if its octets are a text. -/
def unescaped? (s : String) : Option String :=
  let written := unescapeOctets s.toList
  let read := readOctets written
  if octets read == written then some (.ofList read) else none

/-- Whether a user can be told apart from the address: the name is a text, and it or the
secret is there to be told. -/
def User.isTold (user : User) : Bool :=
  match unescaped? user.name with
  | some name => !name.isEmpty || (user.secret.bind unescaped?).isSome
  | none => false

def withoutUser (u : Url) : Url :=
  { u with
    authority := u.authority.map fun a => { a with user := a.user.filter (!·.isTold) } }

def longest : Nat := 65534

/-- Whether a request can be made for an address: it is one of HTTP, short enough, and its
host has none of the characters that only a name may have. -/
def isRequestable (u : Url) : Bool :=
  (u.scheme == "http" || u.scheme == "https") &&
    !u.host.toList.any ['"', '\x60', '\x7b', '\x7d'].contains &&
    u.text.utf8ByteSize ≤ longest

end Url

end KeyspaceLink
