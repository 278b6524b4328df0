/-
  Shakedown.Net.Url

  URLs as the URL standard reads and writes them, without a base to resolve
  them against.  The special schemes have a host and a path of segments,
  take a backslash for a slash, and leave their default port out.
-/
import Shakedown.Net.Host

namespace Shakedown.Net

open Text

/-- The path of a URL: segments, or any text where the scheme knows no others. -/
inductive UrlPath where
  | segments (list : List (List Char))
  | text (chars : List Char)
deriving DecidableEq, Repr

/-- A URL.  User name, password, path, query and fragment are kept percent-encoded. -/
structure Url where
  scheme : List Char
  username : List Char := []
  password : List Char := []
  host : Option Host := none
  port : Option Nat := none
  path : UrlPath := .segments []
  query : Option (List Char) := none
  fragment : Option (List Char) := none
deriving DecidableEq, Repr

/-- How a scheme is read. -/
inductive SchemeKind where
  | special
  | file
  | other
deriving DecidableEq, Repr

namespace SchemeKind

def ofScheme (scheme : List Char) : SchemeKind :=
  if ["http", "https", "ws", "wss", "ftp"].contains (String.ofList scheme) then special
  else if scheme = "file".toList then file
  else other

/-- Whether a character separates segments. -/
def isSlash (k : SchemeKind) (c : Char) : Bool :=
  c = '/' || (c = '\\' && k ≠ other)

/-- Whether a character ends the part of a URL that names the host. -/
def endsAuthority (k : SchemeKind) (c : Char) : Bool :=
  k.isSlash c || c = '?' || c = '#'

end SchemeKind

/-- The port that a scheme uses when none is given. -/
def defaultPort? (scheme : List Char) : Option Nat :=
  match String.ofList scheme with
  | "http" => some 80
  | "ws" => some 80
  | "https" => some 443
  | "wss" => some 443
  | "ftp" => some 21
  | _ => none

namespace Url

/-! ## Reading, from front to back -/

/-- A text without controls and blanks at its ends, and without any tabs and line ends. -/
def tidy (cs : List Char) : List Char :=
  let isEdge (c : Char) : Bool := c.toNat ≤ 32
  (((cs.dropWhile isEdge).reverse.dropWhile isEdge).reverse).filter
    fun c => !(c = '\t' || c = '\n' || c = '\r')

def isLetter (c : Char) : Bool :=
  let n := c.toLower.toNat
  97 ≤ n && n ≤ 122

/-- The scheme in lower case and what follows its colon. -/
def scheme? (cs : List Char) : Option (List Char × List Char) :=
  let inScheme (c : Char) : Bool :=
    isLetter c || Decimal.isDigit c || c = '+' || c = '-' || c = '.'
  let name := cs.takeWhile inScheme
  match name, cs.dropWhile inScheme with
  | c :: _, ':' :: rest => if isLetter c then some (name.map Char.toLower, rest) else none
  | _, _ => none

/-- User name and password, percent-encoded. -/
def readUserInfo (cs : List Char) : List Char × List Char :=
  (Percent.encode Percent.inUserInfo (cs.takeWhile (· ≠ ':')),
    Percent.encode Percent.inUserInfo ((cs.dropWhile (· ≠ ':')).drop 1))

/-- The part of a host and port that names the host: up to a colon outside brackets. -/
def hostPart (inBrackets : Bool) : List Char → List Char
  | [] => []
  | c :: cs =>
    if c = ':' && !inBrackets then []
    else c :: hostPart (if c = '[' then true else if c = ']' then false else inBrackets) cs

/-- Reads a port, which is not kept if it is the scheme's default. -/
def readPort? (scheme cs : List Char) : Option (Option Nat) :=
  if cs.isEmpty then some none
  else if cs.all Decimal.isDigit then
    let n := Decimal.accumulate 0 cs
    if n ≤ 65535 then some (if defaultPort? scheme = some n then none else some n) else none
  else none

/-- Reads user name, password, host and port into a URL. -/
def readAuthority? (u : Url) (kind : SchemeKind) (cs : List Char) : Option Url := do
  let (info, address) := match cutAtLast '@' cs with
    | some (info, address) => (some info, address)
    | none => (none, cs)
  let (username, password) := readUserInfo (info.getD [])
  -- A user has to be a user of something.
  if info.isSome && address.isEmpty then none
  let host := hostPart false address
  let rest := address.drop host.length
  -- Other schemes may go without a host, but then without user and port too.
  if host.isEmpty && (kind = .special || !rest.isEmpty || !username.isEmpty || !password.isEmpty)
  then none
  let host ← if kind = .special then Host.ofDomain? host else Host.ofText? host
  let port ← readPort? u.scheme (rest.drop 1)
  return { u with username, password, host := some host, port }

/-- Whether a segment stands for its own directory. -/
def isDot (segment : List Char) : Bool :=
  [".", "%2e"].contains (String.ofList (segment.map Char.toLower))

/-- Whether a segment stands for the directory above. -/
def isDotDot (segment : List Char) : Bool :=
  ["..", ".%2e", "%2e.", "%2e%2e"].contains (String.ofList (segment.map Char.toLower))

/-- The segments that pieces come to, `done` those of the pieces before.  A dot segment at
the end leaves an empty one in its place. -/
def resolve (done : List (List Char)) : List (List Char) → List (List Char)
  | [] => done
  | [last] =>
    if isDotDot last then done.dropLast ++ [[]]
    else if isDot last then done ++ [[]]
    else done ++ [last]
  | piece :: rest =>
    if isDotDot piece then resolve done.dropLast rest
    else if isDot piece then resolve done rest
    else resolve (done ++ [piece]) rest

def readSegments (kind : SchemeKind) (cs : List Char) : List (List Char) :=
  let body := match cs with
    | c :: rest => if kind.isSlash c then rest else c :: rest
    | [] => []
  resolve [] ((Percent.encode Percent.inPath body).splitOnP kind.isSlash)

/-- Reads a path after a host.  That of a special scheme is never empty. -/
def readPath (kind : SchemeKind) (cs : List Char) : UrlPath :=
  if cs.isEmpty && kind = .other then .segments [] else .segments (readSegments kind cs)

def withQueryAndFragment (u : Url) (kind : SchemeKind) (cs : List Char) : Url :=
  let encoded := if kind = .other then Percent.inQuery else Percent.inSpecialQuery
  let query := cs.takeWhile (· ≠ '#')
  let fragment := cs.dropWhile (· ≠ '#')
  { u with
    query := match query with
      | '?' :: q => some (Percent.encode encoded q)
      | _ => none
    fragment := match fragment with
      | '#' :: f => some (Percent.encode Percent.inFragment f)
      | _ => none }

/-- Reads host, path and what follows them. -/
def readFromHost? (u : Url) (kind : SchemeKind) (cs : List Char) : Option Url := do
  let authority := cs.takeWhile fun c => !kind.endsAuthority c
  let rest := cs.drop authority.length
  let u ← if kind = .file then
      if authority.isEmpty then some { u with host := some (.name []) }
      else (Host.ofDomain? authority).map fun h =>
        -- A file of this machine is one that no host is named for.
        { u with host := some (if h = .name "localhost".toList then .name [] else h) }
    else readAuthority? u kind authority
  let path := rest.takeWhile fun c => c ≠ '?' && c ≠ '#'
  return withQueryAndFragment { u with path := readPath kind path } kind (rest.drop path.length)

/-- Reads path and what follows it, where no host stands. -/
def readFromPath (u : Url) (kind : SchemeKind) (cs : List Char) : Url :=
  let path := cs.takeWhile fun c => c ≠ '?' && c ≠ '#'
  let read : UrlPath := match path with
    | '/' :: _ => .segments (readSegments kind path)
    | _ => if kind = .file then .segments (readSegments kind path)
      else .text (Percent.encode Percent.isControl path)
  withQueryAndFragment { u with path := read } kind (cs.drop path.length)

def readRest? (scheme cs : List Char) : Option Url :=
  let kind := SchemeKind.ofScheme scheme
  let u : Url := { scheme }
  match kind, cs with
  -- Any number of slashes will do here, none included.
  | .special, cs => readFromHost? u kind (cs.dropWhile kind.isSlash)
  | .file, a :: b :: rest =>
    if kind.isSlash a && kind.isSlash b then readFromHost? u kind rest
    else some (readFromPath { u with host := some (.name []) } kind (a :: b :: rest))
  | .file, cs => some (readFromPath { u with host := some (.name []) } kind cs)
  | .other, '/' :: '/' :: rest => readFromHost? u kind rest
  | .other, cs => some (readFromPath u kind cs)

def read? (s : String) : Option Url := do
  let (scheme, rest) ← scheme? (tidy s.toList)
  readRest? scheme rest

/-! ## Writing -/

/-- The path as it is written. -/
def pathChars (u : Url) : List Char :=
  match u.path with
  | .segments list => list.flatMap ('/' :: ·)
  | .text cs => cs

/-- User name and password as they are written. -/
def userInfoChars (u : Url) : List Char :=
  if u.username.isEmpty && u.password.isEmpty then []
  else u.username ++ (if u.password.isEmpty then [] else ':' :: u.password) ++ ['@']

/-- Host and port as they are written, with what stands before them. -/
def authorityChars (u : Url) : List Char :=
  match u.host with
  | some h =>
    "//".toList ++ u.userInfoChars ++ h.chars ++
      match u.port with
      | some n => ':' :: Decimal.digits n
      | none => []
  | none => match u.path with
    -- Two slashes in front would be read as the start of a host.
    | .segments ([] :: _ :: _) => "/.".toList
    | _ => []

/-- The URL as it is written. -/
def text (u : Url) : String :=
  let mark (c : Char) : Option (List Char) → List Char
    | some cs => c :: cs
    | none => []
  String.ofList (u.scheme ++ ':' :: u.authorityChars ++ u.pathChars ++ mark '?' u.query ++
    mark '#' u.fragment)

/-- What a request for the URL names: path and query. -/
def target (u : Url) : String :=
  String.ofList (u.pathChars ++ match u.query with
    | some q => '?' :: q
    | none => [])

/-- Whether a host is named. -/
def hasHost (u : Url) : Bool :=
  match u.host with
  | some h => !h.chars.isEmpty
  | none => false

/-- Whether the scheme is one of the web's. -/
def isWeb (u : Url) : Bool :=
  u.scheme = "http".toList || u.scheme = "https".toList

end Url

end Shakedown.Net
