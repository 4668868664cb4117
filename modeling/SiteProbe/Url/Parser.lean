import SiteProbe.Text.Utf8
import SiteProbe.Url.Basic
import SiteProbe.Url.Domain
import SiteProbe.Url.Percent

/-!
# Reading URLs

A text is read as a URL, on its own or as it is meant within a base (`Url.parse`, `Url.join`). The schemes of the web
always have a host and take a backslash for a slash. Dot segments are resolved while a path is read.
-/

namespace SiteProbe.Url

/-- The schemes of the web and their ports; files have none. -/
def webSchemes : List (String × Option Nat) :=
  [("http", some 80), ("https", some 443), ("ws", some 80), ("wss", some 443), ("ftp", some 21), ("file", none)]

/-- Whether a scheme is one of the web. -/
def isWeb (scheme : String) : Bool := (webSchemes.lookup scheme).isSome

/-- The port of a scheme. -/
def defaultPort (scheme : String) : Option Nat := (webSchemes.lookup scheme).join

/-- Whether a character separates segments of a path. -/
def isSlash (scheme : String) (c : Char) : Bool := c = '/' || (c = '\\' && isWeb scheme)

/-- The text without blanks and control characters around it and without tabs and line breaks in it. -/
def clean (input : String) : List Char :=
  let outer (c : Char) : Bool := c.toNat ≤ 0x20
  let trimmed := ((input.toList.dropWhile outer).reverse.dropWhile outer).reverse
  trimmed.filter fun c => c ≠ '\t' && c ≠ '\n' && c ≠ '\r'

/-- The characters of a scheme, in small letters, up to its colon, and what is behind it. -/
def readSchemeTail? : List Char → Option (List Char × List Char)
  | [] => none
  | c :: rest =>
    if c = ':' then some ([], rest)
    else if c.isAlphanum || c = '+' || c = '-' || c = '.' then
      (readSchemeTail? rest).map fun (scheme, rest) => (c.toLower :: scheme, rest)
    else none

/-- The scheme at the front of a text, and what is behind its colon. -/
def readScheme? (cs : List Char) : Option (String × List Char) :=
  match cs with
  | [] => none
  | c :: _ =>
    if c.isAlpha then (readSchemeTail? cs).map fun (scheme, rest) => (String.ofList scheme, rest) else none

/-! ### Hosts -/

/-- The host of a scheme of the web. -/
def webHost (cs : List Char) : Except Error Host := do
  if cs.head? = some '[' then
    let inner := (cs.drop 1).dropLast
    if cs.getLast? ≠ some ']' then throw .badIpv6
    match Ipv6.parse? inner with
    | some pieces => return .ipv6 pieces
    | none => throw .badIpv6
  else
    let some domain := Domain.toAscii? (percentDecode (Utf8.encode (String.ofList cs))) | throw .badDomain
    if domain.isEmpty then throw .emptyHost
    if Ipv4.endsInNumber domain then
      match Ipv4.parse? domain with
      | some address => return .ipv4 address
      | none => throw .badIpv4
    else return .domain (String.ofList domain)

/-- What a host outside of the web may not hold. -/
def forbiddenInHost : List Char :=
  ['\x00', '\t', '\n', '\r', ' ', '#', '/', ':', '<', '>', '?', '@', '[', '\\', ']', '^', '|']

/-- The host of a scheme outside of the web. -/
def otherHost (cs : List Char) : Except Error Host := do
  if cs.head? = some '[' then
    if cs.getLast? ≠ some ']' then throw .badIpv6
    match Ipv6.parse? ((cs.drop 1).dropLast) with
    | some pieces => return .ipv6 pieces
    | none => throw .badIpv6
  else if cs.any forbiddenInHost.contains then throw .badDomainCharacter
  else return .domain (percentEncode [] cs)

/-- A letter with a colon or a bar names a drive. -/
def isDrive : List Char → Bool
  | [c, d] => c.isAlpha && (d = ':' || d = '|')
  | _ => false

/-- The host of a file; none if it is this machine. -/
def fileHost (cs : List Char) : Except Error Host := do
  if cs.isEmpty then return .domain ""
  let host ← webHost cs
  return if host = .domain "localhost" then .domain "" else host

/-! ### What stands before the path -/

/-- What stands between two slashes and the path. -/
structure Authority where
  username : String
  password : Option String
  host : Host
  port : Option Nat

/-- Whether a character ends the part of a URL that has the host. -/
def endsAuthority (scheme : String) (c : Char) : Bool := isSlash scheme c || c = '?' || c = '#'

/-- What stands before the last at sign, if there is one, and what stands behind it. -/
def cutUser? (cs : List Char) : Option (List Char × List Char) :=
  if cs.contains '@' then
    let behind := (cs.reverse.takeWhile (· ≠ '@')).reverse
    some (cs.take (cs.length - behind.length - 1), behind)
  else none

/-- The characters of a host, up to a colon that is not within brackets, and what is behind them. -/
def takeHost (inside : Bool) : List Char → List Char × List Char
  | [] => ([], [])
  | c :: rest =>
    if c = ':' && !inside then ([], c :: rest)
    else
      let (host, rest) := takeHost (if c = '[' then true else if c = ']' then false else inside) rest
      (c :: host, rest)

/-- The port behind a host, up to a backslash, and what is left. -/
def readPort (scheme : String) (cs : List Char) : Except Error (Option Nat × List Char) := do
  let digits := (cs.drop 1).takeWhile (· ≠ '\\')
  let rest := (cs.drop 1).dropWhile (· ≠ '\\')
  if !digits.all Char.isDigit then throw .badPort
  if digits.isEmpty then return (none, rest)
  let port : Nat := digits.foldl (fun n c => n * 10 + (c.toNat - 48)) 0
  if 65535 < port then throw .badPort
  return (if defaultPort scheme = some port then none else some port, rest)

/-- The user name and password of what stands before an at sign. -/
def readUser (cs : List Char) : String × Option String :=
  let name := cs.takeWhile (· ≠ ':')
  let password := (cs.dropWhile (· ≠ ':')).drop 1
  (percentEncode userSet name, if password.isEmpty then none else some (percentEncode userSet password))

/-- Read what stands between two slashes and the path. -/
def readAuthority (scheme : String) (cs : List Char) : Except Error (Authority × List Char) := do
  let front := cs.takeWhile fun c => !endsAuthority scheme c
  let rest := cs.dropWhile fun c => !endsAuthority scheme c
  let (user, place) := (cutUser? front).getD ([], front)
  let (hostChars, portChars) := takeHost false place
  if front = ['@'] && !rest.isEmpty then throw .emptyHost
  if isWeb scheme && hostChars.isEmpty then throw .emptyHost
  let host ← if isWeb scheme then webHost hostChars else otherHost hostChars
  if hostChars.isEmpty && !portChars.isEmpty then throw .emptyHost
  let (port, left) ← readPort scheme portChars
  let (username, password) := readUser user
  if host = .domain "" && (username ≠ "" || password.isSome) then throw .emptyHost
  return (⟨username, password, host, port⟩, left ++ rest)

/-! ### Paths -/

/-- Whether a segment means the current directory. -/
def isDot (segment : String) : Bool := [".", "%2e"].contains segment.toLower

/-- Whether a segment means the directory above. -/
def isDoubleDot (segment : String) : Bool := ["..", ".%2e", "%2e.", "%2e%2e"].contains segment.toLower

/-- Leave a directory. A drive is never left. -/
def leave : List String → List String
  | [] => []
  | d :: ds => if isDrive d.toList then d :: ds else ds

/-- Walk along segments from the directories already entered, the last one first. -/
def walk (entered : List String) : List String → List String
  | [] => entered
  | [s] =>
    if isDoubleDot s then "" :: leave entered else if isDot s then "" :: entered else s :: entered
  | s :: rest =>
    if isDoubleDot s then walk (leave entered) rest else if isDot s then walk entered rest else walk (s :: entered) rest

/-- The segments of a path text, behind the slash at its front, from the directories already entered. -/
def readSegments (scheme : String) (entered : List String) (cs : List Char) : List String :=
  (walk entered ((Text.pieces (isSlash scheme) cs).map (percentEncode pathSet))).reverse

/-- The directories of a path, the last one first. -/
def Path.directories : Path → List String
  | .literal _ => []
  | .segments ss => ss.dropLast.reverse

/-- The end of a URL behind its path. -/
def readEnd (scheme : String) (cs : List Char) : Option String × Option String :=
  match cs with
  | '?' :: rest =>
    let query := percentEncode (if isWeb scheme then webQuerySet else querySet) (rest.takeWhile (· ≠ '#'))
    let fragment :=
      match rest.dropWhile (· ≠ '#') with
      | _ :: f => some (percentEncode fragmentSet f)
      | [] => none
    (some query, fragment)
  | '#' :: f => (none, some (percentEncode fragmentSet f))
  | _ => (none, none)

/-- The characters of a path, and the end of the URL behind them. -/
def cutPath (cs : List Char) : List Char × List Char :=
  (cs.takeWhile fun c => c ≠ '?' && c ≠ '#', cs.dropWhile fun c => c ≠ '?' && c ≠ '#')

/-- The path behind a host. -/
def readPathAfterHost (scheme : String) (cs : List Char) : Path :=
  match cs with
  | [] => .segments (if isWeb scheme then [""] else [])
  | c :: rest => .segments (readSegments scheme [] (if isSlash scheme c then rest else c :: rest))

/-- A URL behind the two slashes of its host. -/
def readHosted (scheme : String) (cs : List Char) : Except Error Url := do
  let (a, rest) ← readAuthority scheme cs
  let (path, rest) := cutPath rest
  let (query, fragment) := readEnd scheme rest
  return ⟨scheme, a.username, a.password, some a.host, a.port, readPathAfterHost scheme path, query, fragment⟩

/-- The URL of a file, behind the two slashes of its host. A path that starts with a drive has no host. -/
def readFile (cs : List Char) : Except Error Url := do
  let ends (c : Char) : Bool := endsAuthority "file" c
  let front := cs.takeWhile fun c => !ends c
  let host ← if isDrive front then pure (.domain "") else fileHost front
  let (path, rest) := cutPath (if isDrive front then cs else cs.dropWhile fun c => !ends c)
  let (query, fragment) := readEnd "file" rest
  let path := readPathAfterHost "file" path
  let starts :=
    match path with
    | .segments (s :: _) => isDrive s.toList
    | _ => false
  return ⟨"file", "", none, some (if starts then .domain "" else host), none, path, query, fragment⟩

/-- A URL without a host, behind its scheme. -/
def readHostless (scheme : String) (cs : List Char) : Url :=
  let (path, rest) := cutPath cs
  let (query, fragment) := readEnd scheme rest
  let path :=
    match path with
    | '/' :: segments => Path.segments (readSegments scheme [] segments)
    | _ => Path.literal (percentEncode [] path)
  ⟨scheme, "", none, none, none, path, query, fragment⟩

/-! ### Whole URLs -/

/-- How many slashes of either kind are in front. -/
def slashes (cs : List Char) : Nat := (cs.takeWhile fun c => c = '/' || c = '\\').length

/-- A text without a scheme as it is meant within a base. -/
def readRelative (base : Url) (cs : List Char) : Except Error Url := do
  match cs with
  | [] => return { base with fragment := none }
  | '?' :: _ =>
    let (query, fragment) := readEnd base.scheme cs
    return { base with query, fragment }
  | '#' :: _ => return { base with fragment := (readEnd base.scheme cs).2 }
  | c :: rest =>
    if 2 ≤ slashes cs then
      let behind := if ['/', '/'].isPrefixOf cs then cs.drop 2 else cs.drop (slashes cs)
      if base.scheme = "file" then readFile behind else readHosted base.scheme behind
    else
      let absolute := c = '/' || c = '\\'
      let (path, rest) := cutPath (if absolute then rest else cs)
      let (query, fragment) := readEnd base.scheme rest
      let entered := if absolute then [] else base.path.directories
      return { base with path := .segments (readSegments base.scheme entered path), query, fragment }

/-- A URL behind its scheme. -/
def readScheme (base : Option Url) (scheme : String) (cs : List Char) : Except Error Url :=
  if scheme = "file" then
    if 2 ≤ slashes cs then readFile (cs.drop 2) else readFile (if slashes cs = 1 then cs else '/' :: cs)
  else if isWeb scheme then
    match base with
    | some b =>
      if slashes cs < 2 && b.scheme = scheme then readRelative b cs
      else readHosted scheme (cs.drop (slashes cs))
    | none => readHosted scheme (cs.drop (slashes cs))
  else if ['/', '/'].isPrefixOf cs then readHosted scheme (cs.drop 2)
  else .ok (readHostless scheme cs)

/-- Read a text as a URL, within a base if there is one. -/
def read (base : Option Url) (input : String) : Except Error Url :=
  let cs := clean input
  match readScheme? cs, base with
  | some (scheme, rest), base => readScheme base scheme rest
  | none, none => .error .relativeWithoutBase
  | none, some b =>
    match b.path, cs with
    | .literal _, '#' :: _ => readRelative b cs
    | .literal _, _ => .error .relativeToOpaque
    | _, _ => readRelative b cs

/-- Read a text as a URL on its own. -/
def parse (input : String) : Except Error Url := read none input

/-- Read a text as a URL as it is meant within a base. -/
def join (base : Url) (input : String) : Except Error Url := read (some base) input

end SiteProbe.Url
