import ZigbeeBridge.Text.Ascii
import ZigbeeBridge.Text.Bytes
import ZigbeeBridge.Url.Domain
import ZigbeeBridge.Url.Ipv6
import ZigbeeBridge.Url.Percent

/-!
Reading an absolute URL. White space around it and line breaks and tabs in it do not count. In the
schemes that always have a host a backslash divides like a slash, and slashes before the host may
be missing or too many.
-/
namespace ZigbeeBridge.Url

open Text

/-- A character that may stand in a scheme after the first letter. -/
def inScheme (c : Char) : Bool := c.isAlphanum || c == '+' || c == '-' || c == '.'

def scheme? (cs : List Char) : Option (String × List Char) :=
  match cs with
  | c :: _ =>
    let name := cs.takeWhile inScheme
    match cs.dropWhile inScheme with
    | ':' :: rest =>
      if c.isAlpha then some (lowercase (String.ofList name), rest) else none
    | _ => none
  | [] => none

def isSlash (special : Bool) (c : Char) : Bool := c == '/' || (special && c == '\\')

/-- A character that ends the authority of a URL. -/
def endsAuthority (special : Bool) (c : Char) : Bool := isSlash special c || c == '?' || c == '#'

/-- User name and password of an authority, and the rest of it behind the last `@`. -/
def userinfo (authority after : List Char) :
    Except Flaw (String × String × List Char) :=
  if !authority.contains '@' then .ok ("", "", authority)
  else
    let reversed := authority.reverse
    let host := (reversed.takeWhile (· ≠ '@')).reverse
    let info := ((reversed.dropWhile (· ≠ '@')).drop 1).reverse
    if info.isEmpty ∧ host.isEmpty ∧ !after.isEmpty then .error .emptyHost
    else
      let text (cs : List Char) := String.ofList (encode inUserinfo cs)
      .ok (text (info.takeWhile (· ≠ ':')), text ((info.dropWhile (· ≠ ':')).drop 1), host)

/-- The host and what follows it; a colon in brackets does not end it. -/
def splitHost (bracketed : Bool) : List Char → List Char × List Char
  | [] => ([], [])
  | c :: cs =>
    if c = ':' ∧ !bracketed then ([], c :: cs)
    else
      let bracketed := if c = '[' then true else if c = ']' then false else bracketed
      let (host, rest) := splitHost bracketed cs
      (c :: host, rest)

def isForbiddenInHost (c : Char) : Bool :=
  "\x00\t\n\r #/:<>?@[\\]^|".toList.contains c

def bracketedHost (cs : List Char) : Except Flaw Host :=
  if cs.getLast? = some ']' then (Ipv6.parse cs.dropLast).map .ipv6 else .error .badIpv6

/-- A host of a scheme that always has one. -/
def specialHost (cs : List Char) : Except Flaw Host :=
  match cs with
  | '[' :: cs => bracketedHost cs
  | _ => do
    let name ← Domain.toAscii (decodeBytes (decode cs)).toList
    if name.isEmpty then throw .emptyHost
    if Ipv4.looksLike name then (Ipv4.parse name).map .ipv4
    else pure (.domain (String.ofList name))

/-- A host of any other scheme is not interpreted. -/
def plainHost (cs : List Char) : Except Flaw Host :=
  match cs with
  | '[' :: cs => bracketedHost cs
  | _ =>
    if cs.any isForbiddenInHost then .error .badDomainCharacter
    else .ok (.domain (String.ofList (encode controls cs)))

/-- A port after its colon; none where it is empty or the scheme's own. -/
def portIn (scheme : String) (cs : List Char) : Except Flaw (Option UInt16) :=
  if cs.isEmpty then .ok none
  else
    match Ipv4.numberIn? 10 cs with
    | some n =>
      if n < 0x10000 then
        let p := UInt16.ofNat n
        .ok (if defaultPort scheme = some p then none else some p)
      else .error .badPort
    | none => .error .badPort

def hostAndPort (scheme : String) (authority : List Char) :
    Except Flaw (Host × Option UInt16) := do
  let (name, rest) := splitHost false authority
  if name.isEmpty ∧ (isSpecial scheme ∨ !rest.isEmpty) then throw .emptyHost
  let host ← if isSpecial scheme then specialHost name else plainHost name
  pure (host, ← portIn scheme (rest.drop 1))

def isSingleDot (segment : List Char) : Bool :=
  [".", "%2e"].contains (lowercase (String.ofList segment))

def isDoubleDot (segment : List Char) : Bool :=
  ["..", ".%2e", "%2e.", "%2e%2e"].contains (lowercase (String.ofList segment))

/-- The letter of a drive. -/
def isDrive : List Char → Bool
  | [letter, mark] => letter.isAlpha && (mark == ':' || mark == '|')
  | _ => false

/-- The segments without the last one, in reverse order; a file does not leave its drive. -/
def leave (file : Bool) : List String → List String
  | [first] => if file && isDrive first.toList then [first] else []
  | before => before.drop 1

def segmentText (file : Bool) (before : List String) (segment : List Char) : String :=
  if file && before.isEmpty && isDrive segment then String.ofList (segment.take 1 ++ [':'])
  else String.ofList (encode inPath segment)

/-- Segments with the dots resolved, on top of those that came before in reverse order. -/
def resolveDots (file : Bool) (before : List String) : List (List Char) → List String
  | [] => before.reverse
  | segment :: rest =>
    let before :=
      if isDoubleDot segment then
        (if rest.isEmpty then "" :: leave file before else leave file before)
      else if isSingleDot segment then (if rest.isEmpty then "" :: before else before)
      else segmentText file before segment :: before
    resolveDots file before rest

/-- The segments of a path without its first slash. -/
def pathSegments (scheme : String) (cs : List Char) : List String :=
  resolveDots (scheme = "file") [] (cs.splitOnP (isSlash (isSpecial scheme)))

/-- The path behind an authority. -/
def authorityPath (scheme : String) (cs : List Char) : UrlPath :=
  match cs with
  | [] => .segments (if isSpecial scheme then [""] else [])
  | c :: rest =>
    .segments (pathSegments scheme (if isSlash (isSpecial scheme) c then rest else c :: rest))

structure Tail where
  path : List Char
  query : Option String
  fragment : Option String

/-- Cuts off the fragment and the query. -/
def tail (scheme : String) (cs : List Char) : Tail :=
  let front := cs.takeWhile (· ≠ '#')
  let set := if isSpecial scheme then inSpecialQuery else inQuery
  let fragment := match cs.dropWhile (· ≠ '#') with
    | [] => none
    | _ :: text => some (String.ofList (encode inFragment text))
  let query := match front.dropWhile (· ≠ '?') with
    | [] => none
    | _ :: text => some (String.ofList (encode set text))
  ⟨front.takeWhile (· ≠ '?'), query, fragment⟩

/-- What stands behind the slashes after the scheme. -/
def withAuthority (scheme : String) (cs : List Char) : Except Flaw Url := do
  let special := isSpecial scheme
  let authority := cs.takeWhile (!endsAuthority special ·)
  let rest := cs.dropWhile (!endsAuthority special ·)
  let (username, password, place) ← userinfo authority rest
  let (host, port) ← hostAndPort scheme place
  if host = .domain "" ∧ (username, password) ≠ ("", "") then throw .emptyHost
  let t := tail scheme rest
  pure ⟨scheme, username, password, some host, port, authorityPath scheme t.path, t.query,
    t.fragment⟩

/-- A host of a file, where the machine itself goes without saying. -/
def fileHost (cs : List Char) : Except Flaw Host := do
  if cs.isEmpty then pure (.domain "")
  else
    let host ← specialHost cs
    pure (if host = .domain "localhost" then .domain "" else host)

/-- The place after two slashes is a host, unless it is a drive. -/
def file (cs : List Char) : Except Flaw Url := do
  let (place, rest) := match cs with
    | a :: b :: rest =>
      let place := rest.takeWhile (!endsAuthority true ·)
      if !(isSlash true a && isSlash true b) then ([], cs)
      else if isDrive place then ([], rest)
      else (place, rest.drop place.length)
    | _ => ([], cs)
  let host ← fileHost place
  let t := tail "file" rest
  let path := authorityPath "file" t.path
  let onDrive := match path with
    | .segments (first :: _) => isDrive first.toList
    | _ => false
  pure ⟨"file", "", "", some (if onDrive then .domain "" else host), none, path, t.query,
    t.fragment⟩

/-- A URL of a scheme that needs no host. -/
def withoutAuthority (scheme : String) (cs : List Char) : Url :=
  let t := tail scheme cs
  let path := match t.path with
    | '/' :: rest => UrlPath.segments (pathSegments scheme rest)
    | text => .whole (String.ofList (encode controls text))
  ⟨scheme, "", "", none, none, path, t.query, t.fragment⟩

def isEdge (c : Char) : Bool := c ≤ ' '

def isBreak (c : Char) : Bool := c == '\t' || c == '\n' || c == '\r'

def parse (text : String) : Except Flaw Url :=
  let trimmed := ((text.toList.dropWhile isEdge).reverse.dropWhile isEdge).reverse
  match scheme? (trimmed.filter (!isBreak ·)) with
  | none => .error .noScheme
  | some (scheme, rest) =>
    if scheme = "file" then file rest
    else if isSpecial scheme then withAuthority scheme (rest.dropWhile (isSlash true))
    else match rest with
      | '/' :: '/' :: rest => withAuthority scheme rest
      | _ => .ok (withoutAuthority scheme rest)

end ZigbeeBridge.Url
