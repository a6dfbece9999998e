import FunctionSearch.Text.Base64
import FunctionSearch.Web.Host

/-!
# Addresses

What a request is sent to: a host, a service of it, and what is asked for there.

* `Address`: an address, with its path, its query and its fragment as they are written down;
* `Address.parse?`: the address that a text spells;
* `Address.text` and `Address.target`: its text, and what a request for it names;
* `Address.isShort`: whether it is short enough to be asked;
* `Credentials.header?`: what is sent along for whoever is named in front of the host.

Tabs and line breaks in the text of an address do not count, nor do controls and blanks around it,
and a backslash counts as a slash in front of the query.
-/

namespace FunctionSearch.Web

/-- How the host is talked to. -/
inductive Scheme where
  | http
  | https
  deriving DecidableEq, Repr

namespace Scheme

/-- The text of a scheme. -/
def text : Scheme → List Char
  | http => "http".toList
  | https => "https".toList

/-- The scheme with this name, in any case. -/
def ofName? (name : List Char) : Option Scheme :=
  [http, https].find? fun scheme => scheme.text == name.map Char.toLower

/-- The number of the service where nothing else is said. -/
def service : Scheme → Nat
  | http => 80
  | https => 443

end Scheme

/-- Who asks. -/
structure Credentials where
  user : List Char
  secret : Option (List Char)
  deriving DecidableEq, Repr

/-- What a request is sent to. -/
structure Address where
  scheme : Scheme
  credentials : Option Credentials
  host : Host
  /-- The number of the service, if it is another than that of the scheme. -/
  service : Option Nat
  path : List Char
  query : Option (List Char)
  fragment : Option (List Char)
  deriving DecidableEq, Repr

/-! ## Credentials -/

namespace Credentials

/-- The credentials that a text in front of a host spells. The first colon ends the user, and a
secret that is empty is none. -/
def parse? (s : List Char) : Option Credentials := do
  let user := s.takeWhile (· != ':')
  let secret := s.drop (user.length + 1)
  let name ← Percent.decodeText? user
  let secret := if secret.isEmpty then none else Percent.decodeText? secret
  if name.isEmpty && secret.isNone then none else return ⟨name, secret⟩

/-- The value of the header that tells who asks. -/
def header (credentials : Credentials) : String :=
  let text := credentials.user ++ ':' :: credentials.secret.getD []
  "Basic " ++ String.ofList (Text.Base64.encode (Text.Utf8.encode text))

end Credentials

/-! ## Paths, queries and fragments -/

/-- What is escaped in a path. -/
def pathSet : List Char := "\"#<>?`\x7b\x7d".toList

/-- What is escaped in a query. -/
def querySet : List Char := "\"#<>'".toList

/-- What is escaped in a fragment. -/
def fragmentSet : List Char := "\"<>`".toList

/-- Whether a segment stands for the directory itself. -/
def isHere (segment : List Char) : Bool :=
  [".", "%2e"].contains (String.ofList (segment.map Char.toLower))

/-- Whether a segment stands for the directory above. -/
def isAbove (segment : List Char) : Bool :=
  ["..", ".%2e", "%2e.", "%2e%2e"].contains (String.ofList (segment.map Char.toLower))

/-- Whether a segment names a drive, above which there is nothing. -/
def isDrive : List Char → Bool
  | [letter, mark] => letter.isAlpha && (mark == ':' || mark == '|')
  | _ => false

/-- The segments, in reverse, of the directory above. -/
def above : List (List Char) → List (List Char)
  | [] => []
  | segment :: rest => if isDrive segment then segment :: rest else rest

/-- Walk through the segments of a path; `done` holds, in reverse, those that count so far. A path
that ends in dots ends in an empty segment. -/
def walkSegments (done : List (List Char)) : List (List Char) → List (List Char)
  | [] => done.reverse
  | [last] =>
    if isAbove last then ([] :: above done).reverse
    else if isHere last then ([] :: done).reverse
    else (Percent.escape pathSet last :: done).reverse
  | segment :: rest =>
    if isAbove segment then walkSegments (above done) rest
    else if isHere segment then walkSegments done rest
    else walkSegments (Percent.escape pathSet segment :: done) rest

/-- The path that a text spells, without dots. -/
def pathOf (s : List Char) : List Char :=
  let segments := Text.splitWhere (fun c => c == '/' || c == '\\') (if s.isEmpty then ['/'] else s)
  (walkSegments [] segments.tail).flatMap ('/' :: ·)

/-! ## Addresses -/

namespace Address

/-- A text less the line breaks and tabs in it and the controls and blanks around it. -/
def tidy (s : List Char) : List Char :=
  let kept := s.filter fun c => !"\t\n\r".toList.contains c
  let cut := kept.dropWhile (·.toNat ≤ 0x20)
  (cut.reverse.dropWhile (·.toNat ≤ 0x20)).reverse

/-- What stands in front of the first of some characters, and the rest from there on. -/
def splitAt (marks : List Char) (s : List Char) : List Char × List Char :=
  let before := s.takeWhile (!marks.contains ·)
  (before, s.drop before.length)

/-- The number of the service behind a host; without digits none is named. -/
def service? (scheme : Scheme) : List Char → Option (Option Nat)
  | [] => some none
  | ':' :: digits =>
    if digits.isEmpty then some none
    else (Number.naturalBelow? 65536 digits).map fun number =>
      if number = scheme.service then none else some number
  | _ => none

/-- A host and what stands behind it. The host ends in front of a colon, but one in brackets has
colons in it. -/
def splitHost (s : List Char) : List Char × List Char :=
  let bracketed := if s.head? == some '[' then s.takeWhile (· != ']') else []
  let (more, rest) := splitAt [':'] (s.drop bracketed.length)
  (bracketed ++ more, rest)

/-- What stands in front of the last at sign, if there is one, and what stands behind it. -/
def splitUser (s : List Char) : Option (List Char) × List Char :=
  match Text.splitLast? ['@'] s with
  | some (user, host) => (some user, host)
  | none => (none, s)

/-- The address that a text spells. -/
def parse? (s : String) : Option Address := do
  let (name, rest) := splitAt [':'] (tidy s.toList)
  let scheme ← Scheme.ofName? name
  let rest := (rest.drop 1).dropWhile fun c => c == '/' || c == '\\'
  let (authority, rest) := splitAt "/\\?#".toList rest
  let (user, named) := splitUser authority
  let (hostText, numberText) := splitHost named
  let host ← Host.parse? hostText
  let service ← service? scheme numberText
  let (path, rest) := splitAt "?#".toList rest
  let (query, fragment) := splitAt ['#'] rest
  let escaped (set s : List Char) : Option (List Char) :=
    if s.isEmpty then none else some (Percent.escape set (s.drop 1))
  return {
    scheme, host, service
    credentials := user.bind Credentials.parse?
    path := pathOf path
    query := escaped querySet query
    fragment := escaped fragmentSet fragment }

/-- A part behind its mark, if it is there. -/
def marked (mark : Char) (part : Option (List Char)) : List Char :=
  (part.map (mark :: ·)).getD []

/-- What a request for an address names. -/
def target (address : Address) : String :=
  String.ofList (address.path ++ marked '?' address.query)

/-- The text of an address, which does not tell who asks. -/
def text (address : Address) : String :=
  String.ofList (address.scheme.text ++ "://".toList ++ address.host.text ++
    marked ':' (address.service.map Number.numeral)) ++ address.target ++
    String.ofList (marked '#' address.fragment)

/-- The greatest length of an address. -/
def lengthLimit : Nat := 65534

/-- Whether an address is short enough to be asked. -/
def isShort (address : Address) : Bool :=
  address.text.length ≤ lengthLimit

end Address

end FunctionSearch.Web
