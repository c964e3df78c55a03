import GraphSync.Address.Host
import GraphSync.Address.Path

/-!
# Database addresses

An address begins with a scheme, which says how to talk to the database at its host. After the
scheme come a login, the host and a port, and then a path and more that does not matter here.

The main functions are `host?`, which finds the host, and `foreignScheme?`, which tells the schemes
of other services from those of a graph database.
-/

namespace GraphSync.Address

/-! ## Schemes -/

/-- How an address goes on after its scheme. -/
inductive Form where
  | file
  | web
  | other
  deriving DecidableEq, Repr

/-- The schemes of the web. -/
def webSchemes : List String := ["http", "https", "ws", "wss", "ftp"]

/-- The form of addresses with a scheme. -/
def Form.ofScheme (scheme : String) : Form :=
  if scheme = "file" then file else if webSchemes.contains scheme then web else other

/-- The schemes of a graph database: with or without routing, and without encryption, with it, or
with it and without a check of the certificate. -/
def schemes : List String := ["bolt", "bolt+s", "bolt+ssc", "neo4j", "neo4j+s", "neo4j+ssc"]

/-- Whether a character is left out at the ends of an address. -/
def isOuterBlank (c : Char) : Bool := c.toNat ≤ 32

/-- Whether a character is left out everywhere in an address. -/
def isBreak (c : Char) : Bool := c = '\t' || c = '\n' || c = '\r'

/-- An address without blanks around it and without line breaks and tabs. -/
def clean (address : List Char) : List Char :=
  let s := (address.dropWhile isOuterBlank).reverse.dropWhile isOuterBlank
  s.reverse.filter fun c => !isBreak c

/-- Whether a word may be a scheme: a letter, and then letters, digits and three marks. -/
def isScheme : List Char → Bool
  | [] => false
  | c :: rest => c.isAlpha && rest.all fun c => c.isAlphanum || c = '+' || c = '-' || c = '.'

/-- The scheme of an address, in small letters, and what follows its colon. -/
def splitScheme? (address : List Char) : Option (String × List Char) :=
  match address.span (· ≠ ':') with
  | (word, ':' :: rest) =>
    if isScheme word then some (String.ofList (word.map Char.toLower), rest) else none
  | _ => none

/-! ## Host and port -/

/-- Whether a character ends the part of an address with the host in it. On the web, slashes of
either kind do. -/
def endsAuthority (isWeb : Bool) (c : Char) : Bool :=
  c = '/' || c = '?' || c = '#' || (isWeb && c = '\\')

/-- What follows the login: all that comes after the last `@`. -/
def withoutLogin (s : List Char) : List Char := (s.reverse.takeWhile (· ≠ '@')).reverse

/-- A host and what follows it from the first colon outside brackets on. -/
def splitPort (inside : Bool) : List Char → List Char × List Char
  | [] => ([], [])
  | c :: rest =>
    if c = ':' && !inside then ([], c :: rest)
    else
      let inside := c = '[' || (inside && c ≠ ']')
      let (host, port) := splitPort inside rest
      (c :: host, port)

/-- The largest port. -/
def maxPort : Nat := 65535

/-- Whether a text after a host is nothing or a port: a colon and a number, which may be missing. A
backslash ends it. -/
def isPort : List Char → Bool
  | [] => true
  | _ :: s =>
    let (digits, rest) := s.span Char.isDigit
    Text.digitsValue 10 digits ≤ maxPort && (rest.isEmpty || rest.head? = some '\\')

/-- The host in an address after the slashes, by the way of reading a host outside brackets. -/
def authorityHost? (isWeb : Bool) (outside : List Char → Option Host) (s : List Char) :
    Option Host :=
  let (host, port) := splitPort false (withoutLogin (s.takeWhile fun c => !endsAuthority isWeb c))
  if isPort port then Host.ofText? outside host else none

/-- The host in the address of a file, which has no login and no port. A file on this machine has no
host. -/
def fileHost? : List Char → Option Host
  | a :: b :: s =>
    if isSlash a && isSlash b then
      let (text, path) := s.span fun c => !endsAuthority true c
      let isHere (h : Host) : Bool :=
        h = .name (.single "localhost") || meetsDrive [] (names path)
      if isDrive text then none
      else (Host.ofText? Host.ofName? text).filter fun h => !isHere h
    else none
  | _ => none

/-- The host in an address after the scheme. Only addresses of the web need no slashes before it. -/
def host? (form : Form) (s : List Char) : Option Host :=
  match form, s with
  | .file, s => fileHost? s
  | .web, s => authorityHost? true Host.ofName? (s.dropWhile isSlash)
  | .other, '/' :: '/' :: s => authorityHost? false Host.ofVerbatim? s
  | .other, _ => none

/-! ## Addresses -/

/-- The scheme of an address that has a scheme and a host. -/
def scheme? (address : String) : Option String := do
  let (scheme, rest) ← splitScheme? (clean address.toList)
  let _ ← host? (.ofScheme scheme) rest
  return scheme

/-- The scheme of an address if it is none of a graph database. An address without a scheme is taken
for a host. -/
def foreignScheme? (address : String) : Option String :=
  (scheme? address).filter fun scheme => !schemes.contains scheme

end GraphSync.Address
