import GraphSync.Address.Ipv4
import GraphSync.Address.Ipv6

/-!
# Hosts

A host is a domain name, a number of four bytes, or eight words in brackets. Where the scheme is not
one of the web, a host outside brackets has no meaning here and is taken as it stands.
-/

namespace GraphSync.Address

/-- Where an address leads. -/
inductive Host where
  | name (domain : DomainName)
  | ipv4 (number : Nat)
  | ipv6 (words : List Nat)
  | verbatim (text : List Char)
  deriving DecidableEq, Repr

/-! ## Percent signs -/

/-- The bytes of a text in which a percent sign and two hexadecimal digits write one byte. -/
def bytes : List Char → List UInt8
  | '%' :: a :: b :: rest =>
    match Text.hexDigit? a, Text.hexDigit? b with
    | some m, some n => UInt8.ofNat (16 * m + n) :: bytes rest
    | _, _ => '%'.toUInt8 :: bytes (a :: b :: rest)
  | c :: rest => String.utf8EncodeChar c ++ bytes rest
  | [] => []

/-- The text whose bytes are written in another one. -/
def decode? (s : List Char) : Option (List Char) :=
  (String.fromUTF8? ⟨(bytes s).toArray⟩).map String.toList

namespace Host

/-! ## Reading -/

/-- The text between brackets. -/
def inBrackets? : List Char → Option (List Char)
  | '[' :: rest => if rest.getLast? = some ']' then some rest.dropLast else none
  | _ => none

/-- The host that a domain name or a number writes. -/
def ofName? (s : List Char) : Option Host := do
  let domain ← DomainName.ofText? (← decode? s)
  if Ipv4.endsInNumber domain then return ipv4 (← Ipv4.ofName? domain) else return name domain

/-- Whether a host that is taken as it stands must not hold a character. -/
def isForbidden (c : Char) : Bool := c = '\x00' || DomainName.delimiters.contains c

/-- The host that a text is as it stands. -/
def ofVerbatim? (s : List Char) : Option Host :=
  if s.isEmpty || s.any isForbidden then none else some (verbatim s)

/-- The host that a text writes, by the way of reading one outside brackets. -/
def ofText? (outside : List Char → Option Host) (s : List Char) : Option Host :=
  if s.head? = some '[' then (inBrackets? s).bind fun inner => (Ipv6.ofText? inner).map ipv6
  else outside s

end Host

end GraphSync.Address
