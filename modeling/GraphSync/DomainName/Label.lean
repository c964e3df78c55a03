import GraphSync.DomainName.Joining
import GraphSync.DomainName.Mapping
import GraphSync.DomainName.Mark
import GraphSync.DomainName.Normal
import GraphSync.DomainName.Punycode

/-!
# Labels

A label of a mapped domain name stands for itself, or it is the coded form of another one. A coded
form must be needed, and the label it stands for must be one that mapping leaves as it is.
-/

namespace GraphSync.DomainName

/-- A part of a domain name between its dots. -/
abbrev Label := List Char

namespace Label

/-- Whether a text is ASCII. -/
def isAscii (s : List Char) : Bool := s.all (·.toNat < 128)

/-- What a coded label begins with. -/
def codeMark : List Char := ['x', 'n', '-', '-']

/-- How long a coded form may be. -/
def maxCoded : Nat := 2000

/-- How long a label beyond ASCII may be. -/
def maxUncoded : Nat := 1000

/-- Whether a label begins with no mark, and holds joiners only where they have an effect. -/
def isWellFormed (l : Label) : Bool := !l.head?.any isMark && joinersStand [] l

/-- Whether a label needs its coded form, and mapping leaves it as it is. -/
def isDecoded (l : Label) : Bool := !isAscii l && l.all Mapping.keeps && normal l = l

/-- The label that a coded form stands for. -/
def ofCode? (s : List Char) : Option Label :=
  if !isAscii s || maxCoded < s.length then none else (Punycode.decode? s).filter isDecoded

/-- The label that a part of a mapped domain name stands for. -/
def ofText? (s : List Char) : Option Label :=
  let label :=
    if codeMark.isPrefixOf s then ofCode? (s.drop codeMark.length)
    else if isAscii s || s.length ≤ maxUncoded then some s
    else none
  label.filter isWellFormed

end Label

end GraphSync.DomainName
