import GraphSync.DomainName.Direction
import GraphSync.DomainName.Label

/-!
# Domain names

A domain name is read from a text in any form: in capitals, with full-width letters and dots, or
with coded labels. `DomainName.ofText?` gives its labels in the one form that all of these share. A
label may be empty, but the name is not.
-/

namespace GraphSync

/-- A name of labels with dots between them. -/
structure DomainName where
  labels : List DomainName.Label
  deriving DecidableEq, Repr

namespace DomainName

/-- The characters that delimit the parts of an address. -/
def delimiters : List Char := "#/:<>?@[\\]^| ".toList

/-- Whether a domain name must not hold a character of ASCII. -/
def isForbidden (c : Char) : Bool :=
  c.toNat < 32 || c = '\x7f' || c = '%' || delimiters.contains c

/-- The domain name that a text writes. -/
def ofText? (s : List Char) : Option DomainName := do
  let name := normal (← Mapping.ofText? s)
  if name.isEmpty || name.any isForbidden then none
  else
    let labels ← (Text.pieces (· = '.') name).mapM Label.ofText?
    if keepDirection labels then some { labels } else none

/-- A name of one label. -/
def single (label : String) : DomainName := { labels := [label.toList] }

end DomainName

end GraphSync
