import GraphSync.Text.Digit
import GraphSync.Text.Pieces

/-!
# Tables of characters

A property of characters is given by a table of runs. A run is the characters from a first to a last
one in equal steps, with values that belong to all of them.

A table is written down as words, a run each: `first`, `first-last` or `first-last-step`, and then,
after an equals sign, the values with commas between them. Numbers are hexadecimal.

The tables of this library describe the characters that are left in a domain name once it is mapped.
A run may reach over others.
-/

namespace GraphSync.DomainName

/-- Characters in equal steps, with values that belong to them. -/
structure Run where
  first : Nat
  last : Nat
  step : Nat
  values : List Nat
  deriving Repr, DecidableEq

/-- A property of characters, as runs. -/
abbrev Table := List Run

namespace Run

/-- Whether a character is in a run. -/
def contains (r : Run) (c : Char) : Bool :=
  let n := c.toNat
  r.first ≤ n && n ≤ r.last && (n - r.first) % r.step == 0

/-- The values of a run, each moved on as far as a character is from the first one. -/
def shifted (r : Run) (c : Char) : List Char :=
  r.values.map fun v => Char.ofNat (v + (c.toNat - r.first))

/-- A hexadecimal number. -/
def number? (s : List Char) : Option Nat := Text.number? 16 s

/-- The run that a word describes without values. -/
def ofRange? (s : List Char) (values : List Nat) : Option Run := do
  match ← (Text.pieces (· = '-') s).mapM number? with
  | [first] => some { first, last := first, step := 1, values }
  | [first, last] => some { first, last, step := 1, values }
  | [first, last, step] => some { first, last, step, values }
  | _ => none

/-- The run that a word describes. -/
def ofWord? (s : List Char) : Option Run := do
  match Text.pieces (· = '=') s with
  | [range] => ofRange? range []
  | [range, values] => ofRange? range (← (Text.pieces (· = ',') values).mapM number?)
  | _ => none

end Run

namespace Table

/-- The table that a text describes. -/
def ofText (text : String) : Table :=
  (Text.pieces Char.isWhitespace text.toList).filterMap Run.ofWord?

/-- The run that a character is in. -/
def run? (t : Table) (c : Char) : Option Run := t.find? (·.contains c)

/-- Whether a character is in a run of a table. -/
def contains (t : Table) (c : Char) : Bool := t.any (·.contains c)

end Table

end GraphSync.DomainName
