import GraphSync.Json.Basic
import GraphSync.Double.Decimal
import GraphSync.Text.Digit

/-!
# JSON numbers

A number is read in two steps: `Literal.read?` takes its parts off the front of a text, and
`Literal.value?` says which number they denote.

An integer that 64 bits hold is exact. Every other number is a double: its leading digits, as many
as an unsigned 64-bit word holds, are multiplied or divided by a power of ten, and each of these
steps rounds. So the last bit of a long number need not be that of the nearest double.
-/

namespace GraphSync.Json

/-! ## Literals -/

/-- The parts of a number: sign, digits before the point, digits after it if there is one, and the
exponent's sign (`true` for minus) and digits if there is one. -/
structure Literal where
  negative : Bool
  whole : List Char
  fraction : Option (List Char)
  exponent : Option (Bool × List Char)

namespace Literal

/-- The digits at the front of a text and what follows them. -/
def digits (s : List Char) : List Char × List Char := s.span Char.isDigit

/-- The digits before the point: a zero stands alone. -/
def readWhole? (s : List Char) : Option (List Char × List Char) :=
  match digits s with
  | ([], _) => none
  | ('0' :: _ :: _, _) => none
  | parts => some parts

/-- The digits after a point, if there is a point. -/
def readFraction? : List Char → Option (Option (List Char) × List Char)
  | '.' :: s =>
    match digits s with
    | ([], _) => none
    | (ds, rest) => some (some ds, rest)
  | s => some (none, s)

/-- The sign in front of an exponent's digits. -/
def readSign : List Char → Bool × List Char
  | '-' :: s => (true, s)
  | '+' :: s => (false, s)
  | s => (false, s)

/-- The exponent, if there is one. -/
def readExponent? : List Char → Option (Option (Bool × List Char) × List Char)
  | c :: s =>
    if c = 'e' || c = 'E' then
      let (minus, rest) := readSign s
      match digits rest with
      | ([], _) => none
      | (ds, rest) => some (some (minus, ds), rest)
    else some (none, c :: s)
  | [] => some (none, [])

/-- Takes a number off the front of a text. -/
def read? (s : List Char) : Option (Literal × List Char) := do
  let (negative, s) := match s with
    | '-' :: rest => (true, rest)
    | s => (false, s)
  let (whole, s) ← readWhole? s
  let (fraction, s) ← readFraction? s
  let (exponent, s) ← readExponent? s
  return ({ negative, whole, fraction, exponent }, s)

end Literal

/-! ## The number a literal denotes -/

/-- Reads digits on to `n` while 64 bits hold the result; gives that and the digits left. -/
def absorb (n : Nat) : List Char → Nat × List Char
  | [] => (n, [])
  | d :: ds =>
    let next := 10 * n + (d.toNat - 48)
    if next < UInt64.size then absorb next ds else (n, d :: ds)

/-- The magnitude of a power of ten that doubles hold. -/
def powerOfTen (e : Nat) : Nat := Double.nearest (Nat.pow 10 e) 1

/-- The magnitude of `n * 10 ^ e`, computed by one rounded product or by up to two rounded
quotients; `none` when it is not finite. -/
def scaled? (n : Nat) (e : Int) : Option Nat :=
  let m := Double.nearest n 1
  if m = 0 then some 0
  else if 308 < e then none
  else if 0 ≤ e then
    let p := Double.times m (powerOfTen e.toNat)
    if p < Double.infinite then some p else none
  else if -308 ≤ e then some (Double.dividedBy m (powerOfTen e.natAbs))
  else if -616 ≤ e then
    some (Double.dividedBy (Double.dividedBy m (powerOfTen 308)) (powerOfTen (e.natAbs - 308)))
  else some 0

/-- The power of ten that an exponent adds. -/
def exponentValue : Option (Bool × List Char) → Int
  | none => 0
  | some (minus, ds) => if minus then -(Text.digitsValue 10 ds : Int) else Text.digitsValue 10 ds

/-- The double a literal denotes; `none` when it is not finite. -/
def Literal.double? (l : Literal) : Option Double := do
  let (n, unread) := absorb 0 l.whole
  let fraction := l.fraction.getD []
  let (n, dropped) := absorb n fraction
  let e : Int := unread.length - (fraction.length - dropped.length : Nat) + exponentValue l.exponent
  Double.ofMagnitude? l.negative (← scaled? n e)

/-- The number a literal denotes. Minus zero is a double, so that its sign is kept. -/
def Literal.value? (l : Literal) : Option Json :=
  let n := Text.digitsValue 10 l.whole
  match l.fraction, l.exponent with
  | none, none =>
    if l.negative && n == 0 then some (double (Double.zero true))
    else
      match Integer.ofInt? (if l.negative then -(n : Int) else n) with
      | some i => some (integer i)
      | none => l.double?.map double
  | _, _ => l.double?.map double

end GraphSync.Json
