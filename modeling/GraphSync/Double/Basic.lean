/-!
# Finite doubles

A finite IEEE-754 binary64 number is a sign and a magnitude. The magnitude is the number's bit
pattern without the sign bit, so magnitudes are ordered as the numbers are, and every finite number
is a whole multiple of the least positive one (`units`).

* `nearest num den` is the magnitude nearest to `num / den`, a tie going to the even magnitude; it
  is `infinite` or more when that lies beyond the largest finite number.
* `times` and `dividedBy` are the product and the quotient, rounded in the same way.
-/

namespace GraphSync

/-- The number of doubles from a power of two up to the next: `2 ^ 52`. -/
def Double.binade : Nat := Nat.pow 2 52

/-- A finite double: its sign and the other 63 bits of its pattern. -/
structure Double where
  negative : Bool
  magnitude : Nat
  finite : magnitude < 2047 * Double.binade := by decide
  deriving DecidableEq

namespace Double

/-! ## Magnitudes -/

/-- The least power of two that is no finite double has magnitude `infinite`. -/
def infinite : Nat := 2047 * binade

/-- How often the least positive double goes into one: `2 ^ 1074` times. -/
def unitsPerOne : Nat := Nat.pow 2 1074

/-- A magnitude as a multiple of the least positive double. -/
def units (m : Nat) : Nat :=
  if m / binade = 0 then m else (binade + m % binade) * Nat.pow 2 (m / binade - 1)

/-- The quotient of two numbers rounded to a whole number, a tie going to the even one. -/
def divRoundEven (num den : Nat) : Nat :=
  let q := num / den
  let r := num % den
  if 2 * r > den || (2 * r == den && q % 2 == 1) then q + 1 else q

/-- The binary place at which the quotient `num / den` has 53 significant digits, counted from the
place of the least positive double; 0 for the smallest quotients, which have fewer. -/
def place (num den : Nat) : Nat :=
  let k := num.log2 + 1074 - den.log2 - 53
  if num * unitsPerOne / (den * Nat.pow 2 k) < 2 * binade then k else k + 1

/-- The magnitude nearest to `num / den`, before the check that it is finite. -/
def nearest (num den : Nat) : Nat :=
  if num = 0 then 0
  else
    let k := place num den
    k * binade + divRoundEven (num * unitsPerOne) (den * Nat.pow 2 k)

/-! ## Doubles -/

/-- The double of a sign and a magnitude, if the magnitude is finite. -/
def ofMagnitude? (negative : Bool) (m : Nat) : Option Double :=
  if h : m < 2047 * binade then some { negative, magnitude := m, finite := h } else none

/-- Positive or negative zero. -/
def zero (negative : Bool) : Double := { negative, magnitude := 0 }

/-- The double nearest to `± num / den`. -/
def ofRatio? (negative : Bool) (num den : Nat) : Option Double :=
  ofMagnitude? negative (nearest num den)

/-- The 64 bits of a double, as a number. -/
def bits (x : Double) : Nat := (if x.negative then 2048 * binade else 0) + x.magnitude

/-- The magnitude of a product of two magnitudes. -/
def times (a b : Nat) : Nat := nearest (units a * units b) (unitsPerOne * unitsPerOne)

/-- The magnitude of a quotient of two magnitudes. -/
def dividedBy (a b : Nat) : Nat := nearest (units a) (units b)

end Double

end GraphSync
