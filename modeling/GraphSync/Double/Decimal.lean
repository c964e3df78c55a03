import GraphSync.Double.Basic

/-!
# Decimal text of doubles

* `ofDecimal?` is the double nearest to `± n * 10 ^ e`.
* `shortest` gives the fewest decimal digits that read back as a given magnitude, and of those the
  nearest to it.
* `text` writes them: positional from `1e-5` up to below `1e16`, otherwise with an exponent.
-/

namespace GraphSync.Double

/-! ## Reading -/

/-- The double nearest to `± n * 10 ^ e`; `none` when that is not finite. A power of ten that is far
out of range is not computed: the number is then zero or not finite. -/
def ofDecimal? (negative : Bool) (n : Nat) (e : Int) : Option Double :=
  if n = 0 then some (zero negative)
  else
    let size := (Nat.toDigits 10 n).length + e
    if size < -330 then some (zero negative)
    else if 330 < size then none
    else if 0 ≤ e then ofRatio? negative (n * Nat.pow 10 e.toNat) 1
    else ofRatio? negative n (Nat.pow 10 (-e).toNat)

/-! ## Writing -/

/-- Decimal digits with the exponent of the last one: `digits * 10 ^ exponent`. -/
structure Digits where
  digits : Nat
  exponent : Int
  deriving DecidableEq

/-- The scale of decimal grids: every grid that is looked at consists of multiples of
`10 ^ (-340)`. -/
def gridsPerOne : Nat := Nat.pow 10 340

/-- Whether the decimal `c * 10 ^ (p - 340)` lies among the reals that round to the magnitude `m`:
between the midpoints to its two neighbours, and on one of them only when `m` is even. -/
def roundsTo (m c p : Nat) : Bool :=
  let value := 2 * (c * (Nat.pow 10 p * unitsPerOne))
  let low := (units (m - 1) + units m) * gridsPerOne
  let high := (units m + units (m + 1)) * gridsPerOne
  if m % 2 == 0 then low ≤ value && value ≤ high else low < value && value < high

/-- The decimals on the grid of `10 ^ (p - 340)` next to the magnitude `m`, the nearer one first; of
two that are equally near, the even one. -/
def neighbours (m p : Nat) : List Nat :=
  let value := units m * gridsPerOne
  let step := Nat.pow 10 p * unitsPerOne
  let c := value / step
  let r := value % step
  if r = 0 then [c]
  else if 2 * r < step || (2 * r == step && c % 2 == 0) then [c, c + 1]
  else [c + 1, c]

/-- The grid of the first digit of the magnitude `m`, counted from `10 ^ (-340)`. -/
def firstPlace (m : Nat) : Nat :=
  (Nat.toDigits 10 (units m * gridsPerOne / unitsPerOne)).length - 1

/-- A digit text without its trailing zeros, and the exponent of the last digit that is left. -/
def stripZeros (d : Digits) : Digits :=
  let ds := Nat.toDigits 10 d.digits
  let zeros := (ds.reverse.takeWhile (· == '0')).length
  { digits := d.digits / Nat.pow 10 zeros, exponent := d.exponent + zeros }

/-- The fewest digits that round to the positive magnitude `m`: the grids of 1, 2, … 17 digits are
tried in turn, and on each one only the two neighbours of `m` can be the nearest hit. -/
def shortest (m : Nat) : Digits :=
  let top := firstPlace m
  let hit (i : Nat) : Option Digits :=
    ((neighbours m (top - i)).find? (roundsTo m · (top - i))).map
      fun c => { digits := c, exponent := (top - i : Nat) - 340 }
  stripZeros (((List.range 17).findSome? hit).getD
    { digits := units m * gridsPerOne / unitsPerOne, exponent := -340 })

/-- Digits with a point: positional when the first digit stands at `10 ^ (-5)` up to `10 ^ 15`,
otherwise one digit, a fraction if there are more, and a signed exponent. -/
def Digits.text (d : Digits) : String :=
  let ds := Nat.toDigits 10 d.digits
  let first : Int := d.exponent + ds.length - 1
  if first < -5 || 15 < first then
    let fraction := ds.drop 1
    let sign := if first < 0 then "-" else "+"
    String.ofList (ds.take 1) ++ (if fraction.isEmpty then "" else "." ++ String.ofList fraction)
      ++ "e" ++ sign ++ toString first.natAbs
  else if first < 0 then
    "0." ++ String.ofList (List.replicate (first.natAbs - 1) '0' ++ ds)
  else
    let whole := ds.take (first.toNat + 1)
    let fraction := ds.drop (first.toNat + 1)
    String.ofList (whole ++ List.replicate (first.toNat + 1 - whole.length) '0') ++ "."
      ++ (if fraction.isEmpty then "0" else String.ofList fraction)

/-- The shortest text that reads back as the double; zero is `0.0`, with its sign. -/
def text (x : Double) : String :=
  (if x.negative then "-" else "")
    ++ (if x.magnitude = 0 then "0.0" else (shortest x.magnitude).text)

end GraphSync.Double
