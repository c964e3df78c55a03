import GraphSync.Double.Decimal
import GraphSync.Text.Digit

/-!
# Literals on the command line

Whole numbers, floats and truth values as they are typed, with the reasons for which a text is none.
-/

namespace GraphSync

/-- Why a text is no literal. -/
inductive LiteralError where
  | emptyInteger
  | invalidDigit
  | tooLarge
  | tooSmall
  | emptyFloat
  | invalidFloat
  | invalidBool
  deriving DecidableEq

/-- The wording of a literal error. -/
def LiteralError.message : LiteralError → String
  | emptyInteger => "cannot parse integer from empty string"
  | invalidDigit => "invalid digit found in string"
  | tooLarge => "number too large to fit in target type"
  | tooSmall => "number too small to fit in target type"
  | emptyFloat => "cannot parse float from empty string"
  | invalidFloat => "invalid float literal"
  | invalidBool => "provided string was not \x60true\x60 or \x60false\x60"

namespace Literal

/-! ## Whole numbers -/

/-- Reads digits on to `n`, down from it for a negative number. The first character that is no
digit, or the first digit that leaves the range, ends it. -/
def readDigits (negative : Bool) (n : Int) : List Char → Except LiteralError Int
  | [] => .ok n
  | c :: rest =>
    if c.isDigit then
      let d : Int := c.toNat - 48
      let next := if negative then 10 * n - d else 10 * n + d
      if next < Int64.minValue.toInt then .error .tooSmall
      else if Int64.maxValue.toInt < next then .error .tooLarge
      else readDigits negative next rest
    else .error .invalidDigit

/-- One or more digits after a sign. -/
def readMagnitude (negative : Bool) : List Char → Except LiteralError Int
  | [] => .error .invalidDigit
  | s => readDigits negative 0 s

/-- A signed 64-bit number: an optional sign and decimal digits. -/
def readInt64 (s : List Char) : Except LiteralError Int64 :=
  Int64.ofInt <$> match s with
    | [] => .error .emptyInteger
    | '-' :: rest => readMagnitude true rest
    | '+' :: rest => readMagnitude false rest
    | s => readMagnitude false s

/-! ## Floats -/

/-- The exponent after the mantissa of a float. -/
def readExponent? : List Char → Option Int
  | [] => some 0
  | c :: rest =>
    if c = 'e' || c = 'E' then
      let (minus, ds) := match rest with
        | '-' :: ds => (true, ds)
        | '+' :: ds => (false, ds)
        | ds => (false, ds)
      if ds.isEmpty || !ds.all Char.isDigit then none
      else
        let n : Int := Text.digitsValue 10 ds
        some (if minus then -n else n)
    else none

/-- The digits after a point, and the rest. -/
def readFraction : List Char → List Char × List Char
  | '.' :: rest => rest.span Char.isDigit
  | s => ([], s)

/-- What a float literal may denote: a finite double, or else infinity or no number. -/
inductive FloatValue where
  | finite (x : Double)
  | notFinite

/-- A float that is written with digits, of which the mantissa has at least one. -/
def readFinite? (negative : Bool) (s : List Char) : Option FloatValue := do
  let (whole, s) := s.span Char.isDigit
  let (fraction, s) := readFraction s
  if whole.isEmpty && fraction.isEmpty then none
  else
    let e ← readExponent? s
    return match Double.ofDecimal? negative (Text.digitsValue 10 (whole ++ fraction))
        (e - fraction.length) with
      | some x => .finite x
      | none => .notFinite

/-- Whether a text names infinity or that which is no number, in any case. -/
def isSpecial (s : List Char) : Bool :=
  let lower := s.map Char.toLower
  lower == "inf".toList || lower == "infinity".toList || lower == "nan".toList

/-- A float: an optional sign, and digits with an optional point and exponent or a special name. -/
def readFloat (s : List Char) : Except LiteralError FloatValue :=
  let (negative, body) := match s with
    | '-' :: rest => (true, rest)
    | '+' :: rest => (false, rest)
    | s => (false, s)
  if s.isEmpty then .error .emptyFloat
  else if isSpecial body then .ok .notFinite
  else
    match readFinite? negative body with
    | some v => .ok v
    | none => .error .invalidFloat

/-! ## Truth values -/

/-- A truth value. -/
def readBool (s : List Char) : Except LiteralError Bool :=
  if s = "true".toList then .ok true
  else if s = "false".toList then .ok false
  else .error .invalidBool

end Literal

end GraphSync
