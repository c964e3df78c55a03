import GraphSync.Datum
import GraphSync.Double.Decimal
import GraphSync.Text.Digit

/-!
# TOML numbers and dates

Integers are decimal, hexadecimal, octal or binary and fit a signed 64-bit word. A float may not
exceed the largest finite double. An underscore may stand between two digits. Dates and times must
exist, leap seconds included.
-/

namespace GraphSync.Toml

/-! ## Digits -/

/-- Digits with single underscores between them, without the underscores, and the rest. An
underscore that no digit follows is refused. -/
def readDigits? (isDigit : Char → Bool) : List Char → Option (List Char × List Char)
  | '_' :: c :: rest =>
    if isDigit c then do
      let (ds, rest) ← readDigits? isDigit rest
      return (c :: ds, rest)
    else none
  | ['_'] => none
  | c :: rest =>
    if isDigit c then do
      let (ds, rest) ← readDigits? isDigit rest
      return (c :: ds, rest)
    else some ([], c :: rest)
  | [] => some ([], [])

/-- One or more digits with single underscores between them. -/
def readSomeDigits? (isDigit : Char → Bool) : List Char → Option (List Char × List Char)
  | c :: rest =>
    if isDigit c then do
      let (ds, rest) ← readDigits? isDigit rest
      return (c :: ds, rest)
    else none
  | [] => none

/-- A sign (`true` for minus) and the rest. -/
def readSign : List Char → Bool × List Char
  | '-' :: rest => (true, rest)
  | '+' :: rest => (false, rest)
  | s => (false, s)

/-- The digits of a decimal number: a zero at the front stands alone. -/
def readDecimal? : List Char → Option (List Char × List Char)
  | '0' :: rest => some (['0'], rest)
  | s => readSomeDigits? Char.isDigit s

/-! ## Integers -/

/-- An integer that a signed word holds. -/
def integer? (n : Int) : Option Datum :=
  if Int64.minValue.toInt ≤ n ∧ n ≤ Int64.maxValue.toInt then some (.integer n) else none

/-- An integer in a base, after the mark of the base. -/
def readBase? (base : Nat) (isDigit : Char → Bool) (s : List Char) :
    Option (Datum × List Char) := do
  let (ds, rest) ← readSomeDigits? isDigit s
  return (← integer? (Text.digitsValue base ds), rest)

/-- An integer. -/
def readInteger? : List Char → Option (Datum × List Char)
  | '0' :: 'x' :: rest => readBase? 16 (Text.isDigitOf 16) rest
  | '0' :: 'o' :: rest => readBase? 8 (Text.isDigitOf 8) rest
  | '0' :: 'b' :: rest => readBase? 2 (Text.isDigitOf 2) rest
  | s => do
    let (minus, s) := readSign s
    let (ds, rest) ← readDecimal? s
    let n : Int := Text.digitsValue 10 ds
    return (← integer? (if minus then -n else n), rest)

/-! ## Floats -/

/-- The digits after a point, if there is a point. -/
def readFraction? : List Char → Option (Option (List Char) × List Char)
  | '.' :: rest => do
    let (ds, rest) ← readSomeDigits? Char.isDigit rest
    return (some ds, rest)
  | s => some (none, s)

/-- An exponent, if there is one. -/
def readExponent? : List Char → Option (Option Int × List Char)
  | c :: rest =>
    if c = 'e' || c = 'E' then do
      let (minus, rest) := readSign rest
      let (ds, rest) ← readSomeDigits? Char.isDigit rest
      let n : Int := Text.digitsValue 10 ds
      return (some (if minus then -n else n), rest)
    else some (none, c :: rest)
  | [] => some (none, [])

/-- A float that is written with digits. It is refused when it exceeds every finite double; one
below every finite double is not. -/
def readFloat? (s : List Char) : Option (Datum × List Char) := do
  let (minus, s) := readSign s
  let (whole, s) ← readDecimal? s
  let (fraction, s) ← readFraction? s
  let (exponent, rest) ← readExponent? s
  if fraction.isNone && exponent.isNone then none
  else
    let ds := whole ++ fraction.getD []
    let e := exponent.getD 0 - (fraction.getD []).length
    if minus || (Double.ofDecimal? false (Text.digitsValue 10 ds) e).isSome then
      return (.fraction, rest)
    else none

/-- Infinity and the number that is none. -/
def readSpecial? (s : List Char) : Option (Datum × List Char) :=
  match (readSign s).2 with
  | 'i' :: 'n' :: 'f' :: rest => some (.fraction, rest)
  | 'n' :: 'a' :: 'n' :: rest => some (.fraction, rest)
  | _ => none

/-! ## Dates and times -/

/-- The number of two digits. -/
def twoDigits? (a b : Char) : Option Nat :=
  if a.isDigit && b.isDigit then some (Text.digitsValue 10 [a, b]) else none

/-- The number of days of a month. -/
def daysIn (year month : Nat) : Nat :=
  if month = 2 then
    if year % 4 = 0 && (year % 100 ≠ 0 || year % 400 = 0) then 29 else 28
  else if month = 4 || month = 6 || month = 9 || month = 11 then 30
  else 31

/-- A date. -/
def readDate? : List Char → Option (List Char)
  | y₁ :: y₂ :: y₃ :: y₄ :: '-' :: m₁ :: m₂ :: '-' :: d₁ :: d₂ :: rest => do
    let year := (← twoDigits? y₁ y₂) * 100 + (← twoDigits? y₃ y₄)
    let month ← twoDigits? m₁ m₂
    let day ← twoDigits? d₁ d₂
    if 1 ≤ month && month ≤ 12 && 1 ≤ day && day ≤ daysIn year month then some rest else none
  | _ => none

/-- A text without a fraction of a second at its front. -/
def dropSecondFraction : List Char → List Char
  | '.' :: c :: rest => if c.isDigit then rest.dropWhile Char.isDigit else '.' :: c :: rest
  | s => s

/-- A time of day. -/
def readTime? : List Char → Option (List Char)
  | h₁ :: h₂ :: ':' :: m₁ :: m₂ :: ':' :: s₁ :: s₂ :: rest => do
    let hour ← twoDigits? h₁ h₂
    let minute ← twoDigits? m₁ m₂
    let second ← twoDigits? s₁ s₂
    if hour ≤ 23 && minute ≤ 59 && second ≤ 60 then some (dropSecondFraction rest) else none
  | _ => none

/-- A text without an offset from universal time at its front. -/
def dropOffset (s : List Char) : List Char :=
  match s with
  | 'Z' :: rest | 'z' :: rest => rest
  | sign :: h₁ :: h₂ :: ':' :: m₁ :: m₂ :: rest =>
    match twoDigits? h₁ h₂, twoDigits? m₁ m₂ with
    | some hour, some minute =>
      if (sign = '+' || sign = '-') && hour ≤ 23 && minute ≤ 59 then rest else s
    | _, _ => s
  | _ => s

/-- A date, a time, or both. As a datum it is a record of its own. -/
def readDateTime? (s : List Char) : Option (Datum × List Char) :=
  let datum : Datum := .record [("datetime", .null)]
  match readDate? s with
  | some rest =>
    match rest with
    | c :: time =>
      if c = 'T' || c = 't' || c = ' ' then
        match readTime? time with
        | some rest => some (datum, dropOffset rest)
        | none => some (datum, c :: time)
      else some (datum, rest)
    | [] => some (datum, [])
  | none => (readTime? s).map fun rest => (datum, rest)

/-- A number, a date or a time. -/
def readNumber? (s : List Char) : Option (Datum × List Char) :=
  (readDateTime? s).orElse fun _ =>
    (readFloat? s).orElse fun _ => (readSpecial? s).orElse fun _ => readInteger? s

end GraphSync.Toml
