/-!
# The coded form of labels

A label with letters beyond ASCII is coded in ASCII: first its ASCII characters, then, after a
hyphen, a number for each other character. The characters are put in by rising code point, and the
number tells how far the next one is from the last, counted over code points and places alike. The
digits of a number are letters and digits, and how many it has is adapted to the numbers before.
-/

namespace GraphSync.DomainName.Punycode

/-! ## Digits -/

/-- The base of the digits. -/
def base : Nat := 36

/-- The value of a digit. -/
def digit? (c : Char) : Option Nat :=
  if 'a' ≤ c && c ≤ 'z' then some (c.toNat - 97)
  else if 'A' ≤ c && c ≤ 'Z' then some (c.toNat - 65)
  else if c.isDigit then some (c.toNat - 48 + 26)
  else none

/-- The least digit at a place that does not end its number. -/
def threshold (bias place : Nat) : Nat := min 26 (max 1 (base * (place + 1) - bias))

/-- The bias for the numbers after one of a given size. -/
def settle (bias size : Nat) : Nat :=
  if 455 < size then settle (bias + base) (size / 35) else bias + 36 * size / (size + 38)
termination_by size
decreasing_by exact Nat.div_lt_self (by omega) (by decide)

/-- The bias after a number, by how many characters there are with it. The first number is by far
the largest. -/
def adapt (isFirst : Bool) (number count : Nat) : Nat :=
  let size := number / if isFirst then 700 else 2
  settle 0 (size + size / count)

/-! ## Reading -/

/-- What has been read of the coded characters: the label so far, the code point of the last one
that was put in and the place after it, and the number at hand with its digits read. -/
structure Progress where
  label : List Char
  code : Nat
  next : Nat
  bias : Nat
  number : Nat
  weight : Nat
  digits : Nat

/-- The progress before any coded character. -/
def Progress.start (label : List Char) : Progress :=
  { label, code := 128, next := 0, bias := 72, number := 0, weight := 1, digits := 0 }

/-- Puts in the character that a finished number tells. -/
def Progress.insert? (p : Progress) (number : Nat) : Option Progress :=
  let count := p.label.length + 1
  let way := p.next + number
  let code := p.code + way / count
  let next := way % count
  if code.isValidChar then
    some { label := p.label.insertIdx next (Char.ofNat code), code, next := next + 1,
           bias := adapt (p.next = 0) number count, number := 0, weight := 1, digits := 0 }
  else none

/-- Reads a digit. -/
def Progress.step (p : Progress) (c : Char) : Option Progress := do
  let d ← digit? c
  let t := threshold p.bias p.digits
  let number := p.number + d * p.weight
  if d < t then p.insert? number
  else return { p with number, weight := p.weight * (base - t), digits := p.digits + 1 }

/-- The ASCII characters of a coded label and its numbers, which begin after the last hyphen. A
hyphen at the front counts as a digit. -/
def divide (s : List Char) : List Char × List Char :=
  match s.reverse.span (· ≠ '-') with
  | (numbers, _ :: c :: label) => ((c :: label).reverse, numbers.reverse)
  | _ => ([], s)

/-- The label that a coded form stands for. -/
def decode? (s : List Char) : Option (List Char) := do
  let (label, numbers) := divide s
  let p ← numbers.foldlM Progress.step (.start label)
  if p.digits = 0 then some p.label else none

end GraphSync.DomainName.Punycode
