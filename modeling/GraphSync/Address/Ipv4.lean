import GraphSync.DomainName.Basic

/-!
# Numeric hosts

A domain name whose last label is a number is no name: it is an address of four bytes. Each number
may be decimal, octal or hexadecimal, and the last one fills the bytes that are left.
-/

namespace GraphSync.Address.Ipv4

/-- The value of a number: hexadecimal after `0x`, octal after `0`, otherwise decimal. After a mark
of the base, no digits are zero. -/
def number? : List Char → Option Nat
  | '0' :: c :: rest =>
    if c = 'x' || c = 'X' then if rest.isEmpty then some 0 else Text.number? 16 rest
    else Text.number? 8 (c :: rest)
  | s => Text.number? 10 s

/-- The labels of a name without the empty one after a dot at its end. -/
def trimDot (labels : List DomainName.Label) : List DomainName.Label :=
  if labels.getLast? = some [] then labels.dropLast else labels

/-- Whether a label is meant as a number. -/
def isNumeric (label : DomainName.Label) : Bool :=
  (!label.isEmpty && label.all Char.isDigit) || (number? label).isSome

/-- Whether a domain name ends in a number. -/
def endsInNumber (name : DomainName) : Bool := (trimDot name.labels).getLast?.any isNumeric

/-- The value of numbers that stand for one byte each, but for the last one, which stands for so
many bytes. -/
def combine? : Nat → List Nat → Option Nat
  | _, [] => none
  | bytes, [n] => if n < Nat.pow 256 bytes then some n else none
  | bytes, n :: rest => do
    let low ← combine? (bytes - 1) rest
    if n < 256 then some (n * Nat.pow 256 (bytes - 1) + low) else none

/-- The four bytes that the labels of a name write. -/
def ofName? (name : DomainName) : Option Nat := do
  let numbers ← (trimDot name.labels).mapM number?
  if numbers.length ≤ 4 then combine? 4 numbers else none

end GraphSync.Address.Ipv4
