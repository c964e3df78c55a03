import GraphSync.Text.Digit
import GraphSync.Text.Pieces

/-!
# Addresses of eight words

An address of eight words has colons between them, and one double colon may stand for words that are
zero. The last two words may be written as four bytes.
-/

namespace GraphSync.Address.Ipv6

/-- How many words there are. -/
def size : Nat := 8

/-- A word: up to four hexadecimal digits. -/
def word? (s : List Char) : Option Nat := if s.length ≤ 4 then Text.number? 16 s else none

/-- A byte: a decimal number without a zero in front. -/
def byte? (s : List Char) : Option Nat := do
  if s.head? = some '0' && s ≠ ['0'] then none
  else
    let n ← Text.number? 10 s
    if n < 256 then some n else none

/-- The two words that four bytes make. -/
def ofBytes? (s : List Char) : Option (List Nat) := do
  match ← (Text.pieces (· = '.') s).mapM byte? with
  | [a, b, c, d] => some [256 * a + b, 256 * c + d]
  | _ => none

/-- Words, of which the last two may be written as bytes. -/
def words? : List (List Char) → Option (List Nat)
  | [] => some []
  | [s] => ((word? s).map ([·])).or (ofBytes? s)
  | s :: rest => do return (← word? s) :: (← words? rest)

/-- The words between single colons in a text that may be empty. -/
def side? (s : List Char) : Option (List Nat) :=
  if s.isEmpty then some [] else words? (Text.pieces (· = ':') s)

/-- The texts before and after the first double colon. -/
def splitDouble? : List Char → Option (List Char × List Char)
  | ':' :: ':' :: rest => some ([], rest)
  | c :: rest => do
    let (before, after) ← splitDouble? rest
    return (c :: before, after)
  | [] => none

/-- The words that a text writes. -/
def ofText? (s : List Char) : Option (List Nat) := do
  match splitDouble? s with
  | none =>
    let ws ← side? s
    if ws.length = size then some ws else none
  | some (before, after) =>
    let left ← side? before
    let right ← side? after
    if before.contains '.' || size ≤ left.length + right.length then none
    else some (left ++ List.replicate (size - left.length - right.length) 0 ++ right)

end GraphSync.Address.Ipv6
