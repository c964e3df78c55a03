import GraphSync.Json.Number

/-!
# Reading JSON

`Json.parse?` reads a text that holds one JSON value and blanks around it. Only space, tab, line
feed and carriage return are blanks. At most 127 arrays and objects stand one inside another.

Each reader takes what it reads off the front of a list of characters and gives the rest. The
readers of values recurse on a bound for the number of characters, which `parse?` supplies.
-/

namespace GraphSync.Json

/-! ## Blanks and strings -/

/-- The four blanks of JSON. -/
def isBlank (c : Char) : Bool := c == ' ' || c == '\t' || c == '\n' || c == '\r'

/-- A text without the blanks at its front. -/
def skipBlanks (s : List Char) : List Char := s.dropWhile isBlank

/-- The number that four hexadecimal digits write. -/
def hexWord? (a b c d : Char) : Option Nat := do
  let a ← Text.hexDigit? a
  let b ← Text.hexDigit? b
  let c ← Text.hexDigit? c
  let d ← Text.hexDigit? d
  return ((a * 16 + b) * 16 + c) * 16 + d

/-- The character of an escape that is one letter long. -/
def escaped? : Char → Option Char
  | '\x22' => some '\x22'
  | '\\' => some '\\'
  | '/' => some '/'
  | 'b' => some '\x08'
  | 'f' => some '\x0c'
  | 'n' => some '\n'
  | 'r' => some '\r'
  | 't' => some '\t'
  | _ => none

/-- The character of two surrogates. -/
def joinSurrogates (high low : Nat) : Char :=
  Char.ofNat (0x10000 + (high - 0xD800) * 0x400 + (low - 0xDC00))

/-- The characters of a string up to its closing quote, and the rest. A control character, an
unknown escape and a surrogate without its partner are refused. -/
def readString? : List Char → Option (List Char × List Char)
  | [] => none
  | '\x22' :: rest => some ([], rest)
  | '\\' :: 'u' :: a :: b :: c :: d :: rest =>
    match hexWord? a b c d with
    | none => none
    | some n =>
      if 0xD800 ≤ n && n < 0xDC00 then
        match rest with
        | '\\' :: 'u' :: a :: b :: c :: d :: rest =>
          match hexWord? a b c d with
          | none => none
          | some m =>
            if 0xDC00 ≤ m && m < 0xE000 then
              (readString? rest).map fun (s, rest) => (joinSurrogates n m :: s, rest)
            else none
        | _ => none
      else if 0xDC00 ≤ n && n < 0xE000 then none
      else (readString? rest).map fun (s, rest) => (Char.ofNat n :: s, rest)
  | '\\' :: e :: rest =>
    match escaped? e with
    | none => none
    | some c => (readString? rest).map fun (s, rest) => (c :: s, rest)
  | c :: rest =>
    if c.toNat < 0x20 then none
    else (readString? rest).map fun (s, rest) => (c :: s, rest)

/-! ## Values -/

/-- A word that stands for a value. -/
def readWord? (s : List Char) : Option (Json × List Char) :=
  match s with
  | 'n' :: 'u' :: 'l' :: 'l' :: rest => some (null, rest)
  | 't' :: 'r' :: 'u' :: 'e' :: rest => some (bool true, rest)
  | 'f' :: 'a' :: 'l' :: 's' :: 'e' :: rest => some (bool false, rest)
  | _ => none

/-- A number. -/
def readNumber? (s : List Char) : Option (Json × List Char) := do
  let (literal, rest) ← Literal.read? s
  return (← literal.value?, rest)

/-- The key of a member with the colon after it. -/
def readKey? (s : List Char) : Option (String × List Char) :=
  match skipBlanks s with
  | '\x22' :: rest =>
    match readString? rest with
    | some (key, rest) =>
      match skipBlanks rest with
      | ':' :: rest => some (String.ofList key, rest)
      | _ => none
    | none => none
  | _ => none

mutual

/-- A value after blanks, with room for `depth` arrays and objects one inside another. -/
def readValue? : (fuel depth : Nat) → List Char → Option (Json × List Char)
  | 0, _, _ => none
  | fuel + 1, depth, s =>
    match skipBlanks s with
    | '[' :: rest =>
      if depth = 0 then none
      else
        match skipBlanks rest with
        | ']' :: rest => some (array [], rest)
        | rest => (readItems? fuel (depth - 1) rest).map fun (items, rest) => (array items, rest)
    | '\x7b' :: rest =>
      if depth = 0 then none
      else
        match skipBlanks rest with
        | '\x7d' :: rest => some (object [], rest)
        | rest =>
          (readMembers? fuel (depth - 1) rest).map fun (members, rest) => (ofMembers members, rest)
    | '\x22' :: rest => (readString? rest).map fun (s, rest) => (string (String.ofList s), rest)
    | c :: rest => if c == '-' || c.isDigit then readNumber? (c :: rest) else readWord? (c :: rest)
    | [] => none

/-- One or more values separated by commas, up to the closing bracket. -/
def readItems? : (fuel depth : Nat) → List Char → Option (List Json × List Char)
  | 0, _, _ => none
  | fuel + 1, depth, s =>
    match readValue? fuel depth s with
    | none => none
    | some (item, rest) =>
      match skipBlanks rest with
      | ',' :: rest =>
        (readItems? fuel depth rest).map fun (items, rest) => (item :: items, rest)
      | ']' :: rest => some ([item], rest)
      | _ => none

/-- One or more members separated by commas, up to the closing brace. -/
def readMembers? : (fuel depth : Nat) → List Char → Option (List (String × Json) × List Char)
  | 0, _, _ => none
  | fuel + 1, depth, s =>
    match readKey? s with
    | none => none
    | some (key, rest) =>
      match readValue? fuel depth rest with
      | none => none
      | some (value, rest) =>
        match skipBlanks rest with
        | ',' :: rest =>
          (readMembers? fuel depth rest).map fun (members, rest) => ((key, value) :: members, rest)
        | '\x7d' :: rest => some ([(key, value)], rest)
        | _ => none

end

/-- How many arrays and objects may stand one inside another. -/
def maxDepth : Nat := 127

/-- The value a text holds. A reader and the reader it calls for its parts need two units of fuel
for one character at least, so twice the length is always enough. -/
def parse? (text : String) : Option Json :=
  let s := text.toList
  match readValue? (2 * s.length + 2) maxDepth s with
  | some (value, rest) => if (skipBlanks rest).isEmpty then some value else none
  | none => none

end GraphSync.Json
