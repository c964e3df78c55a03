import GraphSync.Json.Reader

/-!
# TOML strings, keys and blanks

Each reader takes what it reads off the front of a list of characters and gives the rest.
-/

namespace GraphSync.Toml

/-! ## Characters -/

/-- The two blanks within a line. -/
def isBlank (c : Char) : Bool := c == ' ' || c == '\t'

/-- Characters that may stand in a comment or a string: no control characters but the tab. -/
def isPlain (c : Char) : Bool :=
  c == '\t' || (0x20 ≤ c.toNat && c.toNat ≤ 0x7E) || 0x80 ≤ c.toNat

/-- Characters of keys without quotes. -/
def isBareKey (c : Char) : Bool := c.isAlphanum || c == '_' || c == '-'

/-- A text without the blanks at its front. -/
def skipBlanks (s : List Char) : List Char := s.dropWhile isBlank

/-- A text without a comment at its front. -/
def dropComment : List Char → List Char
  | '#' :: rest => rest.dropWhile isPlain
  | s => s

/-- The text after the end of a line, in front of which a comment may stand. -/
def endLine? (s : List Char) : Option (List Char) :=
  match dropComment (skipBlanks s) with
  | [] => some []
  | '\n' :: rest => some rest
  | '\r' :: '\n' :: rest => some rest
  | _ => none

/-- A text without the blanks, ends of lines and comments at its front; `comment` says whether it
begins inside a comment. -/
def skipLines? (comment : Bool) : List Char → Option (List Char)
  | [] => some []
  | '\r' :: '\n' :: rest => skipLines? false rest
  | c :: rest =>
    if c = '\n' then skipLines? false rest
    else if comment then
      if isPlain c then skipLines? true rest else none
    else if isBlank c then skipLines? false rest
    else if c = '#' then skipLines? true rest
    else some (c :: rest)

/-! ## Strings -/

/-- The character of an escape that is one letter long. -/
def escaped? : Char → Option Char
  | '\x22' => some '\x22'
  | '\\' => some '\\'
  | 'b' => some '\x08'
  | 'f' => some '\x0c'
  | 'n' => some '\n'
  | 'r' => some '\r'
  | 't' => some '\t'
  | _ => none

/-- The character with a number, if there is one. -/
def scalar? (n : Nat) : Option Char :=
  if n < 0xD800 || (0xDFFF < n && n < 0x110000) then some (Char.ofNat n) else none

/-- The character of an escape, after its backslash. -/
def readEscape? : List Char → Option (Char × List Char)
  | 'u' :: a :: b :: c :: d :: rest => do
    return (← scalar? (← Json.hexWord? a b c d), rest)
  | 'U' :: a :: b :: c :: d :: e :: f :: g :: h :: rest => do
    let high ← Json.hexWord? a b c d
    let low ← Json.hexWord? e f g h
    return (← scalar? (high * 0x10000 + low), rest)
  | c :: rest => (escaped? c).map fun c => (c, rest)
  | [] => none

/-- A string on one line, after its opening quote. Only double quotes have escapes. -/
def readInline? (escapes : Bool) (quote : Char) :
    (fuel : Nat) → List Char → Option (List Char × List Char)
  | 0, _ => none
  | _, [] => none
  | fuel + 1, c :: rest =>
    if c = quote then some ([], rest)
    else if escapes && c = '\\' then do
      let (e, rest) ← readEscape? rest
      let (s, rest) ← readInline? escapes quote fuel rest
      return (e :: s, rest)
    else if isPlain c then do
      let (s, rest) ← readInline? escapes quote fuel rest
      return (c :: s, rest)
    else none

/-- The text after a backslash that ends a line, without the blanks and ends of lines that follow;
`none` when the backslash does not end a line. -/
def joinLine? (s : List Char) : Option (List Char) :=
  let isSpace (c : Char) : Bool := isBlank c || c == '\n'
  let rec skip : List Char → List Char
    | '\r' :: '\n' :: rest => skip rest
    | c :: rest => if isSpace c then skip rest else c :: rest
    | [] => []
  match skipBlanks s with
  | '\n' :: rest => some (skip rest)
  | '\r' :: '\n' :: rest => some (skip rest)
  | _ => none

/-- A string over several lines, after its opening quotes. One or two quotes may stand in it, also
just before the closing ones. -/
def readMultiline? (escapes : Bool) (quote : Char) :
    (fuel : Nat) → List Char → Option (List Char × List Char)
  | 0, _ => none
  | _, [] => none
  | fuel + 1, c :: rest =>
    if c = quote then
      let run := (c :: rest).takeWhile (· == quote)
      let rest := (c :: rest).dropWhile (· == quote)
      if run.length < 3 then do
        let (s, rest) ← readMultiline? escapes quote fuel rest
        return (run ++ s, rest)
      else if run.length < 6 then some (run.drop 3, rest)
      else none
    else if escapes && c = '\\' then
      match joinLine? rest with
      | some rest => readMultiline? escapes quote fuel rest
      | none => do
        let (e, rest) ← readEscape? rest
        let (s, rest) ← readMultiline? escapes quote fuel rest
        return (e :: s, rest)
    else
      match c, rest with
      | '\r', '\n' :: rest => do
        let (s, rest) ← readMultiline? escapes quote fuel rest
        return ('\n' :: s, rest)
      | _, _ =>
        if c = '\n' || isPlain c then do
          let (s, rest) ← readMultiline? escapes quote fuel rest
          return (c :: s, rest)
        else none

/-- The text after the end of a line that stands at its front. -/
def dropLineEnd : List Char → List Char
  | '\n' :: rest => rest
  | '\r' :: '\n' :: rest => rest
  | s => s

/-- A string with its quotes, of any of the four kinds. -/
def readString? (s : List Char) : Option (String × List Char) :=
  let asText : List Char × List Char → String × List Char :=
    fun (s, rest) => (String.ofList s, rest)
  match s with
  | '\x22' :: '\x22' :: '\x22' :: rest =>
    (readMultiline? true '\x22' (rest.length + 1) (dropLineEnd rest)).map asText
  | '\x22' :: rest => (readInline? true '\x22' (rest.length + 1) rest).map asText
  | '\x27' :: '\x27' :: '\x27' :: rest =>
    (readMultiline? false '\x27' (rest.length + 1) (dropLineEnd rest)).map asText
  | '\x27' :: rest => (readInline? false '\x27' (rest.length + 1) rest).map asText
  | _ => none

/-! ## Keys -/

/-- One part of a key. -/
def readKeyPart? (s : List Char) : Option (String × List Char) :=
  match s with
  | '\x22' :: rest =>
    (readInline? true '\x22' (rest.length + 1) rest).map fun (s, rest) => (String.ofList s, rest)
  | '\x27' :: rest =>
    (readInline? false '\x27' (rest.length + 1) rest).map fun (s, rest) => (String.ofList s, rest)
  | s =>
    match s.span isBareKey with
    | ([], _) => none
    | (key, rest) => some (String.ofList key, rest)

/-- The parts of a key with blanks around each: the parts before the last one, and that. -/
def readKeyParts? : (fuel : Nat) → List Char → Option (List String × String × List Char)
  | 0, _ => none
  | fuel + 1, s => do
    let (part, rest) ← readKeyPart? (skipBlanks s)
    match skipBlanks rest with
    | '.' :: rest => do
      let (path, key, rest) ← readKeyParts? fuel rest
      return (part :: path, key, rest)
    | rest => return ([], part, rest)

/-- How many parts a key may have, and how many arrays and inline tables may stand one inside
another. -/
def maxDepth : Nat := 79

/-- A key. -/
def readKey? (s : List Char) : Option (List String × String × List Char) := do
  let (path, key, rest) ← readKeyParts? (s.length + 1) s
  if path.length < maxDepth then some (path, key, rest) else none

end GraphSync.Toml
