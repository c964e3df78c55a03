import GraphSync.Toml.Number
import GraphSync.Toml.Table
import GraphSync.Toml.Text

/-!
# Reading TOML

`Toml.parse?` reads a TOML 1.0 document. The readers of values recurse on a bound for the number of
characters, which `parse?` supplies.
-/

namespace GraphSync.Toml

/-! ## Values -/

mutual

/-- A value, with room for `depth` arrays and inline tables one inside another. -/
def readValue? : (fuel depth : Nat) → List Char → Option (Datum × List Char)
  | 0, _, _ => none
  | fuel + 1, depth, s =>
    match s with
    | '[' :: rest =>
      if depth = 0 then none
      else (readItems? fuel (depth - 1) rest).map fun (items, rest) => (.list items, rest)
    | '\x7b' :: rest =>
      if depth = 0 then none
      else
        match skipBlanks rest with
        | '\x7d' :: rest => some (.record [], rest)
        | rest => do
          let (fields, rest) ← readFields? fuel (depth - 1) rest
          return (← inlineTable? fields, rest)
    | 't' :: 'r' :: 'u' :: 'e' :: rest => some (.bool true, rest)
    | 'f' :: 'a' :: 'l' :: 's' :: 'e' :: rest => some (.bool false, rest)
    | s =>
      match readString? s with
      | some (text, rest) => some (.text text, rest)
      | none => readNumber? s

/-- The items of an array, up to its closing bracket. A comma may follow the last item. -/
def readItems? : (fuel depth : Nat) → List Char → Option (List Datum × List Char)
  | 0, _, _ => none
  | fuel + 1, depth, s => do
    match ← skipLines? false s with
    | ']' :: rest => some ([], rest)
    | rest =>
      let (item, rest) ← readValue? fuel depth rest
      match ← skipLines? false rest with
      | ',' :: rest => (readItems? fuel depth rest).map fun (items, rest) => (item :: items, rest)
      | ']' :: rest => some ([item], rest)
      | _ => none

/-- The fields of an inline table, up to its closing brace: one or more, on one line. -/
def readFields? : (fuel depth : Nat) → List Char →
    Option (List (List String × String × Datum) × List Char)
  | 0, _, _ => none
  | fuel + 1, depth, s => do
    let (path, key, rest) ← readKey? s
    match rest with
    | '=' :: rest =>
      let (d, rest) ← readValue? fuel depth (skipBlanks rest)
      match skipBlanks rest with
      | ',' :: rest =>
        (readFields? fuel depth rest).map fun (fields, rest) => ((path, key, d) :: fields, rest)
      | '\x7d' :: rest => some ([(path, key, d)], rest)
      | _ => none
    | _ => none

end

/-! ## Lines -/

/-- A line that is not blank, with its end. -/
def readLine? (s : List Char) : Option (Line × List Char) :=
  match s with
  | '[' :: '[' :: rest => do
    match ← readKey? rest with
    | (path, key, ']' :: ']' :: rest) => return (.elementHeader path key, ← endLine? rest)
    | _ => none
  | '[' :: rest => do
    match ← readKey? rest with
    | (path, key, ']' :: rest) => return (.tableHeader path key, ← endLine? rest)
    | _ => none
  | s => do
    match ← readKey? s with
    | (path, key, '=' :: rest) =>
      let (d, rest) ← readValue? (2 * rest.length + 2) maxDepth (skipBlanks rest)
      return (.keyValue path key d, ← endLine? rest)
    | _ => none

/-- The lines of a document. -/
def readLines? : (fuel : Nat) → List Char → Option (List Line)
  | 0, _ => none
  | fuel + 1, s =>
    match skipBlanks s with
    | [] => some []
    | c :: rest =>
      if c = '\n' || c = '\r' || c = '#' then do readLines? fuel (← endLine? (c :: rest))
      else do
        let (line, rest) ← readLine? (c :: rest)
        return line :: (← readLines? fuel rest)

/-- The contents of a document. A byte order mark may stand in front of it. -/
def parse? (text : String) : Option Datum := do
  let s := match text.toList with
    | '\uFEFF' :: rest => rest
    | s => s
  Document.assemble? (← readLines? (s.length + 1) s)

end GraphSync.Toml
