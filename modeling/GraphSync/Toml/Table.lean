import GraphSync.Datum

/-!
# TOML tables

A document is a sequence of lines: headers of tables, headers of elements of table arrays, and keys
with values. Tables remember how they came to be, because a table may be opened by a header only
once and may be extended by dotted keys only if dotted keys made it.

* `Table.insertAt` adds a value under a dotted key.
* `Table.openTable` and `Table.openElement` carry out a header.
* `Document.assemble?` runs over the lines of a document and gives its contents as a datum.
-/

namespace GraphSync.Toml

/-! ## Tables -/

/-- How a table came to be. -/
inductive TableOrigin where
  /-- It has a header of its own, or is the document or an inline table. -/
  | explicit
  /-- A header of a table below it implies it. -/
  | implied
  /-- A dotted key made it. -/
  | dotted
  deriving DecidableEq

/-- What stands under a key: a value, a table, or an array of tables. -/
inductive Item where
  | value (d : Datum)
  | table (origin : TableOrigin) (entries : List (String × Item))
  | tables (elements : List (List (String × Item)))

/-- A table under construction. -/
structure Table where
  origin : TableOrigin
  entries : List (String × Item)

/-- A table without entries. -/
def Table.new (origin : TableOrigin) : Table := { origin, entries := [] }

/-- A table as an item. -/
def Table.item (t : Table) : Item := .table t.origin t.entries

/-- The table with an item under a key. -/
def Table.put (t : Table) (key : String) (item : Item) : Table :=
  { t with entries := Entries.insert key item t.entries }

/-- Changes the table at the end of a path, making the tables on the way that are missing. On the
way an array of tables stands for its last element. A dotted key must not pass through a table that
has a header. -/
def Table.modifyAt (dotted : Bool) (f : Table → Option Table) :
    (path : List String) → Table → Option Table
  | [], t => f t
  | key :: path, t =>
    match Entries.find? key t.entries with
    | none => do
      let child ← modifyAt dotted f path (.new (if dotted then .dotted else .implied))
      return t.put key child.item
    | some (.value _) => none
    | some (.table origin entries) =>
      if dotted && origin = .explicit then none
      else do
        let child ← modifyAt dotted f path { origin, entries }
        return t.put key child.item
    | some (.tables elements) =>
      match elements.reverse with
      | [] => none
      | last :: before => do
        let child ← modifyAt dotted f path { origin := .explicit, entries := last }
        return t.put key (.tables (child.entries :: before).reverse)

/-- Adds a value under a dotted key. The key must be new, and the table that gets it must have been
made by dotted keys, unless the key has one part only. -/
def Table.insertAt (path : List String) (key : String) (d : Datum) (t : Table) : Option Table :=
  modifyAt true (fun t =>
    if !path.isEmpty && t.origin ≠ .dotted then none
    else if (Entries.find? key t.entries).isSome then none
    else some (t.put key (.value d))) path t

/-- Carries out the header of a table: the table must be new or only implied so far. -/
def Table.openTable (path : List String) (key : String) (root : Table) : Option Table :=
  modifyAt false (fun t =>
    match Entries.find? key t.entries with
    | none => some (t.put key (Table.new .explicit).item)
    | some (.table .implied entries) => some (t.put key (.table .explicit entries))
    | some _ => none) path root

/-- Carries out the header of an element of an array of tables. -/
def Table.openElement (path : List String) (key : String) (root : Table) : Option Table :=
  modifyAt false (fun t =>
    match Entries.find? key t.entries with
    | none => some (t.put key (.tables [[]]))
    | some (.tables elements) => some (t.put key (.tables (elements ++ [[]])))
    | some _ => none) path root

/-! ## Tables as data -/

mutual

/-- An item as a datum. -/
def Item.toDatum : Item → Datum
  | .value d => d
  | .table _ entries => .record (entriesToData entries)
  | .tables elements => .list (elementsToData elements)

/-- Entries as data. -/
def entriesToData : List (String × Item) → List (String × Datum)
  | [] => []
  | (key, item) :: rest => (key, item.toDatum) :: entriesToData rest

/-- The elements of an array of tables as data. -/
def elementsToData : List (List (String × Item)) → List Datum
  | [] => []
  | entries :: rest => .record (entriesToData entries) :: elementsToData rest

end

/-! ## Documents -/

/-- A line of a document. The last part of a key or a header is apart from the others. -/
inductive Line where
  | tableHeader (path : List String) (key : String)
  | elementHeader (path : List String) (key : String)
  | keyValue (path : List String) (key : String) (d : Datum)

/-- A document in the making: its root, and the path of the table that values go to. -/
structure Document where
  root : Table
  current : List String

namespace Document

/-- The document before its first line. -/
def start : Document := { root := .new .explicit, current := [] }

/-- Carries out a line. -/
def add? (doc : Document) : Line → Option Document
  | .tableHeader path key => do
    return { root := ← doc.root.openTable path key, current := path ++ [key] }
  | .elementHeader path key => do
    return { root := ← doc.root.openElement path key, current := path ++ [key] }
  | .keyValue path key d => do
    return { doc with root := ← doc.root.modifyAt false (Table.insertAt path key d) doc.current }

/-- The contents of a document. -/
def assemble? (lines : List Line) : Option Datum := do
  let doc ← lines.foldlM add? start
  return .record (entriesToData doc.root.entries)

end Document

/-- The contents of an inline table. -/
def inlineTable? (fields : List (List String × String × Datum)) : Option Datum := do
  let t ← fields.foldlM (fun t (path, key, d) => t.insertAt path key d) (Table.new .explicit)
  return .record (entriesToData t.entries)

end GraphSync.Toml
