import GraphSync.Json.Basic

/-!
# Data

A datum is what is left of a structured text, in whatever format, once it is read: definitions and
settings are decoded from data and not from a format.

* `Slots.ofDatum?` views a record, or a list with the fields in their order, as named slots;
  `Slots.ofDatumPrefix?` lets the list be longer.
* `required`, `optional` and `orElse` read one slot.
-/

namespace GraphSync

/-- Structured data. A number that is not an integer is only known to be one. -/
inductive Datum where
  | null
  | bool (b : Bool)
  | integer (n : Int)
  | fraction
  | text (s : String)
  | list (items : List Datum)
  | record (fields : List (String × Datum))

namespace Datum

/-- A truth value. -/
def bool? : Datum → Option Bool
  | .bool b => some b
  | _ => none

/-- A text. -/
def text? : Datum → Option String
  | .text s => some s
  | _ => none

/-- An integer that is not negative and fits a word. -/
def size? : Datum → Option UInt64
  | .integer n => if 0 ≤ n && n < UInt64.size then some (UInt64.ofNat n.toNat) else none
  | _ => none

/-- A list, each item decoded. -/
def list? {α : Type} (decode : Datum → Option α) : Datum → Option (List α)
  | .list items => items.mapM decode
  | _ => none

/-! ## JSON values as data -/

mutual

/-- A JSON value as a datum. -/
def ofJson : Json → Datum
  | .null => .null
  | .bool b => .bool b
  | .integer n => .integer n.val
  | .double _ => .fraction
  | .string s => .text s
  | .array items => .list (ofJsonItems items)
  | .object members => .record (ofJsonMembers members)

/-- The items of an array as data. -/
def ofJsonItems : List Json → List Datum
  | [] => []
  | item :: rest => ofJson item :: ofJsonItems rest

/-- The members of an object as data. -/
def ofJsonMembers : List (String × Json) → List (String × Datum)
  | [] => []
  | (key, value) :: rest => (key, ofJson value) :: ofJsonMembers rest

end

end Datum

/-! ## Slots -/

/-- Named slots. When they come from a list, a slot beyond its end is absent. -/
structure Slots where
  positional : Bool
  fields : List (String × Datum)

namespace Slots

/-- The slots of a record, or of a list; items beyond the names are passed over. -/
def ofDatumPrefix? (names : List String) : Datum → Option Slots
  | .record fields => some { positional := false, fields }
  | .list items => some { positional := true, fields := names.zip items }
  | _ => none

/-- The slots of a record, or of a list with at most one item for each name. -/
def ofDatum? (names : List String) (d : Datum) : Option Slots :=
  match d with
  | .list items => if items.length ≤ names.length then ofDatumPrefix? names d else none
  | d => ofDatumPrefix? names d

/-- A slot that must be there. -/
def required {α : Type} (s : Slots) (key : String) (decode : Datum → Option α) : Option α :=
  (Entries.find? key s.fields).bind decode

/-- A slot that may be absent from a record, or null; a list has to have it. -/
def optional {α : Type} (s : Slots) (key : String) (decode : Datum → Option α) :
    Option (Option α) :=
  match Entries.find? key s.fields with
  | none => if s.positional then none else some none
  | some .null => some none
  | some d => (decode d).map some

/-- A slot with a value to fall back on when it is absent. -/
def orElse {α : Type} (s : Slots) (key : String) (default : α) (decode : Datum → Option α) :
    Option α :=
  match Entries.find? key s.fields with
  | none => some default
  | some d => decode d

end Slots

end GraphSync
