import Mathlib.Data.List.Infix
import GraphSync.Json.Basic

/-! # Comparing values

    A property graph holds JSON values, and `null` is the value of an absent
    property.  Comparisons have three outcomes: `some true`, `some false`,
    and `none` when the outcome is unknown.

    * `same` is the `=` of queries.  A comparison with `null` is unknown,
      values of different kinds differ, and numbers are compared exactly.
    * `isIn` and `holdsText` are `IN` and `CONTAINS`.

    A condition that is unknown is not met, so `same v w = some false` says
    more than that the values differ: both are there. -/

namespace GraphSync

/-- A finite double as a whole number of least positive doubles. -/
def Double.signedUnits (x : Double) : Int :=
  if x.negative then -(Double.units x.magnitude : Int) else Double.units x.magnitude

namespace Json

/-! ## Three-valued connectives -/

/-- Both of two outcomes. -/
def both : Option Bool → Option Bool → Option Bool
  | some false, _ => some false
  | _, some false => some false
  | some true, some true => some true
  | _, _ => none

/-- One of two outcomes. -/
def either : Option Bool → Option Bool → Option Bool
  | some true, _ => some true
  | _, some true => some true
  | some false, some false => some false
  | _, _ => none

/-! ## Equality -/

mutual

/-- Whether two values are equal. -/
def same : Json → Json → Option Bool
  | .null, _ => none
  | .bool a, w =>
    match w with
    | .null => none
    | .bool b => some (a == b)
    | _ => some false
  | .integer m, w =>
    match w with
    | .null => none
    | .integer n => some (m.val == n.val)
    | .double y => some (m.val * Double.unitsPerOne == y.signedUnits)
    | _ => some false
  | .double x, w =>
    match w with
    | .null => none
    | .integer n => some (x.signedUnits == n.val * Double.unitsPerOne)
    | .double y => some (x.signedUnits == y.signedUnits)
    | _ => some false
  | .string a, w =>
    match w with
    | .null => none
    | .string b => some (a == b)
    | _ => some false
  | .array vs, w =>
    match w with
    | .null => none
    | .array ws => sameItems vs ws
    | _ => some false
  | .object vs, w =>
    match w with
    | .null => none
    | .object ws => sameMembers vs ws
    | _ => some false

/-- Whether two lists have equal items. -/
def sameItems : List Json → List Json → Option Bool
  | [], ws => some ws.isEmpty
  | _ :: _, [] => some false
  | v :: vs, w :: ws => both (same v w) (sameItems vs ws)

/-- Whether two objects have equal members.  Members stand in the order of
    their keys. -/
def sameMembers : List (String × Json) → List (String × Json) → Option Bool
  | [], ws => some ws.isEmpty
  | _ :: _, [] => some false
  | (k, v) :: vs, (l, w) :: ws =>
    if k = l then both (same v w) (sameMembers vs ws) else some false

end

@[simp] theorem same_ofInt64 (n : Int64) : same (.ofInt64 n) (.ofInt64 n) = some true := by
  simp [ofInt64, same]

@[simp] theorem same_null_left (v : Json) : same .null v = none := by
  simp [same]

@[simp] theorem same_null_right (v : Json) : same v .null = none := by
  cases v <;> simp [same]

/-! ## Membership, text and case -/

/-- Whether a value is among the items of a list. -/
def isAmong (v : Json) : List Json → Option Bool
  | [] => some false
  | w :: ws => either (same v w) (isAmong v ws)

/-- Whether a value is an item of an array.  What is no array has no items
    that could be compared. -/
def isIn (v : Json) : Json → Option Bool
  | .array ws => isAmong v ws
  | _ => none

/-- Whether a text contains another. -/
def holdsText : Json → Json → Option Bool
  | .string a, .string b => some (a.toList.tails.any b.toList.isPrefixOf)
  | _, _ => none

/-- A text in lower case.  `lower` is the database's own way to lower text. -/
def lowered (lower : String → String) : Json → Json
  | .string s => .string (lower s)
  | _ => .null

/-! ## Values of properties -/

/-- Values that are no lists or objects. -/
def isScalar : Json → Bool
  | .null | .array _ | .object _ => false
  | _ => true

/-- Values that a property can hold: scalars and lists of them.  To store
    `null` is to remove the property. -/
def isStorable : Json → Bool
  | .object _ => false
  | .array vs => vs.all isScalar
  | _ => true

/-- The value under a key of an object. -/
def member (v : Json) (key : String) : Json :=
  match v with
  | .object members => (Entries.find? key members).getD .null
  | _ => .null

end Json

end GraphSync
