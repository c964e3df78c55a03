import GraphSync.Dictionary
import GraphSync.Double.Basic

/-!
# JSON values

Numbers are kept apart as they are written: a number without fraction and exponent is an integer
when 64 bits hold it, signed or unsigned, and every other number is a double. Members of an object
are listed by key, in code point order.
-/

namespace GraphSync

/-- An integer that 64 bits hold, signed or unsigned. -/
structure Json.Integer where
  val : Int
  lower : Int64.minValue.toInt ≤ val
  upper : val < UInt64.size
  deriving DecidableEq

/-- A JSON value. -/
inductive Json where
  | null
  | bool (b : Bool)
  | integer (n : Json.Integer)
  | double (x : Double)
  | string (s : String)
  | array (items : List Json)
  | object (members : List (String × Json))

namespace Json

instance : Inhabited Json := ⟨null⟩

/-- The integer of a number, if 64 bits hold it. -/
def Integer.ofInt? (n : Int) : Option Integer :=
  if h : Int64.minValue.toInt ≤ n ∧ n < UInt64.size then
    some { val := n, lower := h.1, upper := h.2 }
  else none

/-- A signed word as an integer. -/
def Integer.ofInt64 (n : Int64) : Integer where
  val := n.toInt
  lower := n.le_toInt
  upper := Int.lt_trans n.toInt_lt (by decide)

/-- An unsigned word as an integer. -/
def Integer.ofUInt64 (n : UInt64) : Integer where
  val := n.toNat
  lower := Int.le_trans (by decide) (Int.natCast_nonneg _)
  upper := Int.ofNat_lt.2 n.toNat_lt_size

/-- A signed word as a JSON number. -/
def ofInt64 (n : Int64) : Json := integer (.ofInt64 n)

/-- An unsigned word as a JSON number. -/
def ofUInt64 (n : UInt64) : Json := integer (.ofUInt64 n)

/-- The object of a list of members; of a repeated key the last value counts. -/
def ofMembers (members : List (String × Json)) : Json :=
  object (Dictionary.ofList members).entries

/-- Whether a value is an object. -/
def isObject : Json → Bool
  | object _ => true
  | _ => false

/-- Whether a value is null. -/
def isNull : Json → Bool
  | null => true
  | _ => false

/-- The text of a string value. -/
def string? : Json → Option String
  | string s => some s
  | _ => none

end Json

end GraphSync
