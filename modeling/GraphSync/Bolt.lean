import GraphSync.Json.Basic

/-!
# Bolt values

The values that travel to the database. Its integers are signed words; a JSON integer beyond them
becomes the nearest float.
-/

namespace GraphSync

/-- A value as the database gets it. -/
inductive Bolt where
  | null
  | boolean (b : Bool)
  | integer (n : Int64)
  | float (x : Double)
  | string (s : String)
  | list (items : List Bolt)
  | map (entries : List (String × Bolt))

namespace Bolt

/-- The double nearest to an integer. An integer of 64 bits is far below the largest double. -/
def nearestFloat (n : Json.Integer) : Double :=
  (Double.ofRatio? (n.val < 0) n.val.natAbs 1).getD (Double.zero false)

/-- An integer as the database gets it. -/
def ofInteger (n : Json.Integer) : Bolt :=
  if n.val ≤ Int64.maxValue.toInt then integer (Int64.ofInt n.val) else float (nearestFloat n)

mutual

/-- A JSON value as the database gets it. -/
def ofJson : Json → Bolt
  | .null => null
  | .bool b => boolean b
  | .integer n => ofInteger n
  | .double x => float x
  | .string s => string s
  | .array items => list (ofItems items)
  | .object members => map (ofMembers members)

/-- The items of an array as the database gets them. -/
def ofItems : List Json → List Bolt
  | [] => []
  | item :: rest => ofJson item :: ofItems rest

/-- The members of an object as the database gets them. -/
def ofMembers : List (String × Json) → List (String × Bolt)
  | [] => []
  | (key, value) :: rest => (key, ofJson value) :: ofMembers rest

end

end Bolt

end GraphSync
