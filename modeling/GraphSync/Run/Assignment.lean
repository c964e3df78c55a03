import GraphSync.Json.Reader
import GraphSync.Run.Literal
import GraphSync.Text.Blank

/-!
# Assignments

An assignment `NAME=VALUE` or `NAME:TYPE=VALUE` binds a run parameter. Without a type the value is a
string, so that an identifier made of digits binds the same type with or without a leading zero.
-/

namespace GraphSync

/-- A parameter and its value. -/
structure Assignment where
  name : String
  value : Json

/-- Why a text is no assignment. -/
inductive AssignmentError where
  /-- There is no equals sign. -/
  | noValue (text : String)
  | noName (text : String)
  | invalidInt (name raw : String) (cause : LiteralError)
  | invalidFloat (name raw : String) (cause : LiteralError)
  | invalidBool (name raw : String) (cause : LiteralError)
  | invalidJson (name raw : String)
  | unknownType (name type : String)
  deriving DecidableEq

/-- The wording of an assignment error. A full message of `invalidJson` ends in a colon and the cause,
in the words of the JSON parser, as the messages for numbers do; these words are left out. -/
def AssignmentError.message : AssignmentError → String
  | noValue text => "expected NAME=VALUE or NAME:TYPE=VALUE, got '" ++ text ++ "'"
  | noName text => "missing parameter name in '" ++ text ++ "'"
  | invalidInt name raw cause => name ++ ": invalid int '" ++ raw ++ "': " ++ cause.message
  | invalidFloat name raw cause => name ++ ": invalid float '" ++ raw ++ "': " ++ cause.message
  | invalidBool name raw cause => name ++ ": invalid bool '" ++ raw ++ "': " ++ cause.message
  | invalidJson name raw => name ++ ": invalid json '" ++ raw ++ "'"
  | unknownType name type =>
    name ++ ": unknown type '" ++ type ++ "', expected str, int, float, bool or json"

namespace Assignment

/-- The text before the first occurrence of a character and the text after it. -/
def splitAt? (sep : Char) : List Char → Option (List Char × List Char)
  | [] => none
  | c :: rest =>
    if c = sep then some ([], rest)
    else (splitAt? sep rest).map fun (before, after) => (c :: before, after)

/-- The name and the type of what stands before the equals sign, both without outer blanks. -/
def nameAndType (key : List Char) : List Char × String :=
  match splitAt? ':' key with
  | some (name, type) => (Text.trim name, String.ofList (Text.trim type))
  | none => (Text.trim key, "str")

/-- A double as a JSON number. JSON has no number for what is not finite, so that is null. -/
def floatValue : Literal.FloatValue → Json
  | .finite x => .double x
  | .notFinite => .null

/-- The value that a text denotes in a type. -/
def readValue (name type raw : String) : Except AssignmentError Json :=
  let body := Text.trim raw.toList
  if type = "str" then .ok (.string raw)
  else if type = "int" then
    (Literal.readInt64 body).map Json.ofInt64 |>.mapError (.invalidInt name raw)
  else if type = "float" then
    (Literal.readFloat body).map floatValue |>.mapError (.invalidFloat name raw)
  else if type = "bool" then
    (Literal.readBool body).map Json.bool |>.mapError (.invalidBool name raw)
  else if type = "json" then
    match Json.parse? raw with
    | some v => .ok v
    | none => .error (.invalidJson name raw)
  else .error (.unknownType name type)

/-- The assignment that a text writes. -/
def parse (text : String) : Except AssignmentError Assignment :=
  match splitAt? '=' text.toList with
  | none => .error (.noValue text)
  | some (key, raw) =>
    let (name, type) := nameAndType key
    if name.isEmpty then .error (.noName text)
    else
      let name := String.ofList name
      (readValue name type (String.ofList raw)).map fun value => { name, value }

end Assignment

end GraphSync
