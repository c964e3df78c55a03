/-!
# Arguments by their form

Whether an argument is an option, and which part of it is a value, is seen from its leading dashes.
-/

namespace GraphSync.CommandLine

/-- An argument by its form. -/
inductive Token where
  /-- Two dashes: everything after it is an operand. -/
  | terminator
  /-- Two dashes and a name, with the value after an equals sign. -/
  | long (name : String) (value : Option String)
  /-- One dash and letters. -/
  | short (letters : List Char)
  | word (text : String)
  deriving DecidableEq

namespace Token

/-- The form of what follows two dashes. -/
def afterDashes (body : List Char) : Token :=
  if body.isEmpty then .terminator
  else
    let (name, rest) := body.span (· != '=')
    .long (String.ofList name) (rest.tail?.map String.ofList)

/-- The form of an argument. A dash alone is a word. -/
def ofArgument (arg : String) : Token :=
  match arg.toList with
  | '-' :: '-' :: body => afterDashes body
  | '-' :: c :: letters => .short (c :: letters)
  | _ => .word arg

/-- The value within a group of letters, after the letter that takes it: what is left of the group,
without an equals sign in front. -/
def attached? : List Char → Option String
  | [] => none
  | '=' :: rest => some (String.ofList rest)
  | rest => some (String.ofList rest)

end Token

end GraphSync.CommandLine
