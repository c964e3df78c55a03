/-!
# Identifiers

A name that is a plain word, an ASCII letter or underscore followed by letters, digits and
underscores, is written as it is. Any other name is written between backticks, and a backtick inside
it is written twice.
-/

namespace GraphSync.Cypher.Identifier

/-- The character around quoted names. -/
def backtick : Char := '\x60'

/-- Characters that may begin a plain word. -/
def isWordStart (c : Char) : Bool := c.isAlpha || c == '_'

/-- Characters that may continue a plain word. -/
def isWordRest (c : Char) : Bool := c.isAlphanum || c == '_'

/-- Whether a name is a plain word. -/
def isWord : List Char → Bool
  | [] => false
  | c :: rest => isWordStart c && rest.all isWordRest

/-- A name with every backtick written twice. -/
def doubled : List Char → List Char
  | [] => []
  | c :: rest => if c = backtick then backtick :: backtick :: doubled rest else c :: doubled rest

/-- The written form of a name, as characters. -/
def written (name : List Char) : List Char :=
  if isWord name then name else backtick :: (doubled name ++ [backtick])

/-- The written form of a name. -/
def escape (name : String) : String := String.ofList (written name.toList)

end GraphSync.Cypher.Identifier
