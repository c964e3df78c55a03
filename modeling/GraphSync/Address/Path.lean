import GraphSync.Text.Pieces

/-!
# Paths to files

The path in the address of a file is followed from its root. A name of two dots leads back by one,
unless it would leave a drive. A path that gets to a drive at its root is on this machine.
-/

namespace GraphSync.Address

/-- Whether a character is a slash of either kind. -/
def isSlash (c : Char) : Bool := c = '/' || c = '\\'

/-- The names in the path at the front of a text, if it begins with one. -/
def names : List Char → List (List Char)
  | [] => []
  | c :: s =>
    if isSlash c then Text.pieces isSlash (s.takeWhile fun c => c ≠ '?' && c ≠ '#') else []

/-- Whether a name in a path is that of a drive: a letter and a colon or a bar. -/
def isDrive : List Char → Bool
  | [c, mark] => c.isAlpha && (mark = ':' || mark = '|')
  | _ => false

/-- A name in which each dot may also be written as a percent sign and its code. -/
def plainDots : List Char → List Char
  | '%' :: '2' :: c :: rest =>
    if c = 'e' || c = 'E' then '.' :: plainDots rest else '%' :: '2' :: plainDots (c :: rest)
  | c :: rest => c :: plainDots rest
  | [] => []

/-- The names on the way after one that leads back. -/
def back : List (List Char) → List (List Char)
  | [] => []
  | s :: way => if isDrive s then s :: way else way

/-- Whether a path gets to a drive at its root, after the names on the way to it, last one first. -/
def meetsDrive (way : List (List Char)) : List (List Char) → Bool
  | [] => false
  | s :: rest =>
    if plainDots s = ['.', '.'] then meetsDrive (back way) rest
    else if plainDots s = ['.'] then meetsDrive way rest
    else (way.isEmpty && isDrive s) || meetsDrive (s :: way) rest

end GraphSync.Address
