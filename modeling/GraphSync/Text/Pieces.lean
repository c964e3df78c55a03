/-!
# Pieces of a text

A text is cut at each character of a kind. There is always one piece more than there are cuts, so an
empty text is one empty piece.
-/

namespace GraphSync.Text

/-- The pieces of a text between the characters of a kind. -/
def pieces (isCut : Char → Bool) (s : List Char) : List (List Char) :=
  s.foldr (fun c ps => if isCut c then [] :: ps else ps.modifyHead (c :: ·)) [[]]

end GraphSync.Text
