import GraphSync.DomainName.CombiningClass
import GraphSync.DomainName.Composition

/-!
# The normal form of a text

Texts that look alike may be written in different characters. Their normal form is the same: each
character is taken apart, the marks are put in order, and what can be put together is.
-/

namespace GraphSync.DomainName

/-! ## Parts in order -/

/-- How often a character can be taken apart: it is a letter with at most two marks. -/
def maxSplits : Nat := 2

/-- The characters that a character stands for, taken apart at most so many times. -/
def parts : Nat → Char → List Char
  | 0, c => [c]
  | n + 1, c =>
    match split? c with
    | some (a, b) => parts n a ++ [b]
    | none => [c]

/-- Puts a character at the end of a text that is given last character first. A mark goes in front
of the marks of higher classes. -/
def place (c : Char) : List Char → List Char
  | [] => [c]
  | d :: rest =>
    if 0 < combiningClass c && combiningClass c < combiningClass d then d :: place c rest
    else c :: d :: rest

/-- A text with its marks in order. -/
def sortMarks (s : List Char) : List Char := (s.foldl (fun done c => place c done) []).reverse

/-! ## Putting together -/

/-- A text after a character and the marks on it, last mark first, with all put together that can
be. A mark reaches the character if no mark of its class or a higher one is between them. -/
def joinAll (base : Char) (marks : List Char) : List Char → List Char
  | [] => base :: marks.reverse
  | c :: rest =>
    let reaches := marks.head?.all (combiningClass · < combiningClass c)
    match if reaches then join? base c else none with
    | some whole => joinAll whole marks rest
    | none =>
      if combiningClass c = 0 then base :: marks.reverse ++ joinAll c [] rest
      else joinAll base (c :: marks) rest

/-- The normal form of a text. -/
def normal (s : List Char) : List Char :=
  match sortMarks (s.flatMap (parts maxSplits)) with
  | [] => []
  | c :: rest => joinAll c [] rest

end GraphSync.DomainName
