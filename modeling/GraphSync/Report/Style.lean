/-!
# Styled text

What the program prints is a list of lines, and a line is a list of spans that may have a style. A
terminal shows styles; everywhere else the same lines are written plain.
-/

namespace GraphSync

/-! ## Spans and lines -/

/-- How a span looks on a terminal. -/
inductive Style where
  | bold
  | dimmed
  | cyan
  | yellow
  | boldCyan
  | boldGreen
  deriving DecidableEq

/-- A piece of text in one style. -/
structure Span where
  text : String
  style : Option Style := none
  deriving DecidableEq

/-- A text without a style. -/
def Span.plain (text : String) : Span := { text }

/-- A text in a style. -/
def Span.styled (style : Style) (text : String) : Span := { text, style := some style }

/-- A line: spans that follow each other without a gap. -/
abbrev Line := List Span

/-! ## Rendering -/

/-- The sequence that ends every style. -/
def Style.reset : List Char := ['\x1b', '[', '0', 'm']

/-- The sequence that begins a style: escape, and between a bracket and the letter m the
attributes. -/
def Style.start (s : Style) : List Char :=
  let attributes := match s with
    | bold => "1"
    | dimmed => "2"
    | cyan => "36"
    | yellow => "33"
    | boldCyan => "1;36"
    | boldGreen => "1;32"
  ['\x1b', '['] ++ attributes.toList ++ ['m']

/-- A text in which a style begins again after every reset, so that a reset within the text does not
end it early. -/
def Style.resume (s : Style) : List Char → List Char
  | '\x1b' :: '[' :: '0' :: 'm' :: rest => reset ++ s.start ++ resume s rest
  | c :: rest => c :: resume s rest
  | [] => []

/-- A text between the beginning of a style and its end. -/
def Style.paint (s : Style) (text : List Char) : List Char := s.start ++ s.resume text ++ reset

/-- A span as it is written, with its style if colors are on. -/
def Span.render (colors : Bool) (span : Span) : String :=
  match span.style, colors with
  | some s, true => String.ofList (s.paint span.text.toList)
  | _, _ => span.text

/-- A line as it is written, with its end. -/
def Line.render (colors : Bool) (line : Line) : String :=
  String.join (line.map (Span.render colors)) ++ "\n"

/-- Lines as they are written. -/
def Line.renderAll (colors : Bool) (lines : List Line) : String :=
  String.join (lines.map (Line.render colors))

end GraphSync
