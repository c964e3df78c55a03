import GraphSync.Run.Parameters

/-!
# Calls and replies

A run talks to a database by calls: it runs a statement, or it runs one and reads a count from its
first row. What it does is laid out as a list of stages. A stage sends its call once, or again and
again until a reply is below a window.

`play` carries stages out against a list of replies. It takes one reply for each call, so it is
defined by recursion on the replies, and a run that a database never lets come to an end is a run
that is still waiting after every list of replies. A reply that is a failure ends the run.
-/

namespace GraphSync

/-! ## Calls -/

/-- A statement with its parameters, ready to be sent. -/
structure Statement where
  text : String
  params : Parameters

/-- The statement with one more parameter, in place of one of that name. -/
def Statement.param (s : Statement) (name : String) (value : Json) : Statement :=
  { s with params := s.params.insert name value }

/-- A call to the database. -/
inductive Call where
  /-- Runs a statement. -/
  | run (s : Statement)
  /-- Runs a statement and reads a column of its first row; 0 when there is no row. -/
  | fetchCount (s : Statement) (column : String)

/-- The statement of a call. -/
def Call.statement : Call → Statement
  | run s => s
  | fetchCount s _ => s

/-- The reply to a call: a count, which is not looked at where none was asked for, or the failure of
the database. -/
abbrev Reply (ε : Type) := Except ε Int64

/-! ## Stages -/

/-- What a run does next. -/
structure Stage where
  call : Call
  /-- Repeats the call while replies are no less than this. -/
  window : Option Nat := none

/-- Whether a stage is over after a reply. -/
def Stage.isOver (s : Stage) (count : Int64) : Bool :=
  match s.window with
  | none => true
  | some w => count.toInt < w

/-- How far a run has come. -/
inductive Progress (ε : Type) where
  /-- All stages are over. -/
  | finished
  | failed (e : ε)
  /-- The next call has no reply yet. -/
  | waiting (next : Call)

/-- What a run has done: its calls, the counts that came back, and how far it is. -/
structure Transcript (ε : Type) where
  calls : List Call
  counts : List Int64
  progress : Progress ε

/-- The transcript of a run that begins with a call and its count. -/
def Transcript.cons {ε : Type} (call : Call) (count : Int64) (t : Transcript ε) : Transcript ε :=
  { calls := call :: t.calls, counts := count :: t.counts, progress := t.progress }

/-- Carries stages out against replies. -/
def play {ε : Type} : List Stage → List (Reply ε) → Transcript ε
  | [], _ => { calls := [], counts := [], progress := .finished }
  | stage :: _, [] => { calls := [], counts := [], progress := .waiting stage.call }
  | stage :: _, .error e :: _ => { calls := [stage.call], counts := [], progress := .failed e }
  | stage :: rest, .ok count :: replies =>
    (play (if stage.isOver count then rest else stage :: rest) replies).cons stage.call count

end GraphSync
