import GraphSync.Cypher.Index
import GraphSync.Cypher.Printer
import GraphSync.Proofs.Graph.Clause
import GraphSync.Run.Call

/-! # Sessions

    A session is a run of stages against a database that carries out each
    statement at once and as a whole.  `play` takes the replies as they come;
    a session also says what happens to the store:

    * A call that is answered has led from one store to the next, and its
      count is read off the rows.
    * A call that fails either did nothing or was carried out before its
      answer was lost.
    * A session may stop at any point.

    Three lemmas carry facts about one call to a whole session:
    `Session.invariant`, `Session.settled` and `Session.length_le`.  A
    `Database` is one way to make all choices; what it does is a session
    (`Database.follow_session`). -/

namespace GraphSync

/-! ## Tasks -/

/-- What the text of a statement asks for. -/
inductive Work where
  | query (q : Cypher.Query)
  | index (i : Cypher.Index)

/-- The text that asks for some work. -/
def Work.text : Work → String
  | .query q => q.text
  | .index i => i.text

/-- `w.Exec cx s s' rows`: the work may take `s` to `s'` and return `rows`.
    An index does not show in the graph. -/
def Work.Exec (cx : Context) (s s' : Store) (rows : List Binding) : Work → Prop
  | .query q => q.Exec cx s s' rows
  | .index _ => s' = s ∧ rows = []

/-- A stage, with the work that its statement asks for. -/
structure Task where
  work    : Work
  stage   : Stage
  text_eq : stage.call.statement.text = work.text

/-- Whether a count is what a call reads off the rows: a column of the first
    row, or 0 when there is none. -/
def Call.Reads (rows : List Binding) (count : Int64) : Call → Prop
  | .run _ => True
  | .fetchCount _ column =>
    match rows with
    | [] => count = 0
    | row :: _ => row column = some (.value (.ofInt64 count))

namespace Task

/-- `t.Answers lower s count s'`: the call of the task may take `s` to `s'`
    and reply `count`. -/
def Answers (lower : String → String) (t : Task) (s : Store) (count : Int64) (s' : Store) :
    Prop :=
  ∃ now rows, t.work.Exec { params := t.stage.call.statement.params, now, lower } s s' rows ∧
    t.stage.call.Reads rows count

/-- The tasks that are left after a reply. -/
def next (t : Task) (rest : List Task) (count : Int64) : List Task :=
  if t.stage.isOver count then rest else t :: rest

theorem next_subset (t : Task) (rest : List Task) (count : Int64) :
    t.next rest count ⊆ t :: rest := by
  unfold next
  split
  · exact List.subset_cons_self t rest
  · exact fun _ h => h

/-- One reply is enough for a task that is sent once. -/
theorem next_of_once {t : Task} (honce : t.stage.window = none) (rest : List Task)
    (count : Int64) : t.next rest count = rest := by
  have hover : t.stage.isOver count = true := by
    unfold Stage.isOver
    rw [honce]
  exact if_pos hover

/-- A reply leads on to the tasks that it leaves. -/
theorem play_ok {ε : Type} (t : Task) (rest : List Task) (count : Int64)
    (replies : List (Reply ε)) :
    play ((t :: rest).map stage) (.ok count :: replies) =
      (play ((t.next rest count).map stage) replies).cons t.stage.call count := by
  have hnext : (if t.stage.isOver count then rest.map stage else t.stage :: rest.map stage) =
      (t.next rest count).map stage := by
    unfold next
    split <;> rfl
  rw [List.map_cons, play, hnext]

theorem progress_play {ε : Type} (t : Task) (rest : List Task) (count : Int64)
    (replies : List (Reply ε)) :
    (play ((t :: rest).map stage) (.ok count :: replies)).progress =
      (play ((t.next rest count).map stage) replies).progress := by
  rw [play_ok]
  rfl

end Task

/-! ## Sessions -/

/-- `Session lower tasks s replies s'`: tasks that begin with the store `s`
    may get the replies, and have led to `s'` then. -/
inductive Session (lower : String → String) {ε : Type} :
    List Task → Store → List (Reply ε) → Store → Prop where
  | pause (tasks : List Task) (s : Store) : Session lower tasks s [] s
  | answered {t : Task} {rest : List Task} {s s₁ s' : Store} {count : Int64}
      {replies : List (Reply ε)} (first : t.Answers lower s count s₁)
      (later : Session lower (t.next rest count) s₁ replies s') :
      Session lower (t :: rest) s (.ok count :: replies) s'
  | failed {t : Task} {rest : List Task} {s s' : Store} (e : ε)
      (last : s' = s ∨ ∃ count, t.Answers lower s count s') :
      Session lower (t :: rest) s [.error e] s'

namespace Session

variable {lower : String → String} {ε : Type} {tasks : List Task} {s s' : Store}
  {replies : List (Reply ε)}

/-- What every call keeps holds at the end. -/
theorem invariant {I : Store → Prop} (hs : Session lower tasks s replies s')
    (step : ∀ t ∈ tasks, ∀ s count s', t.Answers lower s count s' → I s → I s') (h : I s) :
    I s' := by
  induction hs with
  | pause tasks s => exact h
  | @answered t rest s s₁ s' count replies first later ih =>
    apply ih
    · intro u hu
      exact step u (t.next_subset rest count hu)
    · exact step t List.mem_cons_self s count s₁ first h
  | @failed t rest s s' e last =>
    rcases last with rfl | ⟨count, hlast⟩
    · exact h
    · exact step t List.mem_cons_self s count s' hlast h

/-- What holds once a task is over, and is kept by every call, holds of all
    tasks when the run has come to its end. -/
theorem settled (Clear : Task → Store → Prop) (hs : Session lower tasks s replies s')
    (hfin : (play (tasks.map Task.stage) replies).progress = .finished)
    (hover : ∀ t ∈ tasks, ∀ s count s', t.Answers lower s count s' →
      t.stage.isOver count = true → Clear t s')
    (hkeep : ∀ t ∈ tasks, ∀ u ∈ tasks, ∀ s count s', u.Answers lower s count s' →
      Clear t s → Clear t s') :
    ∀ t ∈ tasks, Clear t s' := by
  induction hs with
  | pause tasks s =>
    cases tasks with
    | nil => simp
    | cons t rest => simp [play] at hfin
  | @answered t rest s s₁ s' count replies first later ih =>
    have hsub := t.next_subset rest count
    have hfin' : (play ((t.next rest count).map Task.stage) replies).progress = .finished := by
      rw [← hfin, t.progress_play]
    have hlater := ih hfin' (fun u hu => hover u (hsub hu))
      (fun u hu v hv => hkeep u (hsub hu) v (hsub hv))
    by_cases ho : t.stage.isOver count = true
    · -- the task is over now, and the rest of the session keeps what it has reached
      have hnow := hover t List.mem_cons_self s count s₁ first ho
      have hend : Clear t s' :=
        later.invariant (fun u hu => hkeep t List.mem_cons_self u (hsub hu)) hnow
      intro u hu
      rcases List.mem_cons.1 hu with rfl | hu
      · exact hend
      · refine hlater u ?_
        rw [Task.next, if_pos ho]
        exact hu
    · intro u hu
      refine hlater u ?_
      rw [Task.next, if_neg ho]
      exact hu
  | @failed t rest s s' e last => simp [play] at hfin

/-- Without tasks nothing happens. -/
theorem eq_of_nil (hs : Session lower [] s replies s') : s' = s := by
  cases hs with
  | pause => rfl

/-- A run that has come to its end has carried out its first task, if that is
    sent once, and then the others. -/
theorem first_of_finished {t : Task} {rest : List Task} (honce : t.stage.window = none)
    (hs : Session lower (t :: rest) s replies s')
    (hfin : (play ((t :: rest).map Task.stage) replies).progress = .finished) :
    ∃ count s₁, t.Answers lower s count s₁ ∧ ∃ replies' : List (Reply ε),
      Session lower rest s₁ replies' s' ∧
        (play (rest.map Task.stage) replies').progress = .finished := by
  cases hs with
  | pause => simp [play] at hfin
  | failed e last => simp [play] at hfin
  | @answered _ _ _ s₁ _ count replies' first later =>
    rw [t.progress_play] at hfin
    rw [Task.next_of_once honce] at later hfin
    exact ⟨count, s₁, first, replies', later, hfin⟩

/-- A task that is sent once can be carried out before others. -/
theorem cons_finished {t : Task} {rest : List Task} {s₁ : Store} {count : Int64}
    (honce : t.stage.window = none) (first : t.Answers lower s count s₁)
    (later : Session lower rest s₁ replies s')
    (hfin : (play (rest.map Task.stage) replies).progress = .finished) :
    Session lower (t :: rest) s (.ok count :: replies) s' ∧
      (play ((t :: rest).map Task.stage) (.ok count :: replies)).progress = .finished := by
  have hnext := Task.next_of_once honce rest count
  refine ⟨.answered first (hnext.symm ▸ later), ?_⟩
  rw [t.progress_play, hnext]
  exact hfin

/-- A session is not longer than its tasks and some measure of the store, if
    every reply that does not end its task lowers the measure. -/
theorem length_le (measure : Store → Nat) (hs : Session lower tasks s replies s')
    (hover : ∀ t ∈ tasks, ∀ s count s', t.Answers lower s count s' → measure s' ≤ measure s)
    (hagain : ∀ t ∈ tasks, ∀ s count s', t.Answers lower s count s' →
      t.stage.isOver count = false → measure s' < measure s) :
    replies.length ≤ tasks.length + measure s := by
  induction hs with
  | pause tasks s => exact Nat.zero_le _
  | @answered t rest s s₁ s' count replies first later ih =>
    have hsub := t.next_subset rest count
    have hlater := ih (fun u hu => hover u (hsub hu)) (fun u hu => hagain u (hsub hu))
    rw [List.length_cons, List.length_cons]
    unfold Task.next at hlater
    by_cases ho : t.stage.isOver count = true
    · rw [if_pos ho] at hlater
      have hle := hover t List.mem_cons_self s count s₁ first
      omega
    · rw [if_neg ho, List.length_cons] at hlater
      have hlt := hagain t List.mem_cons_self s count s₁ first (Bool.eq_false_iff.2 ho)
      omega
  | @failed t rest s s' e last =>
    rw [List.length_cons, List.length_nil, List.length_cons]
    omega

end Session

/-! ## Databases -/

/-- What a database makes of the store and replies, given how many calls it
    has had, the store and the task. -/
abbrev Database := Nat → Store → Task → Store × Int64

namespace Database

/-- A database does what the statements of some tasks say, in every part of a
    graph.  What they leave open it may choose as it likes. -/
def Faithful (db : Database) (lower : String → String) (tasks : List Task) (g : Graph) : Prop :=
  ∀ i s, ∀ t ∈ tasks, s.graph.Within g → t.Answers lower s (db i s t).2 (db i s t).1

/-- The counts of at most `n` calls after the `i`-th, and the store then. -/
def follow (db : Database) : (n i : Nat) → List Task → Store → List Int64 × Store
  | 0, _, _, s => ([], s)
  | _ + 1, _, [], s => ([], s)
  | n + 1, i, t :: rest, s =>
    let (s₁, count) := db i s t
    let (counts, s') := db.follow n (i + 1) (t.next rest count) s₁
    (count :: counts, s')

variable {db : Database} {lower : String → String} {ε : Type}

/-- What a faithful database does is a session. -/
theorem follow_session {tasks : List Task} {g : Graph} (hdb : db.Faithful lower tasks g)
    (hwithin : ∀ t ∈ tasks, ∀ s count s', t.Answers lower s count s' → s'.graph.Within s.graph)
    (n i : Nat) {s : Store} (hs : s.graph.Within g) :
    Session (ε := ε) lower tasks s ((db.follow n i tasks s).1.map .ok)
      (db.follow n i tasks s).2 := by
  induction n generalizing i tasks s with
  | zero => exact .pause tasks s
  | succ n ih =>
    cases tasks with
    | nil => exact .pause [] s
    | cons t rest =>
      have first := hdb i s t List.mem_cons_self hs
      have hs₁ := (hwithin t List.mem_cons_self _ _ _ first).trans hs
      have hsub := t.next_subset rest (db i s t).2
      exact .answered first (ih (fun j s u hu => hdb j s u (hsub hu))
        (fun u hu => hwithin u (hsub hu)) (i + 1) hs₁)

/-- Either all calls were made, or the tasks came to their end before. -/
theorem follow_length_or_finished (db : Database) (n i : Nat) (tasks : List Task) (s : Store) :
    (db.follow n i tasks s).1.length = n ∨
      (play (tasks.map Task.stage)
        ((db.follow n i tasks s).1.map Except.ok : List (Reply ε))).progress = .finished := by
  induction n generalizing i tasks s with
  | zero => exact .inl rfl
  | succ n ih =>
    cases tasks with
    | nil => exact .inr rfl
    | cons t rest =>
      rcases ih (i + 1) (t.next rest (db i s t).2) (db i s t).1 with hlen | hfin
      · left
        simp only [follow, List.length_cons, hlen]
      · right
        simp only [follow, List.map_cons (f := Except.ok)]
        rw [t.progress_play]
        exact hfin

end Database

end GraphSync
