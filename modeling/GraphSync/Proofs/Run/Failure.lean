import GraphSync.Proofs.Run.Refusal

/-! # Failing calls

    A run that a database fails is compared with the run that it would have
    been.  The call that fails is the last that is made, and its error is what
    the caller gets; nothing is sent again, and nothing is sent after it.

    * `Transcript.cutAt` is the one thing that a failure does to a run, for any
      stages (`play_failing`).
    * `failure_ends_the_run` is about all that a caller can ask for: indexes,
      loads and cleanups. -/

namespace GraphSync

variable {ε σ : Type}

/-! ## Runs that are cut off -/

/-- What is left of a run when its call number `k` fails, counted from 0.  A
    run of no more than `k` calls is left as it is. -/
def Transcript.cutAt (k : Nat) (e : ε) (t : Transcript ε) : Transcript ε :=
  if k < t.calls.length then
    { calls := t.calls.take (k + 1), counts := t.counts.take k, progress := .failed e }
  else t

theorem Transcript.cutAt_of_lt {k : Nat} {t : Transcript ε} (h : k < t.calls.length) (e : ε) :
    t.cutAt k e =
      { calls := t.calls.take (k + 1), counts := t.counts.take k, progress := .failed e } :=
  if_pos h

theorem Transcript.cutAt_of_le {k : Nat} {t : Transcript ε} (h : t.calls.length ≤ k) (e : ε) :
    t.cutAt k e = t :=
  if_neg (Nat.not_lt.2 h)

theorem Transcript.cutAt_zero_cons (e : ε) (call : Call) (count : Int64) (t : Transcript ε) :
    (t.cons call count).cutAt 0 e = { calls := [call], counts := [], progress := .failed e } :=
  cutAt_of_lt (Nat.succ_pos _) e

theorem Transcript.cutAt_cons (k : Nat) (e : ε) (call : Call) (count : Int64) (t : Transcript ε) :
    (t.cons call count).cutAt (k + 1) e = (t.cutAt k e).cons call count := by
  rcases Nat.lt_or_ge k t.calls.length with hk | hk
  · have hcons : k + 1 < (t.cons call count).calls.length := Nat.succ_lt_succ hk
    rw [cutAt_of_lt hcons, cutAt_of_lt hk]
    rfl
  · have hcons : (t.cons call count).calls.length ≤ k + 1 := Nat.succ_le_succ hk
    rw [cutAt_of_le hcons, cutAt_of_le hk]

/-- A failure cuts the run off, whatever would have been replied later. -/
theorem play_failing (stages : List Stage) {counts : List Int64} {k : Nat}
    (hk : k < counts.length) (e : ε) (later : List (Reply ε)) :
    play stages ((counts.take k).map .ok ++ .error e :: later) =
      (play stages (counts.map .ok)).cutAt k e := by
  -- both runs take the same replies up to the failure
  induction counts generalizing stages k with
  | nil => cases hk
  | cons count counts ih =>
    cases stages with
    | nil =>
      rw [play, play]
      rfl
    | cons stage rest =>
      cases k with
      | zero =>
        rw [List.take_zero, List.map_nil, List.nil_append, play, List.map_cons, play,
          Transcript.cutAt_zero_cons]
      | succ k =>
        rw [List.take_succ_cons, List.map_cons, List.cons_append, play, List.map_cons, play,
          ih _ (Nat.lt_of_succ_lt_succ hk), Transcript.cutAt_cons]

/-- A run that still waits has made a call for each reply. -/
theorem length_calls_of_waiting {stages : List Stage} {counts : List Int64} {next : Call}
    (h : (play stages (counts.map .ok : List (Reply ε))).progress = .waiting next) :
    (play stages (counts.map .ok : List (Reply ε))).calls.length = counts.length := by
  induction counts generalizing stages with
  | nil =>
    cases stages with
    | nil =>
      rw [play] at h
      cases h
    | cons stage rest => rfl
  | cons count counts ih =>
    cases stages with
    | nil =>
      rw [play] at h
      cases h
    | cons stage rest =>
      rw [List.map_cons, play] at h ⊢
      exact congrArg (· + 1) (ih h)

/-! ## Operations -/

/-- `StopsAtFailure run`: a run ends with the call that fails, if it gets so
    far.  `run` says what comes of the replies of a database. -/
structure StopsAtFailure (run : List (Reply ε) → Outcome ε σ) : Prop where
  /-- The calls are the first ones of the run that does not fail. -/
  stopped : ∀ (counts : List Int64) (k : Nat) (e : ε) (later : List (Reply ε)),
    k < counts.length → k < (run (counts.map .ok)).calls.length →
      run ((counts.take k).map .ok ++ .error e :: later) =
        { calls := (run (counts.map .ok)).calls.take (k + 1), ending := .failed e }
  /-- A run that is over before does not notice. -/
  spared  : ∀ (counts : List Int64) (k : Nat) (e : ε) (later : List (Reply ε)),
    k < counts.length → (run (counts.map .ok)).calls.length ≤ k →
      run ((counts.take k).map .ok ++ .error e :: later) = run (counts.map .ok) ∧
        ∀ next, (run (counts.map .ok)).ending ≠ .waiting next

theorem StopsAtFailure.of_stages (stages : List Stage) (summary : List Int64 → σ) :
    StopsAtFailure fun replies : List (Reply ε) => (play stages replies).outcome summary where
  stopped := by
    intro counts k e later hk hcalls
    rw [play_failing stages hk, Transcript.cutAt_of_lt hcalls]
    rfl
  spared := by
    intro counts k e later hk hcalls
    rw [play_failing stages hk, Transcript.cutAt_of_le hcalls]
    refine ⟨rfl, ?_⟩
    intro next hending
    -- a run that waits has used up its replies, and there are more than `k`
    have hwaiting := (Transcript.ending_eq_waiting_iff summary).1 hending
    have hlen : (play stages (counts.map .ok : List (Reply ε))).calls.length ≤ k := hcalls
    rw [length_calls_of_waiting hwaiting] at hlen
    omega

/-- What is refused beforehand makes no calls that could fail. -/
theorem StopsAtFailure.of_checked {α : Type} (checked : Except RunError α)
    {proceed : α → List (Reply ε) → Outcome ε σ} (h : ∀ a, StopsAtFailure (proceed a)) :
    StopsAtFailure fun replies => Outcome.ofChecked checked fun a => proceed a replies := by
  cases checked with
  | ok a => exact h a
  | error refusal =>
    constructor
    · intro counts k e later hk hcalls
      cases hcalls
    · intro counts k e later hk hcalls
      refine ⟨rfl, ?_⟩
      intro next hending
      cases hending

/-- To make sure of the indexes of a schema, with the replies of a database. -/
def Schema.indexing (schema : Schema) (replies : List (Reply ε)) : Outcome ε Unit :=
  (play (indexStages schema.indexes) replies).outcome fun _ => ()

/-- Whichever call to the database fails, of whatever a caller asks for: it is
    the last call, the calls are otherwise those of a run that does not fail,
    and the caller gets the error of the database. -/
theorem failure_ends_the_run :
    (∀ schema : Schema, StopsAtFailure (schema.indexing (ε := ε))) ∧
    (∀ (schema : Schema) (rows : List Row) (p : Parameters) (o : SyncOptions),
      StopsAtFailure (schema.loading (ε := ε) rows p o)) ∧
    (∀ (s : NodeSchema) (p : Parameters) (o : SyncOptions),
      StopsAtFailure (s.cleaning (ε := ε) p o)) ∧
    ∀ (m : Matchlink) (scopeLabel : String) (scopeId : Json) (tag : Int64) (o : SyncOptions),
      StopsAtFailure (m.cleaning (ε := ε) scopeLabel scopeId tag o) := by
  refine ⟨?_, ?_, ?_, ?_⟩
  · intro schema
    exact .of_stages _ _
  · intro schema rows p o
    exact .of_checked _ fun load => .of_stages _ _
  · intro s p o
    exact .of_checked _ fun job => .of_stages _ _
  · intro m scopeLabel scopeId tag o
    exact .of_stages _ _

/-- The second index of the hosts fails, and the other two are not asked
    for. -/
example : ∃ calls, calls.length = 2 ∧
    (Schema.node Sample.hosts).indexing [.ok 0, .error "disk full", .ok 0, .ok 0] =
      { calls, ending := .failed "disk full" } :=
  ⟨_, rfl, rfl⟩

end GraphSync
