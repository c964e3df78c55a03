import GraphSync.Proofs.Run.Refusal
import Mathlib.Algebra.GroupWithZero.Nat

/-! # Windows of a cleanup

    A cleanup sends each query of its job until a result comes back that is
    below a window, and then goes on to the next.  The results decide how often
    it sends which query, and this is said without the loop: the results that
    have come in are dealt out to the queries in turn (`Dealt`).

    * There is a way to deal them out (`exists_dealt`), and the first result
      leaves no choice (`Dealt.cons_of_full`, `Dealt.cons_of_short`).
    * Each result is the answer to one call (`play_dealt`).
    * `windows_repeat_until_short` is the main result, for any sequence of
      results, negative ones and ones above the window included. -/

namespace GraphSync

open Cypher

/-! ## Dealing out results -/

/-- The last of the results of a query is below a window. -/
def EndsShort (w : Nat) (part : List Int64) : Prop := ∃ last ∈ part.getLast?, last.toInt < w

/-- `Dealt w m results parts`: the results that have come in, dealt out to `m`
    queries in turn. -/
@[mk_iff]
structure Dealt (w m : Nat) (results : List Int64) (parts : List (List Int64)) : Prop where
  /-- Every query has a part, which is empty as long as it has got nothing. -/
  length : parts.length = m
  /-- The queries get the results as they come. -/
  taken  : parts.flatten <+: results
  /-- Only the last result of a query may be below a window. -/
  full   : ∀ part ∈ parts, ∀ n ∈ part.dropLast, (w : Int) ≤ n.toInt
  /-- A query gets nothing before those ahead of it have ended. -/
  turn   : parts.Pairwise fun earlier later => later ≠ [] → EndsShort w earlier
  /-- Results are left over only when all queries have ended. -/
  rest   : parts.flatten = results ∨ ∀ part ∈ parts, EndsShort w part

variable {w m : Nat} {n : Int64} {part results : List Int64} {parts : List (List Int64)}

@[simp]
theorem not_endsShort_nil : ¬ EndsShort w [] := by
  rintro ⟨last, hlast, -⟩
  cases hlast

theorem endsShort_singleton : EndsShort w [n] ↔ n.toInt < w := by
  simp [EndsShort]

/-- A full window does not end a query. -/
theorem endsShort_cons_of_full (hfull : (w : Int) ≤ n.toInt) :
    EndsShort w (n :: part) ↔ EndsShort w part := by
  cases part with
  | nil => simp [endsShort_singleton, hfull]
  | cons next rest => rw [EndsShort, List.getLast?_cons_cons, ← EndsShort]

namespace Dealt

theorem empty_iff : Dealt w m [] parts ↔ parts = List.replicate m [] := by
  constructor
  · intro h
    have hnone : ∀ part ∈ parts, part = [] := List.flatten_eq_nil_iff.1 (List.prefix_nil.1 h.taken)
    exact List.eq_replicate_iff.2 ⟨h.length, hnone⟩
  · rintro rfl
    have hnone : ∀ part ∈ List.replicate m ([] : List Int64), part = [] := fun part hpart =>
      List.eq_of_mem_replicate hpart
    refine ⟨List.length_replicate, by simp, ?_, ?_, by simp⟩
    · intro part hpart n hn
      rw [hnone part hpart] at hn
      cases hn
    · exact List.pairwise_replicate.2 (.inr fun h => absurd rfl h)

/-- The first result goes to the first query. -/
theorem exists_cons (h : Dealt w (m + 1) (n :: results) parts) :
    ∃ part later, parts = (n :: part) :: later := by
  cases parts with
  | nil => cases h.length
  | cons part later =>
    cases part with
    | cons first part =>
      obtain ⟨rfl, -⟩ := List.cons_prefix_cons.1 h.taken
      exact ⟨part, later, rfl⟩
    | nil =>
      -- then no query would have got it
      have hlater : ∀ other ∈ later, other = [] := by
        intro other hother
        by_contra hne
        exact not_endsShort_nil ((List.pairwise_cons.1 h.turn).1 other hother hne)
      rcases h.rest with hall | hends
      · rw [List.flatten_cons, List.flatten_eq_nil_iff.2 hlater] at hall
        cases hall
      · exact absurd (hends [] List.mem_cons_self) not_endsShort_nil

/-- A result that is no less than the window leaves its query where it was. -/
theorem cons_of_full (hfull : (w : Int) ≤ n.toInt) :
    Dealt w m (n :: results) ((n :: part) :: parts) ↔ Dealt w m results (part :: parts) := by
  have hrest : (∀ x ∈ (n :: part).dropLast, (w : Int) ≤ x.toInt) ↔
      ∀ x ∈ part.dropLast, (w : Int) ≤ x.toInt := by
    cases part with
    | nil => simp
    | cons next rest => simp [hfull]
  simp only [dealt_iff, List.length_cons, List.flatten_cons, List.cons_append,
    List.cons_prefix_cons, List.forall_mem_cons, List.pairwise_cons, List.cons.injEq, true_and,
    endsShort_cons_of_full hfull, hrest]

/-- A result below the window ends its query. -/
theorem cons_of_short (hshort : n.toInt < w) :
    Dealt w (m + 1) (n :: results) ([n] :: parts) ↔ Dealt w m results parts := by
  have hends : EndsShort w [n] := endsShort_singleton.2 hshort
  simp only [dealt_iff, List.length_cons, Nat.add_right_cancel_iff, List.flatten_cons,
    List.singleton_append, List.cons_prefix_cons, List.forall_mem_cons, List.pairwise_cons,
    List.cons.injEq, true_and, hends, implies_true, List.dropLast_singleton, List.not_mem_nil,
    false_implies]

/-- A result below the window is the last of its query. -/
theorem eq_of_short (hshort : n.toInt < w)
    (h : Dealt w m (n :: results) ((n :: part) :: parts)) : part = [] := by
  by_contra hne
  have hmem : n ∈ (n :: part).dropLast := by
    rw [List.dropLast_cons_of_ne_nil hne]
    exact List.mem_cons_self
  have hle := h.full _ List.mem_cons_self n hmem
  omega

/-- When the last query has ended, all have. -/
theorem ends_of_last (h : Dealt w (m + 1) results parts) (hlast : parts[m]? = some part)
    (hends : EndsShort w part) : ∀ other ∈ parts, EndsShort w other := by
  intro other hother
  obtain ⟨hm, rfl⟩ := List.getElem?_eq_some_iff.1 hlast
  obtain ⟨i, hi, rfl⟩ := List.mem_iff_getElem.1 hother
  have hlen := h.length
  rcases Nat.lt_or_eq_of_le (show i ≤ m by omega) with hlt | rfl
  · refine List.pairwise_iff_getElem.1 h.turn i m hi hm hlt ?_
    intro hnil
    rw [hnil] at hends
    exact not_endsShort_nil hends
  · exact hends

end Dealt

/-- Any results can be dealt out. -/
theorem exists_dealt (w m : Nat) (results : List Int64) : ∃ parts, Dealt w m results parts := by
  induction results generalizing m with
  | nil => exact ⟨_, Dealt.empty_iff.2 rfl⟩
  | cons n results ih =>
    cases m with
    | zero => exact ⟨[], rfl, List.nil_prefix, by simp, List.Pairwise.nil, .inr (by simp)⟩
    | succ m =>
      by_cases hshort : n.toInt < w
      · obtain ⟨later, hlater⟩ := ih m
        exact ⟨_, (Dealt.cons_of_short hshort).2 hlater⟩
      · obtain ⟨parts, hparts⟩ := ih (m + 1)
        cases parts with
        | nil => cases hparts.length
        | cons part later =>
          exact ⟨_, (Dealt.cons_of_full (by omega)).2 hparts⟩

/-! ## Windows of a job -/

theorem SyncOptions.window_eq_max (o : SyncOptions) : o.window = max 1 o.cleanupWindow := by
  have hmax : max 1 o.cleanupWindow = if 1 ≤ o.cleanupWindow then o.cleanupWindow else 1 := rfl
  rw [hmax, ← UInt64.toNat_inj, o.window_toNat]
  by_cases hle : 1 ≤ o.cleanupWindow
  · rw [if_pos hle]
    exact max_eq_right (UInt64.le_iff_toNat_le.1 hle)
  · rw [if_neg hle]
    exact max_eq_left (Nat.le_of_not_le fun h => hle (UInt64.le_iff_toNat_le.2 h))

/-- The call that asks a query of a job for one window: the parameters of the
    job, and the window in place of a limit that is among them. -/
def CleanupJob.ask (job : CleanupJob) (o : SyncOptions) (q : Query) : Call :=
  .fetchCount
    { text := q.text, params := job.params.insert limitParam (.ofUInt64 (max 1 o.cleanupWindow)) }
    deletedColumn

theorem CleanupJob.call_stage (job : CleanupJob) (o : SyncOptions) (q : Query) :
    (stage job.params o.window q).call = job.ask o q := by
  rw [ask, ← o.window_eq_max]
  rfl

/-- `t.Asks w call queries parts`: the transcript of a run that has called each
    query once for each result that it has got. -/
structure Transcript.Asks {ε : Type} (w : Nat) (call : Query → Call) (queries : List Query)
    (parts : List (List Int64)) (t : Transcript ε) : Prop where
  calls    : t.calls =
    (queries.zip parts).flatMap fun (q, part) => List.replicate part.length (call q)
  counts   : t.counts = parts.flatten
  finished : (∀ part ∈ parts, EndsShort w part) → t.progress = .finished
  waiting  : (∃ part ∈ parts, ¬ EndsShort w part) → ∃ next, t.progress = .waiting next

/-- There is a part for each query, so every result has its call. -/
theorem Transcript.Asks.length_calls {ε : Type} {call : Query → Call} {queries : List Query}
    {t : Transcript ε} (h : t.Asks w call queries parts) (hlen : parts.length = queries.length) :
    t.calls.length = parts.flatten.length := by
  have hparts : ((queries.zip parts).map fun pair => pair.2.length) = parts.map List.length := by
    have hsnd := congrArg (List.map List.length) (List.map_snd_zip (Nat.le_of_eq hlen))
    rwa [List.map_map] at hsnd
  rw [h.calls, List.length_flatMap]
  simp only [List.length_replicate]
  rw [hparts, List.length_flatten]

/-- A job calls its queries as the results are dealt out. -/
theorem CleanupJob.play_dealt {ε : Type} (p : Parameters) (window : UInt64) {queries : List Query}
    (h : Dealt window.toNat queries.length results parts) :
    (play (queries.map (stage p window)) (results.map .ok : List (Reply ε))).Asks window.toNat
      (fun q => (stage p window q).call) queries parts := by
  -- each result is the answer to one call, so the induction is on the results
  induction results generalizing queries parts with
  | nil =>
    rw [Dealt.empty_iff] at h
    subst h
    cases queries with
    | nil =>
      rw [List.map_nil, play]
      exact ⟨rfl, rfl, fun _ => rfl, by simp⟩
    | cons q rest =>
      rw [List.map_nil, List.map_cons, play]
      refine ⟨?_, by simp, ?_, fun _ => ⟨_, rfl⟩⟩
      · refine (List.flatMap_eq_nil_iff.2 ?_).symm
        rintro ⟨q, part⟩ hpair
        rw [List.eq_of_mem_replicate (List.of_mem_zip hpair).2]
        rfl
      · intro hends
        exact absurd (hends [] List.mem_cons_self) not_endsShort_nil
  | cons n results ih =>
    cases queries with
    | nil =>
      obtain rfl := List.length_eq_zero_iff.1 h.length
      rw [List.map_nil, play]
      exact ⟨rfl, rfl, fun _ => rfl, by simp⟩
    | cons q rest =>
      obtain ⟨part, later, rfl⟩ := h.exists_cons
      rw [List.map_cons, List.map_cons, play]
      by_cases hshort : n.toInt < window.toNat
      · -- the query has ended, and the rest goes on
        obtain rfl := h.eq_of_short hshort
        have hlater := ih ((Dealt.cons_of_short hshort).1 h)
        have hover : (stage p window q).isOver n = true := by simpa [Stage.isOver, stage]
        rw [if_pos hover]
        refine ⟨?_, ?_, ?_, ?_⟩
        · rw [Transcript.cons, hlater.calls]
          rfl
        · rw [Transcript.cons, hlater.counts]
          rfl
        · intro hends
          exact hlater.finished (List.forall_mem_cons.1 hends).2
        · rintro ⟨part, hpart, hopen⟩
          rcases List.mem_cons.1 hpart with rfl | hpart
          · exact absurd (endsShort_singleton.2 hshort) hopen
          · exact hlater.waiting ⟨part, hpart, hopen⟩
      · -- the same query is called again
        have hfull : (window.toNat : Int) ≤ n.toInt := by omega
        have hagain := ih ((Dealt.cons_of_full hfull).1 h)
        have hover : ¬ (stage p window q).isOver n = true := by simpa [Stage.isOver, stage]
        rw [if_neg hover, ← List.map_cons]
        refine ⟨?_, ?_, ?_, ?_⟩
        · rw [Transcript.cons, hagain.calls]
          simp [List.replicate_succ]
        · rw [Transcript.cons, hagain.counts]
          rfl
        · intro hends
          obtain ⟨hpart, hrest⟩ := List.forall_mem_cons.1 hends
          exact hagain.finished
            (List.forall_mem_cons.2 ⟨(endsShort_cons_of_full hfull).1 hpart, hrest⟩)
        · rintro ⟨other, hother, hopen⟩
          rcases List.mem_cons.1 hother with rfl | hother
          · exact hagain.waiting ⟨part, List.mem_cons_self,
              fun hends => hopen ((endsShort_cons_of_full hfull).2 hends)⟩
          · exact hagain.waiting ⟨other, List.mem_cons_of_mem _ hother, hopen⟩

/-! ## Summaries -/

/-- The number of elements that some results report.  A negative result reports
    none. -/
def deletedIn (results : List Int64) : Nat := (results.map fun n => n.toInt.toNat).sum

/-- The sum of a summary is kept in a word. -/
theorem CleanupJob.toNat_deleted (job : CleanupJob) (results : List Int64) :
    (job.summary results).deleted.toNat = deletedIn results % 2 ^ 64 := by
  have hfold (acc : UInt64) :
      (results.foldl (fun sum n => sum + UInt64.ofNat n.toInt.toNat) acc).toNat =
        (acc.toNat + deletedIn results) % 2 ^ 64 := by
    induction results generalizing acc with
    | nil => exact (Nat.mod_eq_of_lt acc.toNat_lt).symm
    | cons n rest ih =>
      have hcons : deletedIn (n :: rest) = n.toInt.toNat + deletedIn rest := rfl
      rw [List.foldl_cons, ih, UInt64.toNat_add, UInt64.toNat_ofNat', hcons]
      omega
  have hzero := hfold 0
  rw [UInt64.toNat_zero, Nat.zero_add] at hzero
  exact hzero

/-- `job.Answered o parts x`: what a job has come to when its queries have got
    these results.  It has called each query once for each of them, and it
    returns once all queries have ended. -/
structure CleanupJob.Answered {ε : Type} (job : CleanupJob) (o : SyncOptions)
    (parts : List (List Int64)) (x : Outcome ε CleanupSummary) : Prop where
  calls    : x.calls =
    (job.queries.zip parts).flatMap fun (q, part) => List.replicate part.length (job.ask o q)
  returned : (∀ part ∈ parts, EndsShort (max 1 o.cleanupWindow.toNat) part) →
    ∃ summary, x.ending = .returned summary ∧
      summary.statements = job.queries.length ∧ summary.windows = x.calls.length ∧
      (deletedIn parts.flatten < 2 ^ 64 → summary.deleted.toNat = deletedIn parts.flatten)
  waiting  : (∃ part ∈ parts, ¬ EndsShort (max 1 o.cleanupWindow.toNat) part) →
    ∃ next, x.ending = .waiting next

theorem CleanupJob.running_dealt {ε : Type} (job : CleanupJob) (o : SyncOptions)
    (h : Dealt (max 1 o.cleanupWindow.toNat) job.queries.length results parts) :
    job.Answered o parts (job.running o (results.map .ok : List (Reply ε))) := by
  rw [← o.window_toNat] at h
  have hplay := play_dealt (ε := ε) job.params o.window h
  have hcalls := hplay.calls
  simp only [job.call_stage] at hcalls
  refine ⟨hcalls, ?_, ?_⟩
  · intro hends
    rw [← o.window_toNat] at hends
    have hending := Transcript.ending_of_finished job.summary (hplay.finished hends)
    rw [hplay.counts] at hending
    refine ⟨job.summary parts.flatten, hending, rfl, ?_, ?_⟩
    · exact (hplay.length_calls h.length).symm
    · intro hfits
      rw [job.toNat_deleted, Nat.mod_eq_of_lt hfits]
  · intro hopen
    rw [← o.window_toNat] at hopen
    obtain ⟨next, hnext⟩ := hplay.waiting hopen
    exact ⟨next, (Transcript.ending_eq_waiting_iff job.summary).2 hnext⟩

/-- The results of a database decide what a job does.  However they are dealt
    out to its queries, and there is a way, each query has been called once for
    each of its results: again after one that fills a window, and never after
    one that does not.  The job returns just when every query gets to a result
    below the window. -/
theorem windows_repeat_until_short {ε : Type} (job : CleanupJob) (o : SyncOptions)
    (results : Nat → Int64) :
    let w := max 1 o.cleanupWindow.toNat
    let first (n : Nat) := (List.range n).map results
    let run (n : Nat) : Outcome ε CleanupSummary := job.running o ((first n).map .ok)
    (∀ n, ∃ parts, Dealt w job.queries.length (first n) parts) ∧
    (∀ n parts, Dealt w job.queries.length (first n) parts → job.Answered o parts (run n)) ∧
    ((∃ n summary, (run n).ending = .returned summary) ↔
      ∀ i < job.queries.length, ∃ n parts part,
        Dealt w job.queries.length (first n) parts ∧ parts[i]? = some part ∧ EndsShort w part) := by
  intro w first run
  have hdealt (n : Nat) : ∃ parts, Dealt w job.queries.length (first n) parts :=
    exists_dealt w job.queries.length (first n)
  have hanswered (n : Nat) (parts : List (List Int64))
      (h : Dealt w job.queries.length (first n) parts) : job.Answered o parts (run n) :=
    job.running_dealt o h
  refine ⟨hdealt, hanswered, ?_, ?_⟩
  · rintro ⟨n, summary, hreturned⟩ i hi
    obtain ⟨parts, hparts⟩ := hdealt n
    have hpart := List.getElem?_eq_getElem (l := parts) (hparts.length ▸ hi)
    refine ⟨n, parts, _, hparts, hpart, ?_⟩
    by_contra hopen
    obtain ⟨next, hwaiting⟩ := (hanswered n parts hparts).waiting
      ⟨_, List.mem_of_getElem? hpart, hopen⟩
    rw [hreturned] at hwaiting
    cases hwaiting
  · intro hends
    have hall : ∃ n parts, Dealt w job.queries.length (first n) parts ∧
        ∀ part ∈ parts, EndsShort w part := by
      cases hcount : job.queries.length with
      | zero =>
        obtain ⟨parts, hparts⟩ := hdealt 0
        rw [hcount] at hparts
        obtain rfl := List.length_eq_zero_iff.1 hparts.length
        exact ⟨0, [], hparts, fun _ hpart => absurd hpart List.not_mem_nil⟩
      | succ last =>
        obtain ⟨n, parts, part, hparts, hpart, hlast⟩ := hends last (by omega)
        rw [hcount] at hparts
        exact ⟨n, parts, hparts, hparts.ends_of_last hpart hlast⟩
    obtain ⟨n, parts, hparts, hall⟩ := hall
    obtain ⟨summary, hreturned, -⟩ := (hanswered n parts hparts).returned hall
    exact ⟨n, summary, hreturned⟩

/-- Six results for the three queries of the sample, one of them negative and
    one above the window. -/
theorem sample_windows_are_answered :
    let results (i : Nat) : Int64 := [12, 10, -1, 0, 10, 3].getD i 0
    let parts : List (List Int64) := [[12, 10, -1], [0], [10, 3]]
    Dealt 10 3 ((List.range 6).map results) parts ∧
    ∃ summary, (Sample.job.running { cleanupWindow := 10 }
        (((List.range 6).map results).map .ok : List (Reply String))).ending = .returned summary ∧
      summary.statements = 3 ∧ summary.windows = 6 ∧ summary.deleted.toNat = 35 := by
  intro results parts
  have hdealt : Dealt 10 3 ((List.range 6).map results) parts :=
    (Dealt.cons_of_full (by decide)).2 <| (Dealt.cons_of_full (by decide)).2 <|
      (Dealt.cons_of_short (by decide)).2 <| (Dealt.cons_of_short (by decide)).2 <|
        (Dealt.cons_of_full (by decide)).2 <| (Dealt.cons_of_short (by decide)).2 <|
          Dealt.empty_iff.2 rfl
  have hlast : EndsShort 10 [10, 3] :=
    (endsShort_cons_of_full (by decide)).2 (endsShort_singleton.2 (by decide))
  have hends := hdealt.ends_of_last rfl hlast
  obtain ⟨-, hanswered, -⟩ :=
    windows_repeat_until_short (ε := String) Sample.job { cleanupWindow := 10 } results
  have hparts := hanswered 6 parts hdealt
  obtain ⟨summary, hreturned, hstatements, hwindows, hdeleted⟩ := hparts.returned hends
  refine ⟨hdealt, summary, hreturned, hstatements, ?_, hdeleted (by decide)⟩
  rw [hwindows, hparts.calls]
  rfl

end GraphSync
