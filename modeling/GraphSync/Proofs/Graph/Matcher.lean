import GraphSync.Proofs.Graph.Endpoint
import Mathlib.Data.List.Infix

/-! # What a matcher finds

    A matcher is compiled into a node pattern, which takes its exact fields,
    and a list of conditions, which takes all others.

    * `MatchMode.Meets` says without comparisons of three outcomes what a
      field asks of the value of a node.
    * `Endpoint.accepts_iff_meets`: pattern and conditions together ask what
      the fields ask, under any variable.
    * `Plan.parts_of_entry`: a field is in one of the two, and once.
    * `Endpoint.found_of_perm`: the order of the fields does not matter. -/

namespace GraphSync

open Cypher Plan

/-! ## Fields -/

/-- What a field asks of the value of a node, given the value of its reference. -/
def MatchMode.Meets (lower : String → String) (actual wanted : Json) : MatchMode → Prop
  | .exact => actual.same wanted = some true
  | .oneToMany => ∃ items, wanted = .array items ∧ ∃ item ∈ items, actual.same item = some true
  | .ignoreCase => ∃ s t, actual = .string s ∧ wanted = .string t ∧ lower s = lower t
  | .fuzzy => ∃ s t, actual = .string s ∧ wanted = .string t ∧
      (lower t).toList <:+: (lower s).toList

namespace Json

theorem either_eq_true {a b : Option Bool} :
    either a b = some true ↔ a = some true ∨ b = some true := by
  rcases a with _ | _ | _ <;> rcases b with _ | _ | _ <;> simp [either]

theorem isAmong_eq_true {v : Json} {items : List Json} :
    v.isAmong items = some true ↔ ∃ item ∈ items, v.same item = some true := by
  induction items with
  | nil => simp [isAmong]
  | cons item rest ih => rw [isAmong, either_eq_true, ih, List.exists_mem_cons_iff]

theorem isIn_eq_true {v w : Json} :
    v.isIn w = some true ↔ ∃ items, w = .array items ∧ ∃ item ∈ items, v.same item = some true := by
  cases w <;> simp [isIn, isAmong_eq_true]

theorem lowered_same_eq_true {lower : String → String} {v w : Json} :
    (v.lowered lower).same (w.lowered lower) = some true ↔
      ∃ s t, v = .string s ∧ w = .string t ∧ lower s = lower t := by
  cases v <;> cases w <;> simp [lowered, same]

theorem lowered_holdsText_eq_true {lower : String → String} {v w : Json} :
    (v.lowered lower).holdsText (w.lowered lower) = some true ↔
      ∃ s t, v = .string s ∧ w = .string t ∧ (lower t).toList <:+: (lower s).toList := by
  have htails (s t : List Char) : s.tails.any t.isPrefixOf = true ↔ t <:+: s := by
    simp only [List.any_eq_true, List.mem_tails, List.isPrefixOf_iff_prefix,
      List.infix_iff_prefix_suffix, and_comm]
  cases v <;> cases w <;> simp [lowered, holdsText, htails]

end Json

/-- The comparison of a field comes out true if and only if its value is as asked. -/
theorem MatchMode.accepts_eq_true {lower : String → String} {actual wanted : Json}
    {mode : MatchMode} : mode.accepts lower actual wanted = some true ↔
      mode.Meets lower actual wanted := by
  cases mode with
  | exact => exact Iff.rfl
  | oneToMany => exact Json.isIn_eq_true
  | ignoreCase => exact Json.lowered_same_eq_true
  | fuzzy => exact Json.lowered_holdsText_eq_true

/-- An absent property meets nothing, and no property meets null. -/
theorem MatchMode.Meets.ne_null {lower : String → String} {actual wanted : Json} {mode : MatchMode}
    (h : mode.Meets lower actual wanted) : actual ≠ .null ∧ wanted ≠ .null := by
  cases mode with
  | exact =>
    refine ⟨?_, ?_⟩
    · rintro rfl
      rw [Meets, Json.same_null_left] at h
      cases h
    · rintro rfl
      rw [Meets, Json.same_null_right] at h
      cases h
  | oneToMany =>
    obtain ⟨items, rfl, item, -, hsame⟩ := h
    refine ⟨?_, Json.noConfusion⟩
    rintro rfl
    rw [Json.same_null_left] at hsame
    cases hsame
  | ignoreCase | fuzzy =>
    obtain ⟨s, t, rfl, rfl, -⟩ := h
    exact ⟨Json.noConfusion, Json.noConfusion⟩

/-! ## Endpoints -/

/-- The node has the label of an endpoint, and its properties meet all fields
    of the matcher for a row. -/
structure Endpoint.Meets (cx : Context) (row : Json) (g : Graph) (e : Endpoint) (n : Nat) :
    Prop where
  label  : e.label ∈ g.labels n
  fields : ∀ entry ∈ e.matcher, entry.2.mode.Meets cx.lower (g.prop (.node n) entry.1)
    (entry.2.value cx.params row.member)

/-- A binding under which the references of a matcher have their values for a
    row: it binds the row, unless the matcher reads parameters only. -/
def Endpoint.ReadsRow (e : Endpoint) (b : Binding) (row : Json) : Prop :=
  (∀ entry ∈ e.matcher, entry.2.isParameter = true) ∨ b rowAlias = some (.value row)

variable {cx : Context} {g : Graph} {b b' : Binding} {row : Json} {var : String} {n : Nat}
  {e e' : Endpoint}

theorem Endpoint.ReadsRow.cell (h : e.ReadsRow b row) {entry : String × Reference}
    (hentry : entry ∈ e.matcher) :
    entry.2.expr.cell cx g b = .value (entry.2.value cx.params row.member) := by
  rw [Reference.cell_expr]
  unfold Reference.value
  rcases h with hparams | hrow
  · -- a parameter has its value under every binding
    have horigin : entry.2.origin = .parameter := by
      simpa [Reference.isParameter] using hparams entry hentry
    rw [horigin]
  · -- the fields of the row are those of what is bound
    have hfields : b.property g rowAlias = row.member := by
      funext key
      simp only [Binding.property, hrow]
    rw [hfields]

/-- The pattern and the conditions of an endpoint accept the nodes that meet
    it.  The pattern is tried under `b`, where the variable is free or bound
    to the node, and the conditions under `b'`, where it is bound. -/
theorem Endpoint.accepts_iff_meets (hadmits : b.admits (some var) (.node n) = true)
    (hvar : b' var = some (.element (.node n))) (hrow : e.ReadsRow b row)
    (hrow' : e.ReadsRow b' row) :
    ((endpointPattern var e).fits cx g b n = true ∧
        ∀ c ∈ endpointConditions var e, c.holds cx g b' = true) ↔ e.Meets cx row g n := by
  rw [endpoint_accepts_iff hadmits hvar (fun _ hentry => hrow.cell hentry)
    (fun _ hentry => hrow'.cell hentry)]
  simp only [MatchMode.accepts_eq_true]
  exact ⟨fun h => ⟨h.1, h.2⟩, fun h => ⟨h.label, h.fields⟩⟩

/-! ## Each field once -/

/-- A field is a property of the pattern or a condition, and not both. -/
theorem Plan.parts_of_entry (var : String) (entry : String × Reference) :
    (patternProp entry).toList.length + (fieldCondition var entry).toList.length = 1 := by
  obtain ⟨field, r⟩ := entry
  cases hmode : r.mode <;> simp [patternProp, fieldCondition, hmode]

theorem Plan.parts_length (var : String) (fields : Fields) :
    (fields.filterMap patternProp).length + (fields.filterMap (fieldCondition var)).length =
      fields.length := by
  induction fields with
  | nil => rfl
  | cons entry rest ih =>
    -- the entry makes one of the two lists longer
    have hentry := parts_of_entry var entry
    cases hp : patternProp entry <;> cases hc : fieldCondition var entry <;>
      simp only [hp, hc, Option.toList_none, Option.toList_some, List.length_nil,
        List.length_singleton] at hentry <;>
      simp only [List.filterMap_cons, hp, hc, List.length_cons] <;> omega

/-! ## The order of the fields -/

/-- Fields in another order find the same nodes in the same order. -/
theorem Endpoint.found_of_perm (hlabel : e'.label = e.label)
    (hperm : e'.matcher.Perm e.matcher) (cx : Context) (g : Graph) (b : Binding) (var : String) :
    Path.found cx g b { start := endpointPattern var e' } (endpointConditions var e') =
      Path.found cx g b { start := endpointPattern var e } (endpointConditions var e) := by
  -- both parts ask something of all fields, in no order
  have hfits (n : Nat) :
      (endpointPattern var e').fits cx g b n = (endpointPattern var e).fits cx g b n := by
    rw [Bool.eq_iff_iff, endpointPattern_fits_iff, endpointPattern_fits_iff, hlabel]
    simp only [hperm.mem_iff]
  have hholds (b' : Binding) : ((endpointConditions var e').all fun c => c.holds cx g b') =
      (endpointConditions var e).all fun c => c.holds cx g b' := by
    rw [Bool.eq_iff_iff, List.all_eq_true, List.all_eq_true, endpointConditions_hold_iff,
      endpointConditions_hold_iff]
    simp only [hperm.mem_iff]
  have hmatches : Path.matches cx g b { start := endpointPattern var e' } =
      Path.matches cx g b { start := endpointPattern var e } := by
    unfold Path.matches
    simp only [hfits]
    rfl
  unfold Path.found
  simp only [hmatches, hholds]

/-! ## The meaning of a matcher -/

/-- Pattern and conditions of an endpoint accept exactly the nodes that carry
    its label and meet all its fields, each field is in them once, and its
    place among the fields does not matter. -/
theorem Endpoint.matcher_means_its_fields (e : Endpoint) (var : String) :
    (∀ (cx : Context) (g : Graph) (b b' : Binding) (row : Json) (n : Nat),
      b.admits (some var) (.node n) = true → b' var = some (.element (.node n)) →
      e.ReadsRow b row → e.ReadsRow b' row →
      (((endpointPattern var e).fits cx g b n = true ∧
          ∀ c ∈ endpointConditions var e, c.holds cx g b' = true) ↔ e.Meets cx row g n)) ∧
    ((∀ entry ∈ e.matcher,
        (patternProp entry).toList.length + (fieldCondition var entry).toList.length = 1) ∧
      (endpointPattern var e).props.length + (endpointConditions var e).length =
        e.matcher.length) ∧
    ∀ e' : Endpoint, e'.label = e.label → e'.matcher.Perm e.matcher →
      ∀ (cx : Context) (g : Graph) (b : Binding),
        Path.found cx g b { start := endpointPattern var e' } (endpointConditions var e') =
          Path.found cx g b { start := endpointPattern var e } (endpointConditions var e) := by
  refine ⟨?_, ⟨fun entry _ => parts_of_entry var entry, parts_length var e.matcher⟩, ?_⟩
  · intro cx g b b' row n hadmits hvar hrow hrow'
    exact accepts_iff_meets hadmits hvar hrow hrow'
  · intro e' hlabel hperm cx g b
    exact found_of_perm hlabel hperm cx g b var

namespace Sample

/-- A field of each mode. -/
def contact : Endpoint where
  label := "User"
  matcher :=
    [("email", (Reference.row "Email").withMode .ignoreCase), ("team", .param "TEAM"),
     ("id", (Reference.row "Ids").withMode .oneToMany),
     ("name", (Reference.row "Name").withMode .fuzzy)]

def contactRow : Json :=
  .object [("Email", .string "ANN@EXAMPLE.ORG"), ("Ids", .array [.null, .string "u1"]),
    ("Name", .string "Ann")]

def contactContext : Context where
  params := Dictionary.empty.insert "TEAM" (.string "core")
  now := 0
  lower s := String.ofList (s.toList.map Char.toLower)

/-- A graph of one user. -/
def oneUser : Graph where
  nodes := [1]
  links := []
  labels _ := {"User", "Person"}
  type _ := ""
  source _ := 1
  target _ := 1
  prop _ key :=
    match key with
    | "email" => .string "Ann@example.org"
    | "team" => .string "core"
    | "id" => .string "u1"
    | "name" => .string "Joanna B."
    | _ => .null
  nodes_nodup := List.nodup_singleton 1
  links_nodup := List.nodup_nil
  ends_mem := fun _ h => absurd h List.not_mem_nil

theorem contact_meets : contact.Meets contactContext contactRow oneUser 1 where
  label := by
    show "User" ∈ ({"User", "Person"} : Finset String)
    decide
  fields := by
    intro entry hentry
    simp only [contact, List.mem_cons, List.not_mem_nil, or_false] at hentry
    rcases hentry with rfl | rfl | rfl | rfl
    · exact ⟨_, _, rfl, rfl, by decide⟩
    · show Json.same (.string "core") (.string "core") = some true
      decide
    · exact ⟨_, rfl, .string "u1", by simp, by decide⟩
    · exact ⟨_, _, rfl, rfl, by decide⟩

end Sample

/-- The user is accepted for the row, by the two parts of the matcher. -/
theorem Endpoint.contact_is_accepted :
    let b := Binding.empty.bind rowAlias (.value Sample.contactRow)
    (endpointPattern "j" Sample.contact).fits Sample.contactContext Sample.oneUser b 1 = true ∧
      ∀ c ∈ endpointConditions "j" Sample.contact,
        c.holds Sample.contactContext Sample.oneUser (b.bind "j" (.element (.node 1))) = true :=
  ((matcher_means_its_fields Sample.contact "j").1 Sample.contactContext Sample.oneUser
    (Binding.empty.bind rowAlias (.value Sample.contactRow)) _ Sample.contactRow 1 rfl
    (Binding.bind_self _ _ _) (.inr rfl) (.inr rfl)).2 Sample.contact_meets

end GraphSync
