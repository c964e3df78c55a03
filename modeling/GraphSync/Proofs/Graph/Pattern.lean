import GraphSync.Cypher.Syntax
import GraphSync.Proofs.Graph.Basic
import GraphSync.Run.Parameters

/-! # Reading a graph

    A clause works on bindings, each of which gives some variables a cell: an
    element or a value.  Patterns and conditions only read, so the bindings
    they find are computed, as a list.

    * `Expr.cell` and `Condition.holds` evaluate expressions and conditions.
      A condition that is unknown, or whose operands are of the wrong kind,
      does not hold.
    * `Path.matches` lists the ways to find a path.  Links keep their
      direction, and one match uses no link twice.
    * `Path.found_subset` is the fact behind all cleanup: what is found in a
      part of a graph is found in the whole.
    * `Path.found_of_timeless` says that only a pattern that asks for the time
      depends on it. -/

namespace GraphSync

/-! ## Cells and bindings -/

/-- What a variable is bound to. -/
inductive Cell where
  | element (e : Element)
  | value (v : Json)

namespace Cell

/-- The value of a cell.  An element is no value. -/
def json : Cell → Json
  | .element _ => .null
  | .value v => v

/-- Whether two cells are equal. -/
def same : Cell → Cell → Option Bool
  | .element a, .element b => some (a == b)
  | .value v, .value w => v.same w
  | .element _, .value v | .value v, .element _ => if v.isNull then none else some false

/-- Whether a cell is null. -/
def isNull : Cell → Bool
  | .element _ => false
  | .value v => v.isNull

/-- The element of a cell. -/
def element? : Cell → Option Element
  | .element e => some e
  | .value _ => none

end Cell

/-- The cells of the variables that are bound. -/
abbrev Binding := String → Option Cell

namespace Binding

/-- No variable is bound. -/
def empty : Binding := fun _ => none

/-- The binding with one more variable, in place of one of that name. -/
def bind (b : Binding) (var : String) (c : Cell) : Binding :=
  fun v => if v = var then some c else b v

/-- The binding with the variable of a pattern, if it has one. -/
def bindVar (b : Binding) : Option String → Cell → Binding
  | none, _ => b
  | some var, c => b.bind var c

/-- The binding of some variables only. -/
def only (b : Binding) (vars : List String) : Binding :=
  fun v => if v ∈ vars then b v else none

@[simp] theorem bind_self (b : Binding) (var : String) (c : Cell) : b.bind var c var = some c := by
  simp [bind]

@[simp] theorem bind_of_ne (b : Binding) {var other : String} (h : other ≠ var) (c : Cell) :
    b.bind var c other = b other := by
  simp [bind, h]

@[simp] theorem bindVar_none (b : Binding) (c : Cell) : b.bindVar none c = b := rfl

@[simp] theorem bindVar_some (b : Binding) (var : String) (c : Cell) :
    b.bindVar (some var) c = b.bind var c := rfl

/-- The element that a variable is bound to. -/
def element? (b : Binding) (var : String) : Option Element := (b var).bind Cell.element?

/-- A property of what a variable is bound to, or a member of it. -/
def property (b : Binding) (g : Graph) (var key : String) : Json :=
  match b var with
  | some (.element e) => g.prop e key
  | some (.value v) => v.member key
  | none => .null

/-- A variable is bound to an element of a graph. -/
def Holds (b : Binding) (g : Graph) (var : String) : Prop :=
  ∃ e, b.element? var = some e ∧ g.has e = true

/-- Variables that are bound to elements stay so. -/
theorem Holds.bindVar {b : Binding} {g : Graph} {var : String} (h : b.Holds g var)
    {other : Option String} {e : Element} (he : g.has e = true) :
    (b.bindVar other (.element e)).Holds g var := by
  cases other with
  | none => exact h
  | some v =>
    by_cases hv : var = v
    · subst hv
      exact ⟨e, by simp [Binding.element?, Cell.element?], he⟩
    · obtain ⟨e', hb, he'⟩ := h
      refine ⟨e', ?_, he'⟩
      rw [← hb]
      simp [Binding.element?, hv]

/-- The variable of a pattern is bound to what it has found. -/
theorem holds_bindVar (b : Binding) {g : Graph} {var : String} {pattern : Option String}
    (hv : var ∈ pattern) {e : Element} (he : g.has e = true) :
    (b.bindVar pattern (.element e)).Holds g var := by
  rw [Option.mem_def.1 hv]
  exact ⟨e, by simp [Binding.element?, Cell.element?], he⟩

theorem property_of_free {b : Binding} {var : String} (h : b var = none) (g : Graph) :
    b.property g var = fun _ => .null := by
  funext key
  unfold property
  rw [h]

/-- The members of a value that is bound. -/
theorem property_bind_self (b : Binding) (var : String) (v : Json) (g : Graph) :
    (b.bind var (.value v)).property g var = v.member := by
  funext key
  simp [property]

/-- Another variable leaves the properties of what one is bound to. -/
theorem property_bind_of_ne (b : Binding) {var other : String} (h : other ≠ var) (c : Cell)
    (g : Graph) : (b.bind var c).property g other = b.property g other := by
  funext key
  simp [property, h]

theorem eq_of_element? {b : Binding} {var : String} {e : Element} (h : b.element? var = some e) :
    b var = some (.element e) := by
  obtain ⟨c, hc, hce⟩ := Option.bind_eq_some_iff.1 h
  cases c with
  | element e' => rw [hc, Option.some.inj hce]
  | value v => cases hce

theorem property_of_element {b : Binding} {g : Graph} {var : String} {e : Element}
    (h : b.element? var = some e) (key : String) : b.property g var key = g.prop e key := by
  unfold property
  rw [eq_of_element? h]

/-- Whether a variable of a pattern is free, or bound to an element. -/
def admits (b : Binding) (var : Option String) (e : Element) : Bool :=
  match var.bind b with
  | none => true
  | some c => c.element? == some e

end Binding

/-- What a statement is evaluated with: its parameters, the time, and the
    database's own way to write text in lower case. -/
structure Context where
  params : Parameters
  now    : Int64
  lower  : String → String

/-- The value of a parameter, null when there is none. -/
def Parameters.value (p : Parameters) (name : String) : Json := (p.find? name).getD .null

namespace Cypher

/-! ## Expressions and conditions -/

/-- The cell of an expression. -/
def Expr.cell (cx : Context) (g : Graph) (b : Binding) : Expr → Cell
  | .param name => .value (cx.params.value name)
  | .field name => .value (b.property g rowAlias name)
  | .property v key => .value (b.property g v key)
  | .var name => (b name).getD (.value .null)
  | .timestamp => .value (.ofInt64 cx.now)
  | .countAll => .value .null
  | .toLower e => .value ((e.cell cx g b).json.lowered cx.lower)

/-- Whether a condition is met. -/
def Condition.truth (cx : Context) (g : Graph) (b : Binding) : Condition → Option Bool
  | .eq x y => (x.cell cx g b).same (y.cell cx g b)
  | .ne x y => ((x.cell cx g b).same (y.cell cx g b)).map not
  | .isIn x y => (x.cell cx g b).json.isIn (y.cell cx g b).json
  | .contains x y => (x.cell cx g b).json.holdsText (y.cell cx g b).json
  | .isNotNull x => some (!(x.cell cx g b).isNull)

/-- Whether a condition is known to be met. -/
def Condition.holds (cx : Context) (g : Graph) (b : Binding) (c : Condition) : Bool :=
  c.truth cx g b == some true

/-! ## Patterns -/

/-- Whether a node fits a pattern. -/
def NodePattern.fits (cx : Context) (g : Graph) (b : Binding) (p : NodePattern) (n : Nat) : Bool :=
  b.admits p.var (.node n) && p.labels.all (· ∈ g.labels n)
    && p.props.all fun (key, e) => (g.prop (.node n) key).same (e.cell cx g b).json == some true

/-- The node on the left of a link, seen along an arrow. -/
def Arrow.near (g : Graph) (l : Nat) : Arrow → Nat
  | .outgoing => g.source l
  | .incoming => g.target l

/-- The node on the right of a link, seen along an arrow. -/
def Arrow.far (g : Graph) (l : Nat) : Arrow → Nat
  | .outgoing => g.target l
  | .incoming => g.source l

/-- Whether a link from the node `n` fits a pattern. -/
def RelPattern.fits (g : Graph) (b : Binding) (p : RelPattern) (n l : Nat) : Bool :=
  b.admits p.var (.link l) && g.type l == p.type && p.arrow.near g l == n

/-- The ways to go on from the node `n` along hops, without the links that
    are used already. -/
def hopMatches (cx : Context) (g : Graph) :
    List (RelPattern × NodePattern) → Nat → List Nat → Binding → List Binding
  | [], _, _, b => [b]
  | (rel, node) :: rest, n, used, b =>
    (g.links.filter fun l => l ∉ used && rel.fits g b n l).flatMap fun l =>
      let b := b.bindVar rel.var (.element (.link l))
      let m := rel.arrow.far g l
      if node.fits cx g b m then
        hopMatches cx g rest m (l :: used) (b.bindVar node.var (.element (.node m)))
      else []

/-- The variables of a path. -/
def Path.vars (p : Path) : List String :=
  p.start.var.toList ++ p.hops.flatMap fun h => h.1.var.toList ++ h.2.var.toList

/-- The ways to find a path. -/
def Path.matches (cx : Context) (g : Graph) (b : Binding) (p : Path) : List Binding :=
  (g.nodes.filter fun n => p.start.fits cx g b n).flatMap fun n =>
    hopMatches cx g p.hops n [] (b.bindVar p.start.var (.element (.node n)))

/-- The ways to find a path under conditions. -/
def Path.found (cx : Context) (g : Graph) (b : Binding) (p : Path) (conditions : List Condition) :
    List Binding :=
  (p.matches cx g b).filter fun b' => conditions.all fun c => c.holds cx g b'

/-! ## Members of the lists of matches -/

theorem Path.mem_found {cx : Context} {g : Graph} {b b' : Binding} {p : Path}
    {conditions : List Condition} :
    b' ∈ p.found cx g b conditions ↔
      b' ∈ p.matches cx g b ∧ ∀ c ∈ conditions, c.holds cx g b' = true := by
  simp [Path.found, List.mem_filter, List.all_eq_true]

theorem Path.mem_found_append {cx : Context} {g : Graph} {b b' : Binding} {p : Path}
    {conditions conditions' : List Condition} :
    b' ∈ p.found cx g b (conditions ++ conditions') ↔
      (∀ c ∈ conditions, c.holds cx g b' = true) ∧ b' ∈ p.found cx g b conditions' := by
  rw [Path.mem_found, Path.mem_found, List.forall_mem_append]
  exact and_left_comm

/-- A path of one node is found at each node that fits. -/
theorem Path.mem_matches_node {cx : Context} {g : Graph} {b b' : Binding} {node : NodePattern} :
    b' ∈ Path.matches cx g b { start := node } ↔
      ∃ n ∈ g.nodes, node.fits cx g b n = true ∧
        b' = b.bindVar node.var (.element (.node n)) := by
  simp only [Path.matches, hopMatches, List.mem_flatMap, List.mem_filter, List.mem_singleton]
  constructor
  · rintro ⟨n, ⟨hn, hf⟩, hb⟩
    exact ⟨n, hn, hf, hb⟩
  · rintro ⟨n, hn, hf, hb⟩
    exact ⟨n, ⟨hn, hf⟩, hb⟩

/-- A path of one hop is found at each link that fits, with its two ends. -/
theorem Path.mem_matches_hop {cx : Context} {g : Graph} {b b' : Binding}
    {left right : NodePattern} {rel : RelPattern} :
    b' ∈ Path.matches cx g b { start := left, hops := [(rel, right)] } ↔
      ∃ n ∈ g.nodes, ∃ l ∈ g.links,
        let b₁ := b.bindVar left.var (.element (.node n))
        let b₂ := b₁.bindVar rel.var (.element (.link l))
        left.fits cx g b n = true ∧ rel.fits g b₁ n l = true ∧
          right.fits cx g b₂ (rel.arrow.far g l) = true ∧
          b' = b₂.bindVar right.var (.element (.node (rel.arrow.far g l))) := by
  simp only [Path.matches, hopMatches, List.mem_flatMap, List.mem_filter]
  constructor
  · rintro ⟨n, ⟨hn, hleft⟩, l, ⟨hl, hrel⟩, hb⟩
    split at hb
    · next hright =>
      exact ⟨n, hn, l, hl, hleft, by simpa using hrel, hright, by simpa using hb⟩
    · simp at hb
  · rintro ⟨n, hn, l, hl, hleft, hrel, hright, hb⟩
    refine ⟨n, ⟨hn, hleft⟩, l, ⟨hl, by simpa using hrel⟩, ?_⟩
    rw [if_pos hright]
    simpa using hb

/-! ## Variables of a match -/

theorem Arrow.near_mem {g : Graph} {l : Nat} (hl : l ∈ g.links) (a : Arrow) :
    a.near g l ∈ g.nodes := by
  cases a with
  | outgoing => exact (g.ends_mem l hl).1
  | incoming => exact (g.ends_mem l hl).2

theorem Arrow.far_mem {g : Graph} {l : Nat} (hl : l ∈ g.links) (a : Arrow) :
    a.far g l ∈ g.nodes := by
  cases a with
  | outgoing => exact (g.ends_mem l hl).2
  | incoming => exact (g.ends_mem l hl).1

theorem holds_of_mem_hopMatches {cx : Context} {g : Graph}
    {hops : List (RelPattern × NodePattern)} {n : Nat} {used : List Nat} {b b' : Binding}
    (hb : b' ∈ hopMatches cx g hops n used b) {var : String}
    (hvar : b.Holds g var ∨ var ∈ hops.flatMap fun h => h.1.var.toList ++ h.2.var.toList) :
    b'.Holds g var := by
  induction hops generalizing n used b with
  | nil =>
    rw [hopMatches, List.mem_singleton] at hb
    subst hb
    simpa using hvar
  | cons hop rest ih =>
    obtain ⟨rel, node⟩ := hop
    simp only [hopMatches, List.mem_flatMap, List.mem_filter] at hb
    obtain ⟨l, ⟨hl, -⟩, hb⟩ := hb
    split at hb
    · have hlink : g.has (.link l) = true := by simpa using hl
      have hnode : g.has (.node (rel.arrow.far g l)) = true := by simpa using Arrow.far_mem hl _
      refine ih hb ?_
      -- bound before, or by the link, or by the node, or later
      simp only [List.flatMap_cons, List.mem_append, Option.mem_toList] at hvar
      rcases hvar with hvar | (hvar | hvar) | hvar
      · exact .inl ((hvar.bindVar hlink).bindVar hnode)
      · exact .inl ((b.holds_bindVar hvar hlink).bindVar hnode)
      · exact .inl ((b.bindVar rel.var _).holds_bindVar hvar hnode)
      · exact .inr hvar
    · simp at hb

/-- A match binds the variables of the path to elements, and leaves those that
    have been bound to elements. -/
theorem Path.holds_of_mem_matches {cx : Context} {g : Graph} {b b' : Binding} {p : Path}
    (hb : b' ∈ p.matches cx g b) {var : String} (hvar : b.Holds g var ∨ var ∈ p.vars) :
    b'.Holds g var := by
  simp only [Path.matches, List.mem_flatMap, List.mem_filter] at hb
  obtain ⟨n, ⟨hn, -⟩, hb⟩ := hb
  have hnode : g.has (.node n) = true := by simpa using hn
  refine holds_of_mem_hopMatches hb ?_
  rw [Path.vars, List.mem_append, Option.mem_toList] at hvar
  rcases hvar with hvar | hvar | hvar
  · exact .inl (hvar.bindVar hnode)
  · exact .inl (b.holds_bindVar hvar hnode)
  · exact .inr hvar

/-! ## Matches in a part of a graph

    Expressions and patterns look at properties, labels, types and ends only,
    and a part has these from the whole. -/

section Part

variable {g h : Graph} (hw : g.Within h) (cx : Context)
include hw

theorem Expr.cell_within (b : Binding) (e : Expr) : e.cell cx g b = e.cell cx h b := by
  induction e with
  | property v key => simp only [Expr.cell, Binding.property, hw.prop]
  | field name => simp only [Expr.cell, Binding.property, hw.prop]
  | toLower e ih => simp only [Expr.cell, ih]
  | _ => rfl

theorem Condition.holds_within (b : Binding) (c : Condition) :
    c.holds cx g b = c.holds cx h b := by
  cases c <;> simp only [Condition.holds, Condition.truth, Expr.cell_within hw]

theorem NodePattern.fits_within (b : Binding) (p : NodePattern) (n : Nat) :
    p.fits cx g b n = p.fits cx h b n := by
  simp only [NodePattern.fits, Expr.cell_within hw, hw.labels, hw.prop]

omit cx in
theorem Arrow.near_within (l : Nat) (a : Arrow) : a.near g l = a.near h l := by
  cases a <;> simp only [Arrow.near, hw.source, hw.target]

omit cx in
theorem Arrow.far_within (l : Nat) (a : Arrow) : a.far g l = a.far h l := by
  cases a <;> simp only [Arrow.far, hw.source, hw.target]

omit cx in
theorem RelPattern.fits_within (b : Binding) (p : RelPattern) (n l : Nat) :
    p.fits g b n l = p.fits h b n l := by
  simp only [RelPattern.fits, Arrow.near_within hw, hw.type]

theorem hopMatches_subset (hops : List (RelPattern × NodePattern)) (n : Nat) (used : List Nat)
    (b : Binding) : hopMatches cx g hops n used b ⊆ hopMatches cx h hops n used b := by
  induction hops generalizing n used b with
  | nil => exact fun _ hb => hb
  | cons hop rest ih =>
    obtain ⟨rel, node⟩ := hop
    intro b' hb
    simp only [hopMatches, List.mem_flatMap, List.mem_filter, RelPattern.fits_within hw,
      NodePattern.fits_within hw, Arrow.far_within hw] at hb ⊢
    obtain ⟨l, ⟨hl, hfit⟩, hb⟩ := hb
    refine ⟨l, ⟨hw.links hl, hfit⟩, ?_⟩
    split at hb
    · next hnode =>
      rw [if_pos hnode]
      exact ih _ _ _ hb
    · simp at hb

theorem Path.matches_subset (b : Binding) (p : Path) : p.matches cx g b ⊆ p.matches cx h b := by
  intro b' hb
  simp only [Path.matches, List.mem_flatMap, List.mem_filter, NodePattern.fits_within hw] at hb ⊢
  obtain ⟨n, ⟨hn, hfit⟩, hb⟩ := hb
  exact ⟨n, ⟨hw.nodes hn, hfit⟩, hopMatches_subset hw cx _ _ _ _ hb⟩

/-- What is found in a part of a graph is found in the whole. -/
theorem Path.found_subset (b : Binding) (p : Path) (conditions : List Condition) :
    p.found cx g b conditions ⊆ p.found cx h b conditions := by
  intro b' hb
  rw [Path.mem_found] at hb ⊢
  refine ⟨Path.matches_subset hw cx b p hb.1, fun c hc => ?_⟩
  rw [← Condition.holds_within hw]
  exact hb.2 c hc

end Part

/-! ## Patterns that do not read the time -/

/-- Whether an expression does without the time. -/
def Expr.timeless : Expr → Bool
  | .timestamp => false
  | .toLower e => e.timeless
  | _ => true

/-- Whether a condition does without the time. -/
def Condition.timeless : Condition → Bool
  | .eq x y | .ne x y | .isIn x y | .contains x y => x.timeless && y.timeless
  | .isNotNull x => x.timeless

/-- Whether a node pattern does without the time. -/
def NodePattern.timeless (p : NodePattern) : Bool := p.props.all fun entry => entry.2.timeless

/-- Whether a path does without the time. -/
def Path.timeless (p : Path) : Bool := p.start.timeless && p.hops.all fun h => h.2.timeless

section Timeless

variable (cx : Context) (now : Int64) (g : Graph) (b : Binding)

theorem Expr.cell_of_timeless {e : Expr} (he : e.timeless = true) :
    e.cell { cx with now } g b = e.cell cx g b := by
  induction e with
  | timestamp => simp [Expr.timeless] at he
  | toLower e ih => simp only [Expr.cell, ih he]
  | _ => rfl

theorem Condition.holds_of_timeless {c : Condition} (hc : c.timeless = true) :
    c.holds { cx with now } g b = c.holds cx g b := by
  cases c with
  | isNotNull x => simp only [Condition.holds, Condition.truth, Expr.cell_of_timeless cx now g b hc]
  | _ x y =>
    obtain ⟨hx, hy⟩ := Bool.and_eq_true_iff.1 hc
    simp only [Condition.holds, Condition.truth, Expr.cell_of_timeless cx now g b hx,
      Expr.cell_of_timeless cx now g b hy]

theorem NodePattern.fits_of_timeless {p : NodePattern} (hp : p.timeless = true) (n : Nat) :
    p.fits { cx with now } g b n = p.fits cx g b n := by
  unfold NodePattern.fits
  congr 1
  rw [Bool.eq_iff_iff, List.all_eq_true, List.all_eq_true]
  apply forall₂_congr
  rintro ⟨key, e⟩ hentry
  have he : e.timeless = true := List.all_eq_true.1 hp (key, e) hentry
  simp only [Expr.cell_of_timeless cx now g b he]

theorem hopMatches_of_timeless {hops : List (RelPattern × NodePattern)}
    (hhops : (hops.all fun h => h.2.timeless) = true) (n : Nat) (used : List Nat) :
    hopMatches { cx with now } g hops n used b = hopMatches cx g hops n used b := by
  induction hops generalizing n used b with
  | nil => rfl
  | cons hop rest ih =>
    obtain ⟨rel, node⟩ := hop
    rw [List.all_cons, Bool.and_eq_true] at hhops
    simp only [hopMatches, NodePattern.fits_of_timeless cx now g _ hhops.1, ih _ hhops.2]

theorem Path.found_of_timeless {p : Path} {conditions : List Condition}
    (hp : p.timeless = true) (hc : ∀ c ∈ conditions, c.timeless = true) :
    p.found { cx with now } g b conditions = p.found cx g b conditions := by
  obtain ⟨hstart, hhops⟩ := Bool.and_eq_true_iff.1 hp
  unfold Path.found Path.matches
  simp only [NodePattern.fits_of_timeless cx now g b hstart,
    hopMatches_of_timeless cx now g _ hhops]
  apply List.filter_congr
  intro b' _
  rw [Bool.eq_iff_iff, List.all_eq_true, List.all_eq_true]
  apply forall₂_congr
  intro c hmem
  rw [Condition.holds_of_timeless cx now g b' (hc c hmem)]

end Timeless

end Cypher

end GraphSync
