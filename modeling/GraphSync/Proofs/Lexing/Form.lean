import GraphSync.Proofs.Lexing.Printer
import GraphSync.Schema.Matchlink

/-! # Forms of statements

    What stays of a statement when the names of its schema are changed: a list
    of pieces, each a fixed token or the place of a name.

    * A `Renaming` changes all names of a schema and leaves its shape alone.
    * `Parametric` token lists come from one form, whatever the renaming.  They
      are put together from fixed tokens and names, which is all that the
      closure lemmas say. -/

namespace GraphSync

open Cypher

/-! ## Renamings -/

/-- Other names for the names of a schema.  Different names may get the same
    one, but no other name becomes the identity key. -/
structure Renaming where
  name   : String → String
  id_iff : ∀ k, name k = idKey ↔ k = idKey

variable (f : Renaming)

/-- The reference under other names. -/
def Reference.rename (r : Reference) : Reference := { r with name := f.name r.name }

/-- The fields under other names. -/
def Fields.rename (fields : Fields) : Fields :=
  fields.map fun entry => (f.name entry.1, entry.2.rename f)

/-- The endpoint under other names. -/
def Endpoint.rename (e : Endpoint) : Endpoint where
  label := f.name e.label
  matcher := e.matcher.rename f

/-- The relationship under other names. -/
def Relationship.rename (rel : Relationship) : Relationship where
  label := f.name rel.label
  direction := rel.direction
  target := rel.target.rename f
  properties := rel.properties.rename f
  source := rel.source.map (Endpoint.rename f)

/-- The scope under other names. -/
def CleanupScope.rename : CleanupScope → CleanupScope
  | .subResource rel => .subResource (rel.rename f)
  | .relationshipsOnly => .relationshipsOnly
  | .unscoped => .unscoped

/-- The node schema under other names. -/
def NodeSchema.rename (s : NodeSchema) : NodeSchema where
  label := f.name s.label
  properties := s.properties.rename f
  extraLabels := s.extraLabels.map f.name
  scope := s.scope.rename f
  others := s.others.map (Relationship.rename f)

/-- The matchlink under other names. -/
def Matchlink.rename (m : Matchlink) : Matchlink where
  relationship := m.relationship.rename f
  source := m.source.rename f

/-- The schema under other names. -/
def Schema.rename : Schema → Schema
  | .node s => .node (s.rename f)
  | .matchlink m => .matchlink (m.rename f)

theorem NodeSchema.relationships_rename (s : NodeSchema) :
    (s.rename f).relationships = s.relationships.map (Relationship.rename f) := by
  unfold relationships subResource? rename
  cases s.scope <;> simp [CleanupScope.rename]

theorem Renaming.name_beq_id (k : String) : (f.name k == idKey) = (k == idKey) := by
  rw [Bool.eq_iff_iff, beq_iff_eq, beq_iff_eq]
  exact f.id_iff k

theorem Fields.get?_id_rename (fields : Fields) :
    (fields.rename f).get? idKey = (fields.get? idKey).map (Reference.rename f) := by
  unfold get? rename
  rw [List.find?_map]
  simp only [Function.comp_def, f.name_beq_id, Option.map_map]

theorem Fields.filter_id_rename (fields : Fields) :
    (fields.rename f).filter (fun entry => entry.1 != idKey) =
      Fields.rename f (fields.filter fun entry => entry.1 != idKey) := by
  unfold rename
  rw [List.filter_map]
  simp only [Function.comp_def, bne, f.name_beq_id]

/-! ## The names that a schema has -/

/-- The renaming that changes nothing. -/
def Renaming.refl : Renaming where
  name := id
  id_iff := fun _ => Iff.rfl

theorem Fields.rename_refl (fields : Fields) : fields.rename .refl = fields := List.map_id fields

theorem Endpoint.rename_refl (e : Endpoint) : e.rename .refl = e := by
  unfold rename
  rw [Fields.rename_refl]
  rfl

theorem Relationship.rename_refl (rel : Relationship) : rel.rename .refl = rel := by
  unfold rename
  rw [Endpoint.rename_refl, Fields.rename_refl]
  obtain ⟨label, direction, target, properties, source⟩ := rel
  cases source with
  | none => rfl
  | some e =>
    rw [Option.map_some, Endpoint.rename_refl]
    rfl

theorem NodeSchema.rename_refl (s : NodeSchema) : s.rename .refl = s := by
  have hothers : s.others.map (Relationship.rename .refl) = s.others := by
    rw [List.map_congr_left fun rel _ => rel.rename_refl, List.map_id']
  have hlabels : s.extraLabels.map Renaming.refl.name = s.extraLabels := List.map_id _
  have hscope : s.scope.rename .refl = s.scope := by
    cases s.scope with
    | subResource rel => exact congrArg CleanupScope.subResource rel.rename_refl
    | relationshipsOnly => rfl
    | unscoped => rfl
  unfold rename
  rw [Fields.rename_refl, hothers, hlabels, hscope]
  rfl

/-- Every schema is one of its own renamings. -/
theorem Schema.rename_refl (schema : Schema) : schema.rename .refl = schema := by
  cases schema with
  | node s => exact congrArg Schema.node s.rename_refl
  | matchlink m =>
    have hm : m.rename .refl = m := by
      unfold Matchlink.rename
      rw [Relationship.rename_refl, Endpoint.rename_refl]
    exact congrArg Schema.matchlink hm

/-! ## Forms -/

/-- A token that does not depend on the names of a schema, or one of its
    names. -/
inductive Piece where
  | fixed (t : Token)
  | name (k : String)

/-- The token of a piece: a name is one token, whatever its characters are. -/
def Piece.token : Piece → Token
  | .fixed t => t
  | .name k => .ident (f.name k)

/-- A list of pieces. -/
abbrev Form := List Piece

/-- The tokens of a form. -/
def Form.under (form : Form) : List Token := form.map (Piece.token f)

/-- Token lists of one form. -/
def Parametric (T : Renaming → List Token) : Prop := ∃ form : Form, ∀ f, T f = form.under f

/-- Lists of token lists, each of one form. -/
def ParametricList (L : Renaming → List (List Token)) : Prop :=
  ∃ forms : List Form, ∀ f, L f = forms.map (Form.under f)

/-! ## Token lists of one form -/

namespace Parametric

variable {T U : Renaming → List Token}

theorem fixed (ts : List Token) : Parametric fun _ => ts := by
  refine ⟨ts.map Piece.fixed, ?_⟩
  intro f
  unfold Form.under
  rw [List.map_map]
  exact (List.map_id ts).symm

theorem name (k : String) : Parametric fun f => [.ident (f.name k)] :=
  ⟨[.name k], fun _ => rfl⟩

theorem append (hT : Parametric T) (hU : Parametric U) : Parametric fun f => T f ++ U f := by
  obtain ⟨form, hform⟩ := hT
  obtain ⟨form', hform'⟩ := hU
  refine ⟨form ++ form', ?_⟩
  intro f
  show T f ++ U f = List.map (Piece.token f) (form ++ form')
  rw [hform, hform', List.map_append]
  rfl

theorem of_eq (hT : Parametric T) (h : ∀ f, U f = T f) : Parametric U := by
  obtain ⟨form, hform⟩ := hT
  refine ⟨form, ?_⟩
  intro f
  rw [h, hform]

/-- One token list or another, by a choice that no renaming changes. -/
theorem ite (b : Bool) (hT : Parametric T) (hU : Parametric U) :
    Parametric fun f => if b then T f else U f := by
  cases b with
  | true => exact hT
  | false => exact hU

end Parametric

/-! ## Lists of them -/

namespace ParametricList

variable {L M : Renaming → List (List Token)}

theorem nil : ParametricList fun _ => [] := ⟨[], fun _ => rfl⟩

theorem cons {T : Renaming → List Token} (hT : Parametric T) (hL : ParametricList L) :
    ParametricList fun f => T f :: L f := by
  obtain ⟨form, hform⟩ := hT
  obtain ⟨forms, hforms⟩ := hL
  refine ⟨form :: forms, ?_⟩
  intro f
  show T f :: L f = _
  rw [hform, hforms, List.map_cons]

theorem append (hL : ParametricList L) (hM : ParametricList M) :
    ParametricList fun f => L f ++ M f := by
  obtain ⟨forms, hforms⟩ := hL
  obtain ⟨forms', hforms'⟩ := hM
  refine ⟨forms ++ forms', ?_⟩
  intro f
  show L f ++ M f = _
  rw [hforms, hforms', List.map_append]

theorem of_eq (hL : ParametricList L) (h : ∀ f, M f = L f) : ParametricList M := by
  obtain ⟨forms, hforms⟩ := hL
  refine ⟨forms, ?_⟩
  intro f
  rw [h, hforms]

theorem map {α : Type} {T : α → Renaming → List Token} (h : ∀ a, Parametric (T a)) (l : List α) :
    ParametricList fun f => l.map fun a => T a f := by
  induction l with
  | nil => exact nil
  | cons a rest ih => exact cons (h a) ih

theorem flatMap {α : Type} {P : α → Renaming → List (List Token)} (h : ∀ a, ParametricList (P a))
    (l : List α) : ParametricList fun f => l.flatMap fun a => P a f := by
  induction l with
  | nil => exact nil
  | cons a rest ih =>
    apply ((h a).append ih).of_eq
    intro f
    rw [List.flatMap_cons]

/-- The entries of some fields that are not left out.  A renaming leaves out the
    same ones. -/
theorem filterMap_fields {α : Type} {g : String × Reference → Option α} {tokens : α → List Token}
    (h : ∀ (key : String) (r : Reference), (∀ f : Renaming, g (f.name key, r.rename f) = none) ∨
      ∃ U, Parametric U ∧ ∀ f : Renaming, (g (f.name key, r.rename f)).map tokens = some (U f))
    (fields : Fields) : ParametricList fun f => ((fields.rename f).filterMap g).map tokens := by
  induction fields with
  | nil => exact nil
  | cons entry rest ih =>
    rcases h entry.1 entry.2 with hnone | ⟨U, hU, hsome⟩
    · apply ih.of_eq
      intro f
      unfold Fields.rename
      rw [List.map_cons, List.filterMap_cons_none (hnone f)]
    · apply (cons hU ih).of_eq
      intro f
      obtain ⟨a, ha, htokens⟩ := Option.map_eq_some_iff.1 (hsome f)
      unfold Fields.rename
      rw [List.map_cons, List.filterMap_cons_some ha, List.map_cons, htokens]

theorem flatten (hL : ParametricList L) : Parametric fun f => (L f).flatten := by
  obtain ⟨forms, hforms⟩ := hL
  refine ⟨forms.flatten, ?_⟩
  intro f
  show (L f).flatten = List.map (Piece.token f) forms.flatten
  rw [hforms, List.map_flatten]
  rfl

theorem map_intersperse {α β : Type} (g : α → β) (sep : α) :
    ∀ l : List α, (l.intersperse sep).map g = (l.map g).intersperse (g sep)
  | [] => rfl
  | [_] => rfl
  | a :: b :: rest => by
    have ih := map_intersperse g sep (b :: rest)
    rw [List.map_cons] at ih
    rw [List.intersperse_cons_cons, List.map_cons, List.map_cons, ih, List.map_cons, List.map_cons,
      List.intersperse_cons_cons]

theorem intersperse (hL : ParametricList L) {T : Renaming → List Token} (hT : Parametric T) :
    ParametricList fun f => (L f).intersperse (T f) := by
  obtain ⟨forms, hforms⟩ := hL
  obtain ⟨form, hform⟩ := hT
  refine ⟨forms.intersperse form, ?_⟩
  intro f
  show (L f).intersperse (T f) = _
  rw [hforms, hform, map_intersperse]

theorem intercalate (hL : ParametricList L) (sep : List Token) :
    Parametric fun f => sep.intercalate (L f) :=
  (hL.intersperse (.fixed sep)).flatten

theorem block (hL : ParametricList L) (first sep last : List Token) :
    Parametric fun f => Cypher.block first sep last (L f) := by
  have hitems := ((Parametric.fixed first).append (hL.intercalate sep)).append (.fixed last)
  obtain ⟨forms, hforms⟩ := hL
  -- whether there are items is the same for all renamings
  cases forms with
  | nil =>
    refine ⟨[], ?_⟩
    intro f
    show Cypher.block first sep last (L f) = []
    rw [hforms]
    rfl
  | cons form rest =>
    obtain ⟨all, hall⟩ := hitems
    refine ⟨all, ?_⟩
    intro f
    rw [← hall f]
    show Cypher.block first sep last (L f) = first ++ sep.intercalate (L f) ++ last
    rw [hforms]
    rfl

end ParametricList

end GraphSync
