import GraphSync.Proofs.Ingestion.Extension
import GraphSync.Proofs.Ingestion.Load

/-! # The record of a run

    A load records its run on what it writes, and a cleanup deletes what
    records another run.  Whether the two agree is up to the references that
    feed the records.

    * `Schema.MarksRun` is the condition on a schema: every record that its
      cleanup compares is fed by the tag of the run.
    * Under it an ingestion keeps the invariant `AllMarked`: what has been
      written, and may be compared, carries the tag.  To populate a graph keeps
      it (`Populates.marked`), so do strokes (`Draws.marked`), and
      `Schema.ingestion_marked` puts them together. -/

namespace GraphSync

open Cypher Plan

/-! ## References to the tag -/

/-- A parameter that holds the tag of the run. -/
def Reference.ReadsTag (r : Reference) : Prop :=
  r.origin = .parameter ∧ (r.name = lastUpdatedKey ∨ r.name = updateTagParam)

/-- The reference that feeds the record of the run. -/
def Fields.record (fields : Fields) : List Reference := (fields.get? lastUpdatedKey).toList

namespace Schema

/-- The references that feed the records that the cleanup of a schema
    compares. -/
def records : Schema → List Reference
  | .node s =>
    (if s.scope = .relationshipsOnly then [] else s.properties.record)
      ++ s.relationships.flatMap fun rel => rel.properties.record
  | .matchlink m => m.relationship.properties.record

/-- All records that the cleanup of a schema compares are fed by the tag of
    the run. -/
def MarksRun (schema : Schema) : Prop := ∀ r ∈ schema.records, r.ReadsTag

theorem mem_records_of_node {s : NodeSchema} (hscope : s.scope ≠ .relationshipsOnly)
    {r : Reference} (hr : r ∈ s.properties.record) : r ∈ (Schema.node s).records := by
  show r ∈ (if s.scope = .relationshipsOnly then [] else s.properties.record)
    ++ s.relationships.flatMap fun rel => rel.properties.record
  rw [if_neg hscope]
  exact List.mem_append_left _ hr

theorem mem_records_of_relationship {s : NodeSchema} {rel : Relationship}
    (hrel : rel ∈ s.relationships) {r : Reference} (hr : r ∈ rel.properties.record) :
    r ∈ (Schema.node s).records :=
  List.mem_append_right _ (List.mem_flatMap.2 ⟨rel, hrel, hr⟩)

/-- The elements whose records the cleanup of a schema compares. -/
def Compares : Schema → Element → Prop
  | .node s, .node _ => s.scope ≠ .relationshipsOnly
  | .matchlink _, .node _ => False
  | _, .link _ => True

end Schema

/-- The tag is what a reference gives in every run and for every row, just when
    it reads a parameter that holds the tag. -/
theorem Reference.readsTag_iff {r : Reference} :
    r.ReadsTag ↔ ∀ tag extras, AreExtras extras → ∀ field,
      r.value (Parameters.ofRun tag extras) field = .ofInt64 tag := by
  constructor
  · intro h tag extras hextras field
    unfold Reference.value
    rw [h.1]
    exact Parameters.value_ofRun hextras h.2
  · intro h
    -- a run without further parameters, and a row without values
    have hvalue := h 0 [] (by simp [AreExtras]) fun _ => .null
    unfold Reference.value at hvalue
    unfold Reference.ReadsTag
    cases horigin : r.origin with
    | row =>
      rw [horigin] at hvalue
      cases hvalue
    | parameter =>
      refine ⟨rfl, ?_⟩
      by_contra hname
      obtain ⟨hlast, htag⟩ := not_or.1 hname
      have hmissing : (Parameters.ofRun 0 []).value r.name = .null := by
        show ((Parameters.forRun 0).find? r.name).getD .null = .null
        unfold Parameters.forRun
        rw [Dictionary.find?_insert_of_ne _ htag, Dictionary.find?_insert_of_ne _ hlast]
        rfl
      rw [horigin] at hvalue
      simp only [hmissing] at hvalue
      cases hvalue

/-- The parameters that hold the tag do so in a context. -/
def Context.Tagged (cx : Context) (tag : Int64) : Prop :=
  ∀ name, name = lastUpdatedKey ∨ name = updateTagParam → cx.params.value name = .ofInt64 tag

theorem Reference.ReadsTag.value {r : Reference} (h : r.ReadsTag) {cx : Context} {tag : Int64}
    (hcx : cx.Tagged tag) (field : String → Json) : r.value cx.params field = .ofInt64 tag := by
  unfold Reference.value
  rw [h.1]
  exact hcx r.name h.2

/-- Fields that record a run give what the reference of the record does. -/
theorem Fields.Recorded.gives {fields : Fields} (h : fields.Recorded) {p : Parameters} {w : Json}
    (hvalue : ∀ r ∈ fields.record, ∀ field, r.value p field = w) :
    fields.Gives p lastUpdatedKey w := by
  obtain ⟨⟨key, r⟩, hmem, hkey⟩ := List.mem_map.1 h.record
  obtain rfl : key = lastUpdatedKey := hkey
  have hget : fields.get? lastUpdatedKey = some r := (Fields.get?_eq_some_iff h.nodup).2 hmem
  have hrecord : r ∈ fields.record := by
    rw [Fields.record, hget]
    exact List.mem_singleton_self r
  exact Fields.gives_of_get h.nodup hget (hvalue r hrecord)

/-! ## The invariant of an ingestion -/

/-- All elements that have been written, and may be compared, carry the tag. -/
def AllMarked (K : Element → Prop) (tag : Int64) (s : Store) : Prop :=
  ∀ e ∈ s.written, K e → s.graph.prop e lastUpdatedKey = .ofInt64 tag

/-- Strokes mark the links that they draw. -/
theorem Draws.marked {cx : Context} {ks : List Stroke} {K : Element → Prop} {tag : Int64}
    {s s' : Store} (h : Draws cx ks s s')
    (hgives : ∀ k ∈ ks, k.rel.properties.Gives cx.params lastUpdatedKey (.ofInt64 tag))
    (hs : AllMarked K tag s) : AllMarked K tag s' := by
  intro e he hK
  by_cases hstroke : ∃ l ∈ s'.graph.links, e = .link l ∧ ∃ k ∈ ks, k.ends = s'.graph.ends l
  · obtain ⟨l, hl, rfl, k, hk, hends⟩ := hstroke
    obtain ⟨k, hk, -, hfed⟩ := h.exists_drawn hl hk hends
    exact hfed _ _ (hgives k hk)
  · -- what no stroke has written has the record that it had
    have hbefore := hs e ((h.written e he).resolve_right hstroke) hK
    rw [← hbefore]
    cases e with
    | node n => rw [h.node n]
    | link l => rw [h.link_prop_eq fun hl hk => hstroke ⟨l, hl, rfl, hk⟩]

/-- To populate a graph marks the nodes of the rows, unless their records are
    not compared. -/
theorem NodeSchema.Populates.marked {s : NodeSchema} {cx : Context} {batch : List Json}
    {tag : Int64} {st st' : Store} (h : s.Populates cx batch st st')
    (hgives : s.scope ≠ .relationshipsOnly →
      s.properties.Gives cx.params lastUpdatedKey (.ofInt64 tag))
    (hst : AllMarked (Schema.node s).Compares tag st) :
    AllMarked (Schema.node s).Compares tag st' := by
  intro e he hcompares
  by_cases hrow : ∃ n, e = .node n ∧ s.Reported cx batch st'.graph n
  · obtain ⟨n, rfl, hn⟩ := hrow
    exact (h.written_of_reported hn).fed _ _ (assigned_gives (by decide) (hgives hcompares))
  · have hbefore := hst e ((h.written e he).resolve_right hrow) hcompares
    rw [← hbefore]
    cases e with
    | node n =>
      have hsame := h.others n fun hn => hrow ⟨n, rfl, hn⟩
      rw [Graph.prop_of_node_eq hsame]
    | link l => rw [h.link l]

section Ingestion

variable {cx : Context} {tag : Int64} (hcx : cx.Tagged tag) {batch : List Json}
  (hbatch : cx.params.value rowsParam = .array batch)
include hcx hbatch

/-- An ingestion of a node schema marks all that it writes. -/
theorem NodeSchema.ingestion_marked {s : NodeSchema} (hs : s.Built)
    (hmarks : (Schema.node s).MarksRun) {st st' : Store} {rows : List Binding}
    (h : s.ingestion.Exec cx st st' rows) (hst : AllMarked (Schema.node s).Compares tag st) :
    AllMarked (Schema.node s).Compares tag st' := by
  obtain ⟨st₁, hpopulates, hdraws⟩ := ingestion_outcome hs hbatch h
  have hrecorded : s.properties.Recorded := ⟨hs.checked.nodup, hs.checked.record⟩
  refine hdraws.marked ?_ (hpopulates.marked ?_ hst)
  · intro k hk
    obtain ⟨-, -, hrel, -⟩ := mem_strokes.1 hk
    exact (hs.relationships k.rel hrel).recorded.gives fun r hr =>
      (hmarks r (Schema.mem_records_of_relationship hrel hr)).value hcx
  · intro hscope
    exact hrecorded.gives fun r hr => (hmarks r (Schema.mem_records_of_node hscope hr)).value hcx

/-- An ingestion of a matchlink marks all that it writes. -/
theorem Matchlink.ingestion_marked {m : Matchlink} (hm : m.Built)
    (hmarks : (Schema.matchlink m).MarksRun) {K : Element → Prop} {st st' : Store}
    {rows : List Binding} (h : m.ingestion.Exec cx st st' rows) (hst : AllMarked K tag st) :
    AllMarked K tag st' := by
  refine (ingestion_strokes hm.relationship.recorded.nodup hbatch h).marked ?_ hst
  intro k hk
  rw [(mem_strokes.1 hk).1]
  exact hm.relationship.recorded.gives fun r hr => (hmarks r hr).value hcx

theorem Schema.ingestion_marked {schema : Schema} (hschema : schema.Built)
    (hmarks : schema.MarksRun) {s s' : Store} {rows : List Binding}
    (h : schema.ingestion.Exec cx s s' rows) (hs : AllMarked schema.Compares tag s) :
    AllMarked schema.Compares tag s' := by
  cases schema with
  | node s => exact NodeSchema.ingestion_marked hcx hbatch hschema hmarks h hs
  | matchlink m => exact Matchlink.ingestion_marked hcx hbatch hschema hmarks h hs

end Ingestion

end GraphSync
