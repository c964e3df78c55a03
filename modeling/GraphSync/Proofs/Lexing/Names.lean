import GraphSync.Proofs.Cleanup.Job
import GraphSync.Proofs.Ingestion.Load
import GraphSync.Proofs.Lexing.Compiled
import GraphSync.Proofs.Lexing.Plain

/-! # Names stay whole

    Whatever the names of a schema are, each of them is one token of a compiled
    text or is not in it at all.  The rest of the tokens does not depend on
    them.  So no name ends a pattern or adds a clause.

    The statements are about one schema under all renamings: the forms of its
    texts are fixed first.  Only which index statements fall together depends
    on which of their tokens do. -/

namespace GraphSync

open Cypher Lexer

/-! ## Indexes -/

/-- Each once, before or after a function that tells them all apart. -/
theorem map_eraseDups {α β : Type} [BEq α] [LawfulBEq α] [BEq β] [LawfulBEq β]
    {g : α → β} (hg : Function.Injective g) : ∀ l : List α, l.eraseDups.map g = (l.map g).eraseDups
  | [] => rfl
  | a :: rest => by
    have ih := map_eraseDups hg (rest.filter fun b => !b == a)
    have hsame (b : α) : (g b == g a) = (b == a) := by
      rw [Bool.eq_iff_iff, beq_iff_eq, beq_iff_eq]
      exact hg.eq_iff
    rw [List.eraseDups_cons, List.map_cons, ih, List.map_cons, List.eraseDups_cons, List.filter_map]
    simp only [Function.comp_def, hsame]
termination_by l => l.length
decreasing_by exact Nat.lt_succ_of_le (List.length_filter_le _ _)

/-! ## Texts of a schema -/

namespace Schema

theorem ingestion_plain (schema : Schema) : schema.ingestion.Plain := by
  cases schema with
  | node s => exact s.ingestion_plain
  | matchlink m => exact m.ingestion_plain

theorem cleanup_plain (schema : Schema) : ∀ q ∈ schema.cleanup, q.Plain := by
  cases schema with
  | node s => exact s.cleanup_plain
  | matchlink m =>
    intro q hq
    cases List.mem_singleton.1 hq
    exact m.cleanup_plain

theorem parametric_ingestion (schema : Schema) :
    Parametric fun f => (schema.rename f).ingestion.tokens := by
  cases schema with
  | node s => exact s.parametric_ingestion
  | matchlink m => exact m.parametric_ingestion

theorem parametric_cleanup (schema : Schema) :
    ParametricList fun f => (schema.rename f).cleanup.map Query.tokens := by
  cases schema with
  | node s => exact s.parametric_cleanup
  | matchlink m => exact .cons m.parametric_cleanup .nil

/-- The index statements under all renamings come from one list of forms,
    where those that are read alike are sent once. -/
theorem indexes_tokens (schema : Schema) : ∃ lookups : List Form, ∀ f,
    (schema.rename f).indexes.map Index.tokens = (lookups.map (Form.under f)).eraseDups := by
  cases schema with
  | node s =>
    obtain ⟨lookups, hlookups⟩ := s.parametric_lookups
    refine ⟨lookups, ?_⟩
    intro f
    show (s.rename f).lookups.eraseDups.map Index.tokens = _
    rw [map_eraseDups Index.tokens_injective]
    exact congrArg List.eraseDups (hlookups f)
  | matchlink m =>
    obtain ⟨lookups, hlookups⟩ := m.parametric_lookups
    refine ⟨lookups, ?_⟩
    intro f
    show (m.rename f).lookups.eraseDups.map Index.tokens = _
    rw [map_eraseDups Index.tokens_injective]
    exact congrArg List.eraseDups (hlookups f)

end Schema

/-- All texts of a schema can be read, and what they are read as has one form
    for all names that the schema may have: in it a name is one token, with the
    characters of the name, and everything else is fixed. -/
theorem names_stay_whole (schema : Schema) :
    ∃ (ingestion : Form) (cleanup lookups : List Form), ∀ f : Renaming,
      lex (schema.rename f).ingestion.text = some (ingestion.under f) ∧
      (schema.rename f).cleanup.map (fun q => lex q.text) =
        cleanup.map (fun form => some (form.under f)) ∧
      (schema.rename f).indexes.map (fun i => lex i.text) =
        (lookups.map (Form.under f)).eraseDups.map some := by
  obtain ⟨ingestion, hingestion⟩ := schema.parametric_ingestion
  obtain ⟨cleanup, hcleanup⟩ := schema.parametric_cleanup
  obtain ⟨lookups, hlookups⟩ := schema.indexes_tokens
  refine ⟨ingestion, cleanup, lookups, ?_⟩
  intro f
  refine ⟨?_, ?_, ?_⟩
  · rw [← hingestion f]
    exact Query.lexes (schema.rename f).ingestion_plain
  · have hread : (schema.rename f).cleanup.map (fun q => lex q.text) =
        ((schema.rename f).cleanup.map Query.tokens).map some := by
      rw [List.map_map]
      apply List.map_congr_left
      intro q hq
      exact Query.lexes ((schema.rename f).cleanup_plain q hq)
    have hforms : (schema.rename f).cleanup.map Query.tokens = cleanup.map (Form.under f) :=
      hcleanup f
    rw [hread, hforms, List.map_map]
    rfl
  · rw [← hlookups f, List.map_map]
    apply List.map_congr_left
    intro i _
    exact Index.lexes i

end GraphSync
