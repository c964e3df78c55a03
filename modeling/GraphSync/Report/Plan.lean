import GraphSync.Cypher.Printer
import GraphSync.Plan.Cleanup
import GraphSync.Plan.Indexes
import GraphSync.Plan.Ingestion
import GraphSync.Report.Style

/-!
# Plan reports

A plan report shows every query that a schema compiles to: a headline, and one section each for
ingestion, indexes and cleanup.
-/

namespace GraphSync.Report

/-! ## Sections -/

/-- The beginning of a section: an empty line, its title, and a rule. -/
def heading (title : String) : List Line :=
  [[], [.styled .bold title], [.plain (String.ofList (List.replicate 60 '─'))]]

/-- A query, and under it the parameters that the caller has to supply, if there are any. -/
def query (q : Cypher.Query) : List Line :=
  let params := Plan.callerParameters q
  [.plain q.text] ::
    if params.isEmpty then []
    else [[.styled .dimmed "params:", .plain " ", .styled .yellow (", ".intercalate params)]]

/-- Queries with an empty line between two of them. -/
def queries : List Cypher.Query → List Line
  | [] => []
  | [q] => query q
  | q :: rest => query q ++ [[]] ++ queries rest

/-- The headline: what kind of schema it is, its label, and a remark. -/
def headline (kind label remark : String) : Line :=
  [.styled .bold kind, .plain " ", .styled .boldCyan label, .plain " ",
    .styled .dimmed ("(" ++ remark ++ ")")]

/-- All sections of a plan. -/
def sections (ingestion : Cypher.Query) (indexes : List Cypher.Index) (cleanup : List Line) :
    List Line :=
  heading "Ingestion" ++ query ingestion ++
  heading "Indexes" ++ indexes.map (fun index => [.plain index.text]) ++
  heading "Cleanup" ++ cleanup

end Report

/-! ## Schemas -/

/-- How a cleanup scope is described. -/
def CleanupScope.description : CleanupScope → String
  | subResource r => "scoped to " ++ r.target.label ++ " via " ++ r.label
  | relationshipsOnly => "relationships only"
  | unscoped => "unscoped"

/-- The plan report of a node schema. -/
def NodeSchema.report (s : NodeSchema) : List Line :=
  let cleanup :=
    if s.cleanup.isEmpty then [[.styled .dimmed "No cleanup statements."]]
    else Report.queries s.cleanup
  Report.headline "Node" s.label s.scope.description ::
    Report.sections s.ingestion s.indexes cleanup

/-- The plan report of a matchlink. -/
def Matchlink.report (m : Matchlink) : List Line :=
  let ends := m.source.label ++ " -> " ++ m.relationship.target.label
  Report.headline "Matchlink" m.relationship.label ends ::
    Report.sections m.ingestion m.indexes (Report.query m.cleanup)

/-- The plan report of a schema. -/
def Schema.report : Schema → List Line
  | node s => s.report
  | matchlink m => m.report

end GraphSync
