import GraphSync.Report.Style
import GraphSync.Run.Cleanup

/-!
# Run reports

What a run prints when it is over.
-/

namespace GraphSync

/-- The report of a load. -/
def LoadSummary.report (s : LoadSummary) : List Line :=
  [[.styled .boldGreen "Loaded",
    .plain (" " ++ toString s.rows ++ " row(s) in " ++ toString s.batches ++ " batch(es)")]]

/-- The report of a cleanup. Where nothing was deleted it does not count statements and windows. -/
def CleanupSummary.report (label : String) (s : CleanupSummary) : List Line :=
  if s.deleted = 0 then [[.styled .dimmed "Nothing stale for", .plain " ", .styled .cyan label]]
  else
    [[.styled .boldGreen "Deleted",
      .plain (" " ++ toString s.deleted.toNat ++ " stale element(s) of "), .styled .cyan label,
      .plain (" (" ++ toString s.statements ++ " statement(s), " ++ toString s.windows ++
        " window(s))")]]

end GraphSync
