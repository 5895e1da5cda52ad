import ContractAudit.Metadata
import ContractAudit.Score
import ContractAudit.Tally

/-!
# Reports

A report holds everything that is known about one audit. Every format that it is rendered in is a projection of it.
-/

namespace ContractAudit

structure Report where
  tally : Tally
  score : Score
  metadata : Option Metadata := none
  /-- Whether the language model could not be asked. -/
  degraded : Bool := false
  notes : List String := []
  /-- The fingerprint of the source, empty when it is not known. -/
  fingerprint : String := ""
  summary : String := ""
  recommendations : List String := []

namespace Report

/-- The report as a mapping; empty parts at its end are left out. -/
def toEntries (report : Report) : List (String × Value) :=
  let texts (items : List String) : Value := .list (items.map .str)
  report.score.toEntries
    ++ ("totalVulnerabilities", .int report.tally.total) :: report.tally.toEntries
    ++ [("degraded", .bool report.degraded), ("notes", texts report.notes)]
    ++ (match report.metadata with
      | some metadata => [("metadata", metadata.toValue)]
      | none => [])
    ++ (if report.fingerprint.isEmpty then [] else [("contractHash", .str report.fingerprint)])
    ++ (if report.summary.isEmpty then [] else [("summary", .str report.summary)])
    ++ if report.recommendations.isEmpty then [] else [("recommendations", texts report.recommendations)]

def toValue (report : Report) : Value := .object report.toEntries

end Report

end ContractAudit
