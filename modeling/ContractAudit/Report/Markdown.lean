import ContractAudit.Report.Location

/-!
# Reports in Markdown

Texts are written as they are. Parts of a finding that are no texts are written as messages show them.
-/

namespace ContractAudit.Report.Markdown

def bulletList (items : List String) : String := String.join (items.map fun item ↦ "- " ++ item ++ "\n") ++ "\n"

/-- A titled section, left out when it has no items. -/
def listSection (title : String) (items : List String) : String :=
  if items.isEmpty then "" else "## " ++ title ++ "\n\n" ++ bulletList items

def labelled (label text : String) : String := "**" ++ label ++ ":** " ++ text ++ "\n"

def contractSection (report : Report) : String :=
  let about := match report.metadata with
    | none => ""
    | some metadata =>
      (if metadata.name.isEmpty then "" else labelled "Name" metadata.name)
        ++ labelled "Language" metadata.language ++ labelled "Version" metadata.version
        ++ (if metadata.contracts.isEmpty then "" else labelled "Contracts" (", ".intercalate metadata.contracts))
        ++ labelled "Functions" (toString metadata.functions.length)
  let fingerprint :=
    if report.fingerprint.isEmpty then "" else labelled "Contract Hash" ("`" ++ report.fingerprint ++ "`")
  if report.metadata.isNone && report.fingerprint.isEmpty then ""
  else "## Contract\n\n" ++ about ++ fingerprint ++ "\n"

def summarySection (report : Report) : String :=
  "## Summary\n\n"
    ++ labelled "Security Score" (toString report.score.points ++ "/100")
    ++ labelled "Overall Risk" report.score.risk.label
    ++ labelled "Total Vulnerabilities" (toString report.tally.total)
    ++ "\n"
    ++ (if report.summary.isEmpty then "" else report.summary ++ "\n\n")
    ++ if report.degraded then
      "> AI analysis was unavailable; this report contains static analysis findings only.\n\n" else ""

def breakdown (tally : Tally) : String :=
  let count (severity : Severity) : String := toString (tally.countOf severity)
  "### Severity Breakdown\n\n"
    ++ bulletList ["Critical: " ++ count .critical, "High: " ++ count .high, "Medium: " ++ count .medium,
      "Low: " ++ count .low]

def vulnerability (entry : Finding × Nat) : Except RenderError String := do
  let (finding, number) := entry
  let location ← finding.locationText
  pure ("### " ++ toString number ++ ". " ++ finding.category.text ++ " (" ++ finding.severity.label ++ ")\n\n"
    ++ labelled "Description" finding.description.text ++ "\n"
    ++ (if location.isEmpty then "" else labelled "Location" location ++ "\n")
    ++ (if finding.snippet.truthy then "**Code:**\n```solidity\n" ++ finding.snippet.text ++ "\n```\n\n" else "")
    ++ labelled "Recommendation" finding.recommendation.text ++ "\n"
    ++ "---\n\n")

def vulnerabilitySection (findings : List Finding) : Except RenderError String := do
  if findings.isEmpty then return ""
  return "## Vulnerabilities\n\n" ++ String.join (← (findings.zipIdx 1).mapM vulnerability)

def optimization (finding : Finding) : String :=
  let line := (finding.lineText.map fun text ↦ " (" ++ text ++ ")").getD ""
  let savings := if finding.savings.truthy then " - " ++ finding.savings.text else ""
  "**" ++ finding.category.text ++ "**" ++ line ++ ": " ++ finding.description.text ++ savings

def render (report : Report) : Except RenderError String := do
  let vulnerabilities ← vulnerabilitySection report.tally.vulnerabilities
  pure ("# Security Audit Report\n\n" ++ contractSection report ++ summarySection report
    ++ breakdown report.tally ++ vulnerabilities
    ++ listSection "Gas Optimizations" (report.tally.optimizations.map optimization)
    ++ listSection "Recommendations" report.recommendations
    ++ listSection "Notes" report.notes)

end ContractAudit.Report.Markdown
