import ContractAudit.Report.Location

/-!
# Reports in HTML

Every text that comes from a source, a language model or a setting is escaped, so it can neither open a tag nor end an
attribute. Parts of a finding that are no texts cannot be escaped and are refused.
-/

namespace ContractAudit.Report.Html

def escapeCharacter (c : Char) : List Char :=
  if c = '&' then "&amp;".toList
  else if c = '<' then "&lt;".toList
  else if c = '>' then "&gt;".toList
  else if c = '"' then "&quot;".toList
  else if c = '\'' then "&#x27;".toList
  else [c]

def escape (text : String) : String := String.ofList (text.toList.flatMap escapeCharacter)

/-- Escapes a value that has to be a text. -/
def escapeValue : Value → Except RenderError String
  | .str text => .ok (escape text)
  | _ => .error .markup

def escapePresent (value : Value) : Except RenderError (Option String) :=
  if value.truthy then (escapeValue value).map some else .ok none

def style : String :=
  "\n    body \x7b font-family: Arial, sans-serif; max-width: 1000px; margin: 40px auto; padding: 20px; \x7d\n"
    ++ "    h1 \x7b color: #1f2937; \x7d\n"
    ++ "    .summary \x7b background: #f3f4f6; padding: 20px; border-radius: 8px; margin: 20px 0; \x7d\n"
    ++ "    .vulnerability \x7b border-left: 4px solid #e5e7eb; padding: 15px; margin: 15px 0; \x7d\n"
    ++ "    .severity \x7b display: inline-block; padding: 4px 12px; border-radius: 4px; color: white; "
    ++ "font-weight: bold; \x7d\n"
    ++ "    .code \x7b background: #1f2937; color: #f3f4f6; padding: 15px; border-radius: 4px; "
    ++ "overflow-x: auto; \x7d\n"
    ++ "    .degraded \x7b background: #fef3c7; padding: 10px; border-radius: 4px; \x7d\n"

def header : String :=
  "<!DOCTYPE html>\n<html>\n<head>\n  <meta charset=\"utf-8\">\n  <title>Security Audit Report</title>\n  <style>"
    ++ style ++ "  </style>\n</head>\n<body>\n  <h1>Security Audit Report</h1>\n"

def labelled (label text : String) : String := "<p><strong>" ++ label ++ ":</strong> " ++ text ++ "</p>"

/-- A list item on a line of its own. -/
def item (indent text : String) : String := indent ++ "<li>" ++ text ++ "</li>\n"

/-- A titled list, left out when it has no items. -/
def listSection (title : String) (items : List String) : String :=
  if items.isEmpty then ""
  else "  <h2>" ++ title ++ "</h2>\n  <ul>\n" ++ String.join (items.map (item "    ")) ++ "  </ul>\n"

/-- The rows on a contract: its name, if it has one, and three that are always there. -/
def metadataRows (metadata : Metadata) : List String :=
  (if metadata.name.isEmpty then [] else [labelled "Name" (escape metadata.name)])
    ++ [labelled "Language" (escape metadata.language), labelled "Version" (escape metadata.version),
      labelled "Contracts" (escape (", ".intercalate metadata.contracts))]

/-- The row on the source, if its fingerprint is known. -/
def fingerprintRows (fingerprint : String) : List String :=
  if fingerprint.isEmpty then []
  else [labelled "Contract Hash" ("<code>" ++ escape fingerprint ++ "</code>")]

def contractSection (report : Report) : String :=
  let rows := (report.metadata.map metadataRows).getD [] ++ fingerprintRows report.fingerprint
  if report.metadata.isNone && report.fingerprint.isEmpty then ""
  else "\n  <div class=\"summary\">\n    <h2>Contract</h2>\n"
    ++ String.join (rows.map fun row ↦ "    " ++ row ++ "\n") ++ "  </div>\n"

def summarySection (report : Report) : String :=
  let count (severity : Severity) : String := toString (report.tally.countOf severity)
  "\n  <div class=\"summary\">\n    <h2>Summary</h2>\n"
    ++ "    " ++ labelled "Security Score" (toString report.score.points ++ "/100") ++ "\n"
    ++ "    " ++ labelled "Overall Risk" (escape report.score.risk.label) ++ "\n"
    ++ "    " ++ labelled "Total Vulnerabilities" (toString report.tally.total) ++ "\n"
    ++ "    <ul>\n"
    ++ item "      " ("Critical: " ++ count .critical) ++ item "      " ("High: " ++ count .high)
    ++ item "      " ("Medium: " ++ count .medium) ++ item "      " ("Low: " ++ count .low)
    ++ "    </ul>\n  </div>\n"
    ++ (if report.summary.isEmpty then "" else "  <p class=\"overview\">" ++ escape report.summary ++ "</p>\n")
    ++ if report.degraded then
      "  <p class=\"degraded\">AI analysis was unavailable; this report contains static analysis findings only.</p>\n"
      else ""

def color : Severity → String
  | .critical => "#dc2626"
  | .high => "#ea580c"
  | .medium => "#f59e0b"
  | .low => "#3b82f6"

/-- The mark of a level in its colour. -/
def badge (severity : Severity) : String :=
  "<span class=\"severity\" style=\"background: " ++ color severity ++ "\">" ++ escape severity.label ++ "</span>"

/-- One vulnerability with its number in the report. -/
def vulnerability (entry : Finding × Nat) : Except RenderError String := do
  let (finding, number) := entry
  let location ← finding.locationText
  let snippet ← escapePresent finding.snippet
  let category ← escapeValue finding.category
  let description ← escapeValue finding.description
  let recommendation ← escapeValue finding.recommendation
  let place := if location.isEmpty then "" else labelled "Location" (escape location)
  let code := (snippet.map fun text ↦ "<div class=\"code\"><pre>" ++ text ++ "</pre></div>").getD ""
  pure ("\n  <div class=\"vulnerability\">\n    <h3>" ++ toString number ++ ". " ++ category ++ " "
    ++ badge finding.severity ++ "</h3>\n"
    ++ "    " ++ labelled "Description" description ++ "\n"
    ++ "    " ++ place ++ "\n"
    ++ "    " ++ code ++ "\n"
    ++ "    " ++ labelled "Recommendation" recommendation ++ "\n"
    ++ "  </div>\n")

def optimization (finding : Finding) : Except RenderError String := do
  let savings ← escapePresent finding.savings
  let category ← escapeValue finding.category
  let description ← escapeValue finding.description
  let line := (finding.lineText.map fun text ↦ " (" ++ text ++ ")").getD ""
  pure ("<strong>" ++ category ++ "</strong>" ++ line ++ ": " ++ description
    ++ (savings.map fun text ↦ " - " ++ text).getD "")

def render (report : Report) : Except RenderError String := do
  let vulnerabilities ← (report.tally.vulnerabilities.zipIdx 1).mapM vulnerability
  let optimizations ← report.tally.optimizations.mapM optimization
  pure (header ++ contractSection report ++ summarySection report
    ++ "  <h2>Vulnerabilities</h2>\n" ++ String.join vulnerabilities
    ++ listSection "Gas Optimizations" optimizations
    ++ listSection "Recommendations" (report.recommendations.map escape)
    ++ listSection "Notes" (report.notes.map escape)
    ++ "</body>\n</html>\n")

end ContractAudit.Report.Html
