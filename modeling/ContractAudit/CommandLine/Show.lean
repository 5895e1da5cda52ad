import ContractAudit.CommandLine.Session
import ContractAudit.Path
import ContractAudit.Settings.Validation

/-!
# What the program shows

The summary of a report, and the settings in effect.
-/

namespace ContractAudit.CommandLine

def severityStyle : Severity → String
  | .critical => "bold red"
  | .high => "red"
  | .medium => "yellow"
  | .low => "blue"

def styled (severity : Severity) : String := "[" ++ severityStyle severity ++ "]" ++ severity.label ++ "[/]"

def findingRow (number : Nat) (finding : Finding) : List Value :=
  let line := match finding.line with
    | some line => toString line.val
    | none => "-"
  [.str (toString number), .str (styled finding.severity), finding.category, .str line, finding.description]

/-- The text of a cell: null is empty, and values that are no texts cannot be printed. -/
def cellText : Value → SessionM String
  | .str text => pure text
  | .null => pure ""
  | _ => throw .notPrintable

def findingsTable (findings : List Finding) : SessionM Console.Table := do
  let rows ← (findings.zipIdx 1).mapM fun (finding, number) ↦ (findingRow number finding).mapM cellText
  pure
    { title := "Findings"
      columns := [⟨"#", .right⟩, ⟨"Severity", .left⟩, ⟨"Type", .left⟩, ⟨"Line", .right⟩, ⟨"Description", .left⟩]
      rows }

def printSummary (report : Report) : SessionM Unit := do
  let vulnerabilities := report.tally.vulnerabilities
  printPanel "ChainGuard Report"
    ["Security Score: " ++ String.ofList (Number.writeInt report.score.points) ++ "/100",
     "Overall Risk: " ++ report.score.risk.label,
     "Vulnerabilities: " ++ toString report.tally.total ++ "   Gas optimizations: "
       ++ toString report.tally.optimizations.length]
  if vulnerabilities.isEmpty then printStyled "[green]No vulnerabilities found.[/green]"
  else printTable (← findingsTable vulnerabilities)

def yesOrNo (answer : Bool) : String := if answer then "Yes" else "No"

/-- The text of a value, unless it holds an integer that is too long to be written. -/
def textOf (value : Value) : SessionM String :=
  if value.isWritable then pure value.text else throw (.settings .tooLong)

/-- A value that is present as text, and a word for one that is not. -/
def textOr (word : String) (value : Value) : SessionM String := if value.truthy then textOf value else pure word

def mainTable (settings : Settings) : SessionM Console.Table := do
  let format ← cellText settings.defaultFormat
  let directory ← cellText settings.reportsDir
  let workers ← textOr "auto" settings.maxWorkers
  let timeout ← textOf settings.aiTimeout
  let failOn ← if settings.failOn.truthy then cellText settings.failOn else pure "never"
  let level ← cellText settings.logLevel
  pure
    { title := "Main Configuration"
      columns := [⟨"Setting", .left⟩, ⟨"Value", .left⟩]
      rows :=
        [["Default Format", format], ["Reports Directory", directory],
         ["Parallel Analysis", yesOrNo settings.parallelAnalysis.truthy],
         ["Max Workers", workers], ["AI Timeout", timeout ++ "s"],
         ["Fail On", failOn], ["Log Level", level]] }

/-- Whether an analyzer is among the enabled ones; bytes have no names among them. -/
def isEnabled (settings : Settings) (key : BuiltIn) : SessionM Bool :=
  match settings.enabledAnalyzers with
  | .bytes _ => throw (.settings .wrongType)
  | enabled => pure (((Settings.members? enabled).getD []).any (·.sameKey (.str key.label)))

/-- The cells of one analyzer: its name, whether it is enabled, and what is set for it. -/
def analyzerRow (settings : Settings) (key : BuiltIn) : SessionM (List String) := do
  let enabled ← isEnabled settings key
  let table ← textOr "defaults" (Value.field settings.windows.entries key.label)
  return [key.label, yesOrNo enabled, table]

def analyzersTable (settings : Settings) : SessionM Console.Table := do
  return {
    title := "Analyzers"
    columns := [⟨"Analyzer", .left⟩, ⟨"Enabled", .left⟩, ⟨"Settings", .left⟩]
    rows := ← BuiltIn.all.mapM (analyzerRow settings) }

/-- Prints the settings in effect and the file they came from. -/
def printSettings (settings : Settings) (file : Path) : SessionM Unit := do
  printTable (← mainTable settings)
  printTable (← analyzersTable settings)
  printStyled ("\n[bold cyan]Config File:[/bold cyan] " ++ file.toString)

end ContractAudit.CommandLine
