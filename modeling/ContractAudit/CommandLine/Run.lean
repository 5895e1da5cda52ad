import ContractAudit.CommandLine.Arguments
import ContractAudit.CommandLine.Show
import ContractAudit.Settings.Auditor
import ContractAudit.Settings.File
import ContractAudit.Text.Utf8

/-!
# Running the program

A run reads the command line, loads the settings and carries out the command. Its exit status is 2 when the command
line, the settings or a file cannot be used, 1 when the risk reaches the severity that counts as a failure, and 0
otherwise.
-/

namespace ContractAudit.CommandLine

def version : String := "chainguard 1.0.0"

def usage : String :=
  "usage: chainguard [-h] [--version] [--config CONFIG] \x7banalyze,show-config\x7d ...\n\n"
    ++ "commands:\n"
    ++ "  analyze FILE   analyze a contract file\n"
    ++ "    -l, --language \x7brust,solidity,vyper\x7d         source language, by default that of the extension\n"
    ++ "    -f, --format \x7bjson,markdown,html\x7d            report format, by default that of the settings\n"
    ++ "    -o, --output OUTPUT                        report file\n"
    ++ "    --parallel                                 run the analyzers side by side\n"
    ++ "    --fail-on \x7bcritical,high,medium,low\x7d         exit with status 1 from this risk on\n"
    ++ "    -v, --verbose                              tell more\n"
    ++ "  show-config    show the settings in effect\n"

def unusable : Nat := 2

/-- The settings file that is read unless another one is named. -/
def defaultSettingsFile : String := "~/.chainguard/config.yaml"

/-- A setting failure as a crash, or as a message when a rule is broken. -/
def orReport {α : Type} (opening : String) (result : Except SettingsFailure α) (go : α → SessionM Nat) : SessionM Nat :=
  match result with
  | .ok value => go value
  | .error (.broken error) => do
    printStyled ("[red]✗ " ++ opening ++ error.message ++ "[/red]")
    pure unusable
  | .error failure => throw (.settings failure)

def languageOf (path : Path) : String :=
  (languageByExtension.lookup (Text.lower path.extension)).getD "solidity"

/-- Where the report goes: where the user wants it, or into the directory of reports under the name of the source. -/
def reportFile (surroundings : Surroundings) (settings : Settings) (arguments : AnalyzeArguments) (path : Path)
    (format : ReportFormat) : Except SettingsFailure Path :=
  match arguments.output with
  | some output => .ok (Path.ofString output)
  | none => do
    let directory ← settings.reportsPath surroundings
    pure (directory.join { parts := [path.stem ++ "." ++ format.fileExtension] })

/-- The status of a finished report: a risk from the given severity on is a failure. -/
def verdict (report : Report) (failOn : Option String) : SessionM Nat := do
  match failOn.bind fun name ↦ (Severity.ofName? name).map (name, ·) with
  | some (name, threshold) =>
    if report.score.risk.rank ≤ threshold.rank then
      printStyled ("[red]Overall risk " ++ report.score.risk.label ++ " meets --fail-on " ++ Text.upper name
        ++ "[/red]")
      pure 1
    else pure 0
  | none => pure 0

def writeReport (surroundings : Surroundings) (report : Report) (format : ReportFormat) (output : Path) :
    SessionM (Except DiskError Unit) := do
  let text ← match report.render format with
    | .ok text => pure text
    | .error error => throw (.audit (.render error))
  match (← get).disk.writeFile surroundings.directory output text with
  | .error error => if error.fault = .nullCharacter then throw (.disk error) else pure (.error error)
  | .ok disk => do
    modify ({ · with disk })
    pure (.ok ())

/-- Analyzes a source, prints the summary and writes the report. -/
def analyzeSource (surroundings : Surroundings) (settings : Settings) (arguments : AnalyzeArguments) (path : Path)
    (format : ReportFormat) (source : String) : SessionM Nat :=
  orReport "" (settings.auditor (if arguments.parallel then some (.bool true) else none)) fun auditor ↦ do
    let language := arguments.language.getD (languageOf path)
    let report ← match auditor.analyze (.str source) language none path.stem false with
      | .ok report => pure report
      | .error error => throw (.audit error)
    printSummary report
    orReport "" (reportFile surroundings settings arguments path format) fun output ↦ do
      match ← writeReport surroundings report format output with
      | .error error =>
        printStyled ("[red]✗ Could not write report to " ++ output.toString ++ ": " ++ error.message ++ "[/red]")
        pure unusable
      | .ok _ =>
        printStyled ("[green]✓ Report written to " ++ output.toString ++ "[/green]")
        verdict report (arguments.failOn <|> Settings.textOf? settings.failOn)

def readSource (path : Path) (node : Node) : Except String String := do
  let bytes ← (node.contents path).mapError DiskError.message
  let text ← (Text.decodeUtf8 bytes).mapError (·.message)
  pure (String.ofList (Text.unifyLines text))

def analyzeFile (surroundings : Surroundings) (settings : Settings) (arguments : AnalyzeArguments) : SessionM Nat := do
  let path := Path.ofString arguments.file
  let absent := do
    printStyled ("[red]✗ File not found: " ++ path.toString ++ "[/red]")
    pure unusable
  match (← get).disk.look surroundings.directory path with
  | .error error => throw (.disk error)
  | .ok none => absent
  | .ok (some .directory) => absent
  | .ok (some node) =>
    let format := (arguments.format.map Value.str).getD settings.defaultFormat
    orReport "" ((ReportFormat.ofValue format).mapError fun error ↦ .broken (.invalidFormat error)) fun format ↦ do
      match readSource path node with
      | .error message =>
        printStyled ("[red]✗ Could not read " ++ path.toString ++ ": " ++ message ++ "[/red]")
        pure unusable
      | .ok source => analyzeSource surroundings settings arguments path format source

/-- Loads the settings and carries out a command. -/
def carryOut (surroundings : Surroundings) (settingsFile : Option String) (command : Command) : SessionM Nat := do
  let some path := surroundings.expandHome? (Path.ofString (settingsFile.getD defaultSettingsFile))
    | throw (.settings .unknownHome)
  let loaded := Configuration.load (← read) surroundings path
  printLines loaded.printed
  orReport "Invalid configuration: " (loaded.result.bind Configuration.complete) fun settings ↦ do
    match command with
    | .showSettings =>
      printSettings settings path
      pure 0
    | .analyze arguments => analyzeFile surroundings settings arguments

structure Outcome where
  /-- The exit status, or why the run crashed. -/
  status : Except Crash Nat
  output : String := ""
  /-- Whether help is shown in place of output. -/
  help : Bool := false
  disk : Disk

/-- Runs the program with the given words on its command line. -/
def run (libraries : Libraries) (surroundings : Surroundings) (words : List String) : Outcome :=
  match readArguments words with
  | .error .misuse => { status := .ok unusable, disk := surroundings.disk }
  | .error .help => { status := .ok 0, help := true, disk := surroundings.disk }
  | .error .version => { status := .ok 0, output := version ++ "\n", disk := surroundings.disk }
  | .ok arguments =>
    match arguments.command with
    | none => { status := .ok unusable, help := true, disk := surroundings.disk }
    | some command =>
      let steps := (carryOut surroundings arguments.settingsFile command).run libraries
      let (status, session) := steps.run.run ⟨surroundings.disk, []⟩
      { status, output := session.output, disk := session.disk }

end ContractAudit.CommandLine
