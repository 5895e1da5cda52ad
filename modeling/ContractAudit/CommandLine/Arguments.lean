import ContractAudit.CommandLine.Options
import ContractAudit.Report.Format
import ContractAudit.Severity

/-!
# The arguments of the program

The program has a command to analyze a file and one to show the settings in effect. The settings file may be named
before or after the command.
-/

namespace ContractAudit.CommandLine

def languageByExtension : List (String × String) := [(".sol", "solidity"), (".vy", "vyper"), (".rs", "rust")]

structure AnalyzeArguments where
  file : String
  language : Option String := none
  format : Option String := none
  output : Option String := none
  parallel : Bool := false
  failOn : Option String := none

inductive Command where
  | analyze (arguments : AnalyzeArguments)
  | showSettings

structure Arguments where
  settingsFile : Option String := none
  command : Option Command := none

def helpSwitch : Switch := ⟨"help", ["-h", "--help"], .help⟩

def leadingSwitches : List Switch :=
  [helpSwitch, ⟨"version", ["--version"], .version⟩, ⟨"config", ["--config"], .value []⟩]

def analyzeSwitches : List Switch :=
  [helpSwitch,
   ⟨"language", ["--language", "-l"], .value ["rust", "solidity", "vyper"]⟩,
   ⟨"format", ["--format", "-f"], .value (ReportFormat.all.map ReportFormat.label)⟩,
   ⟨"output", ["--output", "-o"], .value []⟩,
   ⟨"parallel", ["--parallel"], .mark⟩,
   ⟨"fail-on", ["--fail-on"], .value (Severity.all.map fun severity ↦ Text.lower severity.label)⟩,
   ⟨"config", ["--config"], .value []⟩,
   ⟨"verbose", ["--verbose", "-v"], .mark⟩]

def present? (text : Option String) : Option String := text.filter (!·.isEmpty)

def readAnalyze (settingsFile : Option String) (words : List String) : Except Stop Arguments := do
  let given ← collect analyzeSwitches words
  let some file := given.operand | throw .misuse
  pure
    { settingsFile := present? (given.value? "config") <|> settingsFile
      command := some (.analyze
        { file
          language := given.value? "language"
          format := given.value? "format"
          output := present? (given.value? "output")
          parallel := given.marks.contains "parallel"
          failOn := given.value? "fail-on" }) }

/-- The arguments of the command to show the settings: there are none. -/
def readShowSettings (settingsFile : Option String) (words : List String) : Except Stop Arguments := do
  let given ← collect [helpSwitch] words
  if given.operand.isSome || words.contains "--" then throw .misuse
  pure { settingsFile, command := some .showSettings }

def readCommand (settingsFile : Option String) : List String → Except Stop Arguments
  | [] => .ok { settingsFile }
  | "analyze" :: words => readAnalyze settingsFile words
  | "show-config" :: words => readShowSettings settingsFile words
  | _ => .error .misuse

/-- Reads a command line. A word before the command that nothing takes is found out after the command is read, so that
a command can still ask for help. -/
def readArguments (words : List String) : Except Stop Arguments := do
  let (given, rest) ← collectLeading leadingSwitches {} (← sortWords leadingSwitches words)
  let arguments ← readCommand (present? (given.value? "config")) rest
  if given.surplus then throw .misuse
  pure arguments

end ContractAudit.CommandLine
