import ContractAudit.Settings.Configuration

/-!
# Settings files

Settings are read from a file with a document, then overridden by variables of the surroundings, and then checked. A
file that is missing, or whose document is no mapping, leaves the defaults; so do keys that name no setting. A file that
is there and cannot be opened, or whose document is refused, is passed over with a warning.
-/

namespace ContractAudit.Configuration

def warning (message : String) : String := "[yellow]Warning: Could not load config file: " ++ message ++ "[/yellow]"

/-- A document that was read, or the message of its refusal. -/
def orPassOver : Except ReadFault Value → Except SettingsFailure (Except String Value)
  | .ok document => .ok (.ok document)
  | .error (.refused message) => .ok (.error message)
  | .error .undecodable => .error .undecodable
  | .error (.unexpected error) => .error (.library error)

/-- What a settings file holds: its document, or the message of the error for which it is passed over. A missing file is
an empty document. -/
def readFile (documents : DocumentLibrary) (surroundings : Surroundings) (path : Path) :
    Except SettingsFailure (Except String Value) :=
  match surroundings.disk.look surroundings.directory path with
  | .error error => .error (.disk error)
  | .ok none => .ok (.ok .null)
  | .ok (some node) =>
    match node.contents path with
    | .error error => .ok (.error error.message)
    | .ok bytes => orPassOver (documents.read ⟨path.toString, bytes⟩)

def overriding : List (String × Setting) :=
  [("CHAINGUARD_LOG_LEVEL", .logLevel), ("CHAINGUARD_REPORTS_DIR", .reportsDir)]

/-- A variable that is not empty overrides the setting it stands for. -/
def overrideOne (environment : List (String × String)) (configuration : Configuration) (pair : String × Setting) :
    Configuration :=
  match environment.lookup pair.1 with
  | some text =>
    if text.isEmpty then configuration
    else { configuration with settings := configuration.settings.withValue pair.2 (.str text) }
  | none => configuration

def override (configuration : Configuration) (environment : List (String × String)) : Configuration :=
  overriding.foldl (overrideOne environment) configuration

/-- The configuration of a document, with the overriding variables, if it is valid. -/
def ofChecked (document : Value) (environment : List (String × String)) : Except SettingsFailure Configuration := do
  let (verdict, configuration) := ((← ofDocument document).override environment).validate
  verdict
  pure configuration

/-- What comes of loading a file: the lines that are printed, and the configuration. -/
structure Loaded where
  printed : List String := []
  result : Except SettingsFailure Configuration

/-- Reads, overrides and checks settings. A warning that cannot be shown is a failure. -/
def load (libraries : Libraries) (surroundings : Surroundings) (path : Path) : Loaded :=
  match readFile libraries.documents surroundings path with
  | .error failure => { result := .error failure }
  | .ok (.ok document) => { result := ofChecked document surroundings.environment }
  | .ok (.error message) =>
    match libraries.console.print (warning message) with
    | .error error => { result := .error (.library error) }
    | .ok printed => { printed, result := ofChecked .null surroundings.environment }

def toText (configuration : Configuration) (documents : DocumentLibrary) : Except SettingsFailure String := do
  (documents.write (← configuration.toValue)).mapError .library

def savedMessage (path : Path) : String := "[green]✓ Configuration saved to " ++ path.toString ++ "[/green]"

/-- Writes the settings to a file, and gives back its text. A file that was opened is empty when the settings cannot be
told. A message that cannot be shown is a failure. -/
def save (configuration : Configuration) (libraries : Libraries) (surroundings : Surroundings) (path : Path) :
    Except SettingsFailure String × Disk :=
  let text := configuration.toText libraries.documents
  match surroundings.disk.writeFile surroundings.directory path (text.toOption.getD "") with
  | .error error => (.error (.disk error), surroundings.disk)
  | .ok disk =>
    match libraries.console.print (savedMessage path) with
    | .error error => (text.bind fun _ ↦ .error (.library error), disk)
    | .ok _ => (text, disk)

end ContractAudit.Configuration
