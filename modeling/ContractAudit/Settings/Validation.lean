import ContractAudit.Settings
import ContractAudit.Severity

/-!
# Valid settings

Settings are checked one after the other, and the first that breaks its rule ends the check. Two settings are brought
into their normal form on the way: the log level in upper case and the severity of failures by its label.
-/

namespace ContractAudit.Settings

/-- A check reads and may normalise the settings; a failed one leaves them as they were at the failure. -/
abbrev Check := ExceptT SettingsFailure (StateM Settings)

def logLevels : List String := ["DEBUG", "INFO", "WARNING", "ERROR", "CRITICAL"]

/-- The members of a value, when it has some: the items of a list, the characters of a text, the keys of a mapping, the
numbers of bytes. -/
def members? : Value → Option (List Value)
  | .list items => some items
  | .tuple items => some items
  | .set members => some members
  | .str text => some (text.toList.map fun c ↦ .str (String.singleton c))
  | .map entries => some (entries.map (·.1))
  | .bytes content => some (content.map fun byte ↦ .int byte.toNat)
  | _ => none

def isBuiltIn : Value → Bool
  | .str label => (BuiltIn.ofLabel? label).isSome
  | _ => false

def textOf? : Value → Option String
  | .str text => some text
  | _ => none

def checkWritable (value : Value) : Check Unit := if value.isWritable then pure () else throw .tooLong

def checkAnalyzers : Check Unit := do
  let some names := members? (← get).enabledAnalyzers | throw .wrongType
  if !names.all Value.hashable then throw .wrongType
  let unknown := names.filter (!isBuiltIn ·)
  if !unknown.isEmpty then
    match unknown.mapM textOf? with
    | some texts => throw (.broken (.unknownAnalyzers texts))
    | none => throw .wrongType

def checkWindows : Check Unit := do
  match (← get).windows with
  | .map _ => pure ()
  | _ => throw (.broken .windowsNotMapping)

/-- The log level is kept in upper case, also when it is none. -/
def checkLogLevel : Check Unit := do
  checkWritable (← get).logLevel
  let level := Text.upper (← get).logLevel.text
  modify ({ · with logLevel := .str level })
  if !logLevels.contains level then throw (.broken (.invalidLogLevel level))

def checkFormat : Check Unit := do
  if !(← get).defaultFormat.isWritable then throw (.broken .tooManyDigits)
  match ReportFormat.ofValue (← get).defaultFormat with
  | .ok _ => pure ()
  | .error error => throw (.broken (.invalidFormat error))

/-- The severity of failures is kept by its label. -/
def checkFailOn : Check Unit := do
  match (← get).failOn with
  | .null => pure ()
  | given =>
    match Severity.ofValue? given with
    | some severity => modify ({ · with failOn := .str severity.label })
    | none => do
      checkWritable given
      throw (.broken (.invalidFailOn given))

/-- The number of workers is a positive integer, if it is given. -/
def checkWorkers : Check Unit := do
  match (← get).maxWorkers with
  | .null => pure ()
  | given =>
    if !given.integer?.any (1 ≤ ·) then
      checkWritable given
      throw (.broken (.invalidWorkers given))

/-- A number of seconds that is not zero or less; a truth value is no number. -/
def isTimeout : Value → Bool
  | .int n => 0 < n
  | .float x => !(x ≤ 0)
  | _ => false

def checkTimeout : Check Unit := do
  let given := (← get).aiTimeout
  if !isTimeout given then
    checkWritable given
    throw (.broken (.invalidTimeout given))

def checkAll : Check Unit := do
  checkAnalyzers
  checkWindows
  checkLogLevel
  checkFormat
  checkFailOn
  checkWorkers
  checkTimeout

/-- Runs a check: what is wrong with the settings, if anything, and the settings as the check left them. -/
def runCheck (settings : Settings) (check : Check Unit) : Except SettingsFailure Unit × Settings :=
  (check.run).run settings

def validate (settings : Settings) : Except SettingsFailure Unit × Settings := settings.runCheck checkAll

end ContractAudit.Settings
