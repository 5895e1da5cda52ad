import ContractAudit.Catalogue
import ContractAudit.Disk
import ContractAudit.Library
import ContractAudit.Report.Format

/-!
# Settings

Settings come from a file that anybody may have written, so each of them holds an untyped value until it is checked.
A setting is named in files by its label.
-/

namespace ContractAudit

inductive Setting where
  | enabledAnalyzers
  | windows
  | parallelAnalysis
  | maxWorkers
  | defaultFormat
  | reportsDir
  | failOn
  | aiTimeout
  | logLevel
deriving DecidableEq, Repr

namespace Setting

def all : List Setting :=
  [enabledAnalyzers, windows, parallelAnalysis, maxWorkers, defaultFormat, reportsDir, failOn, aiTimeout, logLevel]

def label : Setting → String
  | enabledAnalyzers => "enabled_analyzers"
  | windows => "windows"
  | parallelAnalysis => "parallel_analysis"
  | maxWorkers => "max_workers"
  | defaultFormat => "default_format"
  | reportsDir => "reports_dir"
  | failOn => "fail_on"
  | aiTimeout => "ai_timeout"
  | logLevel => "log_level"

def ofLabel? (label : String) : Option Setting := all.find? (·.label == label)

@[simp] theorem ofLabel?_label (setting : Setting) : ofLabel? setting.label = some setting := by
  cases setting <;> decide

end Setting

structure Settings where
  /-- The analyzers to run, in order. -/
  enabledAnalyzers : Value := .list (BuiltIn.all.map fun key ↦ .str key.label)
  /-- The settings of single analyzers. -/
  windows : Value := .map []
  parallelAnalysis : Value := .bool false
  maxWorkers : Value := .null
  defaultFormat : Value := .str "markdown"
  reportsDir : Value := .str "./reports"
  /-- The severity from which on a report counts as a failure. -/
  failOn : Value := .null
  /-- How many seconds the language model may take. -/
  aiTimeout : Value := .float 120.0
  logLevel : Value := .str "INFO"
deriving Inhabited

namespace Settings

def value (settings : Settings) : Setting → Value
  | .enabledAnalyzers => settings.enabledAnalyzers
  | .windows => settings.windows
  | .parallelAnalysis => settings.parallelAnalysis
  | .maxWorkers => settings.maxWorkers
  | .defaultFormat => settings.defaultFormat
  | .reportsDir => settings.reportsDir
  | .failOn => settings.failOn
  | .aiTimeout => settings.aiTimeout
  | .logLevel => settings.logLevel

def withValue (settings : Settings) (setting : Setting) (value : Value) : Settings :=
  match setting with
  | .enabledAnalyzers => { settings with enabledAnalyzers := value }
  | .windows => { settings with windows := value }
  | .parallelAnalysis => { settings with parallelAnalysis := value }
  | .maxWorkers => { settings with maxWorkers := value }
  | .defaultFormat => { settings with defaultFormat := value }
  | .reportsDir => { settings with reportsDir := value }
  | .failOn => { settings with failOn := value }
  | .aiTimeout => { settings with aiTimeout := value }
  | .logLevel => { settings with logLevel := value }

/-- A setting that was set has its value, and every other one keeps its own. -/
theorem value_withValue (settings : Settings) (setting other : Setting) (value : Value) :
    (settings.withValue setting value).value other = if other = setting then value else settings.value other := by
  cases setting <;> cases other <;> rfl

def toValue (settings : Settings) : Value :=
  .map (Setting.all.map fun setting ↦ (.str setting.label, settings.value setting))

end Settings

inductive SettingsError where
  | unknownAnalyzers (names : List String)
  | windowsNotMapping
  | invalidLogLevel (level : String)
  | invalidFormat (error : UnsupportedFormat)
  /-- An integer is too long to be written. -/
  | tooManyDigits
  | invalidFailOn (given : Value)
  | invalidWorkers (given : Value)
  | invalidTimeout (given : Value)
  | unknownAnalyzer (name : Value)
  | analyzerNotMapping (name : String)
  | analyzerSettings (name : String) (fault : SettingsFault)

def SettingsError.message : SettingsError → String
  | unknownAnalyzers names =>
    "Unknown analyzer(s) " ++ ", ".intercalate names ++ "; available: "
      ++ ", ".intercalate (BuiltIn.all.map BuiltIn.label)
  | windowsNotMapping => "'windows' must be a mapping of analyzer name to settings"
  | invalidLogLevel level => "Invalid log_level: " ++ level
  | invalidFormat error => error.message
  | tooManyDigits =>
    "Exceeds the limit (4300 digits) for integer string conversion; "
      ++ "use sys.set_int_max_str_digits() to increase the limit"
  | invalidFailOn given => "Invalid fail_on: " ++ given.text
  | invalidWorkers given => "max_workers must be a positive integer, got " ++ given.quoted
  | invalidTimeout given => "ai_timeout must be a positive number of seconds, got " ++ given.quoted
  | unknownAnalyzer name => "Unknown analyzer: " ++ name.text
  | analyzerNotMapping name => "Settings for analyzer '" ++ name ++ "' must be a mapping"
  | analyzerSettings name fault => "Invalid settings for analyzer '" ++ name ++ "': " ++ fault.message

/-- Why settings cannot be used: they break a rule, or a value is of a type that cannot even be looked at. -/
inductive SettingsFailure where
  | broken (error : SettingsError)
  /-- A value has a type that an operation on it does not take. -/
  | wrongType
  /-- A value lacks what is asked of it. -/
  | lacking
  /-- The file is not a text. -/
  | undecodable
  /-- A document or a text has something that its library does not expect. -/
  | library (error : LibraryError)
  /-- An integer is too long to be written. -/
  | tooLong
  /-- A value contains itself, so it cannot be listed. -/
  | endless
  /-- A file cannot be looked for or written, or a path cannot be resolved. -/
  | disk (error : DiskError)
  /-- The home directory of a named user is not known. -/
  | unknownHome

end ContractAudit
