import ContractAudit.Settings.Validation

/-!
# Settings in use

Settings in use are an object of the program, and a file may name parts of that object which are no settings. It may
replace all values at once; the analyzers and their windows are then missing unless they are given anew, while the other
settings fall back to their defaults. It may also replace the list by which the settings are told. A file may moreover
make a setting and the mapping of all values one and the same object, by an anchor; that is left out: values are data
here, and a change to one of them reaches no other.
-/

namespace ContractAudit

structure Configuration where
  settings : Settings
  /-- The settings without a value. -/
  missing : List Setting
  /-- Every other setting has a default to fall back to. -/
  missing_subset : missing ⊆ [.enabledAnalyzers, .windows]
  /-- What stands in place of the list of settings, if anything. -/
  listing : Option Value

namespace Configuration

/-- The configuration with the given settings, all of which are told. -/
def ofSettings (settings : Settings) : Configuration where
  settings
  missing := []
  missing_subset := List.nil_subset _
  listing := none

/-- The configuration whose values are exactly those given. -/
def ofValues (values : List (Value × Value)) : Configuration where
  settings := Setting.all.foldl (fun settings setting ↦
    match Value.field? values setting.label with
    | some value => settings.withValue setting value
    | none => settings) {}
  missing := [Setting.enabledAnalyzers, .windows].filter fun setting ↦ (Value.field? values setting.label).isNone
  missing_subset := List.filter_sublist.subset
  listing := Value.field? values "__dataclass_fields__"

/-- The names of the object that are no settings and change something. -/
def partNames : List String := ["__class__", "__weakref__", "__dict__", "__dataclass_fields__"]

/-- Sets what a name stands for. Names that stand for nothing are ignored. -/
def assign (configuration : Configuration) (name : String) (value : Value) :
    Except SettingsFailure Configuration :=
  match Setting.ofLabel? name with
  | some setting =>
    .ok { configuration with
      settings := configuration.settings.withValue setting value
      missing := configuration.missing.filter (· != setting)
      missing_subset := List.Subset.trans List.filter_sublist.subset configuration.missing_subset }
  | none =>
    match name, value with
    | "__class__", _ => .error .wrongType
    | "__weakref__", _ => .error .lacking
    | "__dict__", .map values => .ok (ofValues (Value.map values).entries)
    | "__dict__", _ => .error .wrongType
    | "__dataclass_fields__", value => .ok { configuration with listing := some value }
    | _, _ => .ok configuration

/-- Whether an entry with this name sets something; a setting that is missing is not set. -/
def takes (configuration : Configuration) (name : String) : Bool :=
  match Setting.ofLabel? name with
  | some setting => !configuration.missing.contains setting
  | none => partNames.contains name

def enter (document : Value) (configuration : Configuration) (entry : Value × Value) :
    Except SettingsFailure Configuration :=
  match entry.1 with
  | .str name =>
    if configuration.takes name then configuration.assign name (document.unfold 0 entry.2) else .ok configuration
  | _ => .error .wrongType

/-- The configuration that a document describes. -/
def ofDocument : Value → Except SettingsFailure Configuration
  | .map entries => entries.foldlM (enter (.map entries)) (ofSettings {})
  | _ => .ok (ofSettings {})

/-- The settings, if none is missing. -/
def complete (configuration : Configuration) : Except SettingsFailure Settings :=
  if configuration.missing.isEmpty then .ok configuration.settings else .error .lacking

/-- Checks the settings: what is wrong with them, if anything, and the configuration as the check left it. -/
def validate (configuration : Configuration) : Except SettingsFailure Unit × Configuration :=
  if configuration.missing.contains .enabledAnalyzers then (.error .lacking, configuration)
  else if configuration.missing.contains .windows then
    ((configuration.settings.runCheck Settings.checkAnalyzers).1.bind fun _ ↦ .error .lacking, configuration)
  else
    let (verdict, settings) := configuration.settings.validate
    (verdict, { configuration with settings })

/-- The value of a setting as it is told: values that contain themselves cannot be. -/
def told (configuration : Configuration) (setting : Setting) : Except SettingsFailure (Value × Value) :=
  let value := configuration.settings.value setting
  if configuration.missing.contains setting then .error .lacking
  else if value.isCyclic then .error .endless
  else .ok (.str setting.label, value)

def toValue (configuration : Configuration) : Except SettingsFailure Value :=
  match configuration.listing with
  | none => do return .map (← Setting.all.mapM configuration.told)
  | some (.map []) => .ok (.map [])
  | some _ => .error .lacking

end Configuration

end ContractAudit
