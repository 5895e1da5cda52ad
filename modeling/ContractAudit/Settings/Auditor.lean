import ContractAudit.Audit
import ContractAudit.Disk
import ContractAudit.Settings.Validation

/-!
# What settings configure

The registry, the auditor and the directory of reports that settings describe.
-/

namespace ContractAudit.Settings

def analyzerSettings (settings : Settings) (name : String) : Except SettingsFailure SettingsTable :=
  match settings.windows with
  | .map windows =>
    match Value.field (Value.map windows).entries name with
    | .map entries => .ok (Value.map entries).entries
    | other => if other.truthy then .error (.broken (.analyzerNotMapping name)) else .ok []
  | _ => .error .lacking

/-- The analyzer that a member of the enabled ones names, with its settings. -/
def analyzer (settings : Settings) (name : Value) : Except SettingsFailure Analyzer := do
  if !name.hashable then throw .wrongType
  let .str label := name | throw (.broken (.unknownAnalyzer name))
  let some key := BuiltIn.ofLabel? label | throw (.broken (.unknownAnalyzer name))
  let table ← settings.analyzerSettings label
  match key.make table with
  | .ok analyzer => pure analyzer
  | .error fault => throw (.broken (.analyzerSettings label fault))

/-- The enabled analyzers in their order. -/
def registry (settings : Settings) : Except SettingsFailure Registry := do
  let some names := members? settings.enabledAnalyzers | throw .wrongType
  names.mapM settings.analyzer

/-- Whether analyzers run side by side; what is asked for comes before what is set. -/
def parallel (settings : Settings) (asked : Option Value) : Value := asked.getD settings.parallelAnalysis

/-- The auditor that the settings describe, without a language model and without a store. -/
def auditor (settings : Settings) (asked : Option Value) : Except SettingsFailure Auditor := do
  let registry ← settings.registry
  pure { registry, schedule := ⟨(settings.parallel asked).truthy, settings.maxWorkers⟩ }

def reportsPath (settings : Settings) (surroundings : Surroundings) : Except SettingsFailure Path :=
  match settings.reportsDir with
  | .str text =>
    match surroundings.expandHome? (Path.ofString text) with
    | some path =>
      if path.toString.toList.contains '\x00' then .error (.disk ⟨.nullCharacter, path⟩)
      else (surroundings.resolve path).mapError .disk
    | none => .error .unknownHome
  | _ => .error .wrongType

end ContractAudit.Settings
