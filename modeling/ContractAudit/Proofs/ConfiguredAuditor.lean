import ContractAudit.Proofs.SettingsChecks
import ContractAudit.Settings.Auditor
import Mathlib.Data.List.Forall2

/-!
# What valid settings configure

The registry that settings describe has the enabled analyzers in their order, each with the windows given for it. An
auditor takes the built-in registry in place of an empty one, so the selection is what runs unless nothing is selected.
Of all that is made from valid settings, only the directory of reports can fail without a report: it is never checked.
-/

namespace ContractAudit

/-! ## Analyzers made from their settings -/

namespace BuiltIn

variable {key : BuiltIn} {table : SettingsTable}

def windowNames (key : BuiltIn) : List String := key.default.windows.map (·.1)

theorem checkNames_eq_ok_iff (kind : String) {names : List String} (hself : "self" ∉ names) :
    checkNames kind names table = .ok () ↔ ∀ entry ∈ table, ∃ name ∈ names, entry.1 = .str name := by
  induction table with
  | nil => exact iff_of_true rfl nofun
  | cons entry rest ih =>
    obtain ⟨given, value⟩ := entry
    rw [List.forall_mem_cons, ← ih]
    cases given with
    | str name =>
      by_cases hname : name ∈ names
      · have hreserved : name ≠ "self" := fun h ↦ hself (h ▸ hname)
        simp [checkNames, hreserved, hname]
      · rw [checkNames]
        refine iff_of_false ?_ ?_
        · split
          · exact nofun
          · simp [hname]
        · rintro ⟨⟨other, hother, heq⟩, -⟩
          cases heq
          exact hname hother
    | _ => exact iff_of_false nofun (by simp)

theorem windowNames_of_accepted (key : BuiltIn) :
    (key.accepted = none → key.windowNames = []) ∧
      ∀ names, key.accepted = some names → key.windowNames = names ∧ "self" ∉ names := by
  refine ⟨by cases key <;> decide, fun names hnames ↦ ?_⟩
  cases key <;> cases hnames <;> decide

/-- An analyzer takes settings if each of them is one of its windows. -/
theorem checkSettings_eq_ok_iff :
    key.checkSettings table = .ok () ↔ ∀ entry ∈ table, ∃ name ∈ key.windowNames, entry.1 = .str name := by
  unfold checkSettings
  cases haccepted : key.accepted with
  | none =>
    rw [key.windowNames_of_accepted.1 haccepted]
    cases table with
    | nil => exact iff_of_true rfl nofun
    | cons entry rest =>
      refine iff_of_false nofun fun h ↦ ?_
      obtain ⟨name, hname, -⟩ := h entry List.mem_cons_self
      cases hname
  | some names =>
    obtain ⟨hnames, hself⟩ := key.windowNames_of_accepted.2 names haccepted
    dsimp only
    rw [hnames, ← checkNames_eq_ok_iff key.default.kind hself]
    split
    · rfl
    · next hkeys =>
      refine iff_of_false nofun fun h ↦ hkeys (List.all_eq_true.mpr fun entry hentry ↦ ?_)
      obtain ⟨name, -, hname⟩ := (checkNames_eq_ok_iff key.default.kind hself).mp h entry hentry
      obtain ⟨given, value⟩ := entry
      cases hname
      rfl

/-- An analyzer takes exactly the windows that it has. -/
theorem make_eq_ok_iff {analyzer : Analyzer} :
    key.make table = .ok analyzer ↔
      (∀ entry ∈ table, ∃ name ∈ key.windowNames, entry.1 = .str name) ∧ analyzer = key.withWindows table := by
  unfold make
  rw [bind_eq_ok_iff, ← checkSettings_eq_ok_iff]
  constructor
  · rintro ⟨_, hchecked, hmade⟩
    exact ⟨hchecked, (Except.ok.inj hmade).symm⟩
  · rintro ⟨hchecked, rfl⟩
    exact ⟨_, hchecked, rfl⟩

/-- Settings change the windows of an analyzer and nothing else that it shows. -/
theorem withWindows_shows (key : BuiltIn) (table : SettingsTable) :
    (key.withWindows table).kind = key.default.kind ∧ (key.withWindows table).name = key.default.name ∧
      (key.withWindows table).windows =
        key.default.windows.map fun window ↦ (window.1, (Value.field? table window.1).getD window.2) := by
  cases key <;> exact ⟨rfl, rfl, rfl⟩

end BuiltIn

namespace Settings

variable {settings : Settings}

/-- The windows that are given for an analyzer. -/
def windowsFor (settings : Settings) (label : String) : SettingsTable :=
  (Value.field settings.windows.entries label).entries

/-- The analyzer is the built-in one with this key, with the windows given for it and the default ones otherwise. No
other setting is given for it. -/
structure Describes (settings : Settings) (key : BuiltIn) (analyzer : Analyzer) : Prop where
  made : analyzer = key.withWindows (settings.windowsFor key.label)
  kind : analyzer.kind = key.default.kind
  name : analyzer.name = key.default.name
  windows : analyzer.windows = key.default.windows.map fun window ↦
    (window.1, (Value.field? (settings.windowsFor key.label) window.1).getD window.2)
  all_used : ∀ entry ∈ settings.windowsFor key.label, ∃ window ∈ analyzer.windows, entry.1 = .str window.1

/-- The registry has the analyzers with these names, in this order. -/
def Selects (settings : Settings) : List Value → Registry → Prop :=
  List.Forall₂ fun name analyzer ↦ ∃ key : BuiltIn, name = .str key.label ∧ settings.Describes key analyzer

/-- What does not count as present gives no windows; what does has to be a mapping. -/
theorem analyzerSettings_of_mappedWindows (h : settings.MappedWindows) (label : String) :
    settings.analyzerSettings label = .ok (settings.windowsFor label) ∨
      settings.analyzerSettings label = .error (.broken (.analyzerNotMapping label)) := by
  obtain ⟨windows, hwindows⟩ := h
  unfold analyzerSettings windowsFor
  rw [hwindows]
  dsimp only
  cases Value.field (Value.map windows).entries label with
  | map entries => exact Or.inl rfl
  | _ =>
    dsimp only
    split
    · exact Or.inr rfl
    · exact Or.inl rfl

theorem analyzerSettings_of_not_mappedWindows (h : ¬ settings.MappedWindows) (label : String) :
    settings.analyzerSettings label = .error .lacking := by
  unfold analyzerSettings
  cases hwindows : settings.windows with
  | map windows => exact absurd ⟨windows, hwindows⟩ h
  | _ => rfl

theorem analyzerSettings_eq_ok {label : String} {table : SettingsTable}
    (h : settings.analyzerSettings label = .ok table) : table = settings.windowsFor label := by
  by_cases hwindows : settings.MappedWindows
  · rcases analyzerSettings_of_mappedWindows hwindows label with hok | herror
    · exact Except.ok.inj (h.symm.trans hok)
    · rw [herror] at h
      cases h
  · rw [analyzerSettings_of_not_mappedWindows hwindows] at h
    cases h

/-- The analyzer that a known name stands for is made from the settings under that name. -/
theorem analyzer_label (settings : Settings) (key : BuiltIn) :
    settings.analyzer (.str key.label) = settings.analyzerSettings key.label >>= fun table ↦
      (key.make table).mapError fun fault ↦ .broken (.analyzerSettings key.label fault) := by
  unfold analyzer
  simp only [Value.hashable, ofLabel?_label]
  cases settings.analyzerSettings key.label with
  | error failure => rfl
  | ok table =>
    dsimp only [bind, Except.bind]
    cases key.make table <;> rfl

theorem not_returns_analyzer {name : Value} (h : isBuiltIn name = false) : ¬ Returns (settings.analyzer name) := by
  unfold analyzer
  cases name with
  | str label =>
    have hnone : BuiltIn.ofLabel? label = none := Option.isNone_iff_eq_none.mp (Option.isSome_eq_false_iff.mp h)
    simp only [hnone, Value.hashable]
    exact not_returns_error _
  | _ => simp [Value.hashable, bind, Except.bind, throw, throwThe, MonadExceptOf.throw]

/-- An analyzer that is made is the one that its name and the windows describe. -/
theorem analyzer_eq_ok {name : Value} {analyzer : Analyzer} (h : settings.analyzer name = .ok analyzer) :
    ∃ key : BuiltIn, name = .str key.label ∧ settings.Describes key analyzer := by
  cases hname : isBuiltIn name with
  | false => exact absurd ⟨analyzer, h⟩ (not_returns_analyzer hname)
  | true =>
    obtain ⟨key, rfl⟩ := isBuiltIn_iff.mp hname
    refine ⟨key, rfl, ?_⟩
    rw [analyzer_label] at h
    obtain ⟨table, htable, hmade⟩ := bind_eq_ok_iff.mp h
    obtain ⟨hused, hanalyzer⟩ := BuiltIn.make_eq_ok_iff.mp (mapError_eq_ok_iff.mp hmade)
    obtain rfl := analyzerSettings_eq_ok htable
    obtain ⟨hkind, hshown, hwindows⟩ := key.withWindows_shows (settings.windowsFor key.label)
    refine ⟨hanalyzer, hanalyzer ▸ hkind, hanalyzer ▸ hshown, hanalyzer ▸ hwindows, fun entry hentry ↦ ?_⟩
    obtain ⟨name, hname, hkey⟩ := hused entry hentry
    obtain ⟨window, hwindow, rfl⟩ := List.mem_map.mp hname
    refine ⟨(window.1, (Value.field? (settings.windowsFor key.label) window.1).getD window.2), ?_, hkey⟩
    rw [hanalyzer, hwindows]
    exact List.mem_map_of_mem hwindow

/-! ## The registry in use -/

/-- A registry that could be made has the selected analyzers in their order. -/
theorem selects_of_registry_eq_ok {names : List Value} {registry : Registry}
    (hnames : settings.enabledAnalyzers = .list names) (h : settings.registry = .ok registry) :
    settings.Selects names registry := by
  have hmade : names.mapM settings.analyzer = .ok registry := by
    rw [← h]
    unfold Settings.registry
    rw [hnames]
    rfl
  exact (forall₂_of_mapM_eq_ok hmade).imp fun _ _ ↦ analyzer_eq_ok

/-- The selection is what runs unless it is empty. The auditor that settings describe uses the selected analyzers, in
their order and each with the windows given for it, exactly if there is one. Without any it uses all built-in ones. -/
theorem selection_runs_unless_empty {names : List Value} {registry : Registry} (asked : Option Value)
    (hnames : settings.enabledAnalyzers = .list names) (hregistry : settings.registry = .ok registry) :
    ∃ auditor, settings.auditor asked = .ok auditor ∧
      (settings.Selects names auditor.registry.orDefault ↔ names ≠ []) ∧
      (names = [] → auditor.registry.orDefault = .default) := by
  have hselects := selects_of_registry_eq_ok hnames hregistry
  refine ⟨{ registry, schedule := ⟨(settings.parallel asked).truthy, settings.maxWorkers⟩ }, ?_, ?_, ?_⟩
  · unfold auditor
    rw [hregistry]
    rfl
  · dsimp only
    constructor
    · rintro hdefault rfl
      obtain rfl := List.forall₂_nil_left_iff.mp hselects
      cases hdefault
    · intro hsome
      have hregistrySome : registry ≠ [] := fun hempty ↦
        hsome (List.forall₂_nil_right_iff.mp (hempty ▸ hselects))
      rw [Registry.orDefault, List.isEmpty_eq_false_iff.mpr hregistrySome]
      exact hselects
  · rintro rfl
    obtain rfl := List.forall₂_nil_left_iff.mp hselects
    rfl

def windowedSelection : Settings where
  enabledAnalyzers := .list [.str "unchecked_call", .str "access_control", .str "unchecked_call"]
  windows := .map [(.str "access_control", .map [(.str "lookahead", .int 3)]),
    (.str "unchecked_call", .map [(.str "lookback", .int 1)])]

theorem selection_runs_unless_empty_windowed :
    ∃ registry auditor, windowedSelection.registry = .ok registry ∧ windowedSelection.auditor none = .ok auditor ∧
      windowedSelection.Selects [.str "unchecked_call", .str "access_control", .str "unchecked_call"]
        auditor.registry.orDefault := by
  have hregistry : Returns windowedSelection.registry := ⟨_, rfl⟩
  obtain ⟨registry, hregistry⟩ := hregistry
  obtain ⟨auditor, hauditor, hselects, -⟩ := selection_runs_unless_empty none rfl hregistry
  exact ⟨registry, auditor, hregistry, hauditor, hselects.mpr (by simp)⟩

def emptySelection : Settings := { enabledAnalyzers := .list [] }

theorem acceptable_emptySelection : emptySelection.Acceptable :=
  { acceptable_default with analyzers := ⟨[], rfl, List.forall_mem_nil _⟩ }

/-- Settings that enable nothing are valid and describe an empty registry. What runs is every built-in analyzer. -/
theorem empty_selection_runs_all :
    ∃ checked auditor, emptySelection.validate = (.ok (), checked) ∧ checked.enabledAnalyzers = .list [] ∧
      checked.registry = .ok [] ∧ checked.auditor none = .ok auditor ∧
      auditor.registry.orDefault.length = 8 ∧ ¬ checked.Selects [] auditor.registry.orDefault :=
  ⟨_, _, validate_eq_ok_iff.mpr ⟨acceptable_emptySelection, rfl⟩, rfl, rfl, rfl, rfl, nofun⟩

/-! ## Everything made from valid settings -/

theorem reported_analyzerSettings (h : settings.MappedWindows) (label : String) :
    Reported (settings.analyzerSettings label) := by
  rcases analyzerSettings_of_mappedWindows h label with hok | herror
  · rw [hok]
    trivial
  · rw [herror]
    trivial

theorem reported_analyzer (h : settings.MappedWindows) (key : BuiltIn) :
    Reported (settings.analyzer (.str key.label)) := by
  rw [analyzer_label, reported_bind]
  refine ⟨reported_analyzerSettings h key.label, fun table _ ↦ ?_⟩
  cases key.make table <;> trivial

/-- Making the registry of acceptable settings ends with it or with a report. -/
theorem Acceptable.reported_registry (h : settings.Acceptable) : Reported settings.registry := by
  obtain ⟨names, hnames, hknown⟩ := h.analyzers
  unfold registry
  rw [hnames]
  apply reported_mapM
  intro name hname
  obtain ⟨key, rfl⟩ := hknown name hname
  exact reported_analyzer h.windows key

/-- The text names a path that can be resolved. The home directory in front is known, no null character is in it, and
the system finds what it stands for. -/
def Resolvable (surroundings : Surroundings) (text : String) : Prop :=
  ∃ path, surroundings.expandHome? (Path.ofString text) = some path ∧ '\x00' ∉ path.toString.toList ∧
    Returns (surroundings.resolve path)

/-- The directory of reports is found exactly if it is a text whose path can be resolved. -/
theorem returns_reportsPath_iff {surroundings : Surroundings} :
    Returns (settings.reportsPath surroundings) ↔
      ∃ text, settings.reportsDir = .str text ∧ Resolvable surroundings text := by
  unfold reportsPath Resolvable
  cases settings.reportsDir with
  | str text =>
    simp only [Value.str.injEq, exists_eq_left']
    cases surroundings.expandHome? (Path.ofString text) with
    | none => simp
    | some path =>
      simp only [Option.some.injEq, exists_eq_left', List.contains_iff_mem]
      by_cases hnull : '\x00' ∈ path.toString.toList
      · simp [hnull]
      · simp [hnull, returns_mapError]
  | _ => simp

/-- No rule is about the directory of reports. -/
theorem returns_of_reported_reportsPath {surroundings : Surroundings}
    (h : Reported (settings.reportsPath surroundings)) :
    Returns (settings.reportsPath surroundings) := by
  unfold reportsPath at h ⊢
  split at h
  · split at h
    · split at h
      · exact absurd h id
      · next path _ hnull =>
        rw [if_neg hnull]
        cases hresolved : surroundings.resolve path with
        | ok resolved => exact returns_ok resolved
        | error error =>
          rw [hresolved] at h
          exact absurd h id
    · exact absurd h id
  · exact absurd h id

end Settings

/-- Valid settings can be used. Whatever is made from them is there, or it is reported which rule they break, with one
exception. The directory of reports is there exactly if it is a text with a path that can be resolved, and otherwise
nothing is reported. -/
theorem Configuration.valid_usable {configuration checked : Configuration} (surroundings : Surroundings)
    (h : configuration.validate = (.ok (), checked)) :
    Reported checked.settings.registry ∧
      (∀ name, Reported (checked.settings.analyzerSettings name)) ∧
      Returns (ReportFormat.ofValue checked.settings.defaultFormat) ∧
      (checked.settings.failOn ≠ .null → ∃ severity, Severity.ofValue? checked.settings.failOn = some severity) ∧
      (Returns (checked.settings.reportsPath surroundings) ↔
        ∃ text, checked.settings.reportsDir = .str text ∧ Settings.Resolvable surroundings text) ∧
      (¬ Returns (checked.settings.reportsPath surroundings) →
        ¬ Reported (checked.settings.reportsPath surroundings)) := by
  obtain ⟨-, hsettings, rfl⟩ := Configuration.validate_eq_ok_iff.mp h
  have hacceptable := hsettings.normalised
  exact ⟨hacceptable.reported_registry, Settings.reported_analyzerSettings hacceptable.windows, hacceptable.format.2,
    hacceptable.failOn.resolve_left, Settings.returns_reportsPath_iff, mt Settings.returns_of_reported_reportsPath⟩

def Configuration.unknownWindow : Configuration :=
  ofSettings
    { windows := .map [(.str "gas", .map [(.str "lookahead", .int 1)])]
      failOn := .str "high"
      logLevel := .str "debug" }

theorem Configuration.valid_usable_unknownWindow :
    ∃ checked, unknownWindow.validate = (.ok (), checked) ∧ Reported checked.settings.registry ∧
      ¬ Returns checked.settings.registry ∧
      (Returns (checked.settings.reportsPath .bare) ↔ Settings.Resolvable .bare "./reports") := by
  have hacceptable : unknownWindow.settings.Acceptable :=
    { Settings.acceptable_default with
      windows := ⟨_, rfl⟩
      logLevel := ⟨rfl, by decide⟩
      failOn := Or.inr ⟨.high, by decide⟩ }
  have hvalid := Configuration.validate_eq_ok_iff.mpr ⟨⟨by decide, by decide⟩, hacceptable, rfl⟩
  obtain ⟨hregistry, -, -, -, hpath, -⟩ := valid_usable .bare hvalid
  refine ⟨_, hvalid, hregistry, not_returns_error _, hpath.trans ⟨?_, fun h ↦ ⟨_, rfl, h⟩⟩⟩
  rintro ⟨_, ⟨⟩, h⟩
  exact h

def Configuration.numberedDirectory : Configuration := ofSettings { reportsDir := .int 5 }

/-- Settings whose directory of reports is a number are valid, and that directory is not reported. -/
theorem Configuration.numberedDirectory_not_reported :
    ∃ checked, numberedDirectory.validate = (.ok (), checked) ∧ ¬ Reported (checked.settings.reportsPath .bare) := by
  have hacceptable : numberedDirectory.settings.Acceptable := { Settings.acceptable_default with }
  exact ⟨_, Configuration.validate_eq_ok_iff.mpr ⟨⟨by decide, by decide⟩, hacceptable, rfl⟩, id⟩

end ContractAudit
