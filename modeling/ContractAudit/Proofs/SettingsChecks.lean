import ContractAudit.Proofs.Returns
import ContractAudit.Settings.Configuration

/-!
# What the checks of settings accept

A check passes some settings, possibly in another form, reports which rule others break, and stops at values that it
cannot look at without a report. One law says all of this for a check, and how the laws of two checks make the law of
both in a row. The law of the whole check gives the settings that are accepted and the form in which they are left.
-/

namespace ContractAudit

/-- The attempt returns, or it reports which rule of settings is broken. -/
def Reported {α : Type} : Except SettingsFailure α → Prop
  | .ok _ => True
  | .error (.broken _) => True
  | .error _ => False

variable {α β : Type}

instance (attempt : Except SettingsFailure α) : Decidable (Reported attempt) :=
  match attempt with
  | .ok _ => isTrue trivial
  | .error (.broken _) => isTrue trivial
  | .error .wrongType => isFalse id
  | .error .lacking => isFalse id
  | .error .undecodable => isFalse id
  | .error (.library _) => isFalse id
  | .error .tooLong => isFalse id
  | .error .endless => isFalse id
  | .error (.disk _) => isFalse id
  | .error .unknownHome => isFalse id

/-- Two steps report what is wrong exactly when the first does, and the second does after every result of it. -/
theorem reported_bind {attempt : Except SettingsFailure α} {next : α → Except SettingsFailure β} :
    Reported (attempt >>= next) ↔ Reported attempt ∧ ∀ value, attempt = .ok value → Reported (next value) := by
  cases attempt with
  | error failure =>
    constructor
    · intro h
      exact ⟨by cases failure <;> exact h, fun _ hvalue ↦ by cases hvalue⟩
    · rintro ⟨h, -⟩
      cases failure <;> exact h
  | ok value =>
    constructor
    · intro h
      refine ⟨trivial, ?_⟩
      rintro _ ⟨⟩
      exact h
    · rintro ⟨-, h⟩
      exact h value rfl

/-- Steps that each return or report do so one after the other. -/
theorem reported_mapM {step : α → Except SettingsFailure β} {items : List α}
    (h : ∀ item ∈ items, Reported (step item)) : Reported (items.mapM step) := by
  induction items with
  | nil => trivial
  | cons item rest ih =>
    obtain ⟨hitem, hrest⟩ := List.forall_mem_cons.mp h
    rw [List.mapM_cons, reported_bind]
    refine ⟨hitem, fun value _ ↦ ?_⟩
    rw [reported_bind]
    exact ⟨ih hrest, fun _ _ ↦ trivial⟩

namespace Settings

/-! ## Checks in a row -/

/-- What a check does: the settings that it passes, those on which it stops with nothing but a report, and what it makes
of the settings that it passes. -/
structure Settles (check : Check Unit) (passes judges : Settings → Prop) (after : Settings → Settings) : Prop where
  passes_iff : ∀ settings, (settings.runCheck check).1 = .ok () ↔ passes settings
  reported_iff : ∀ settings, Reported (settings.runCheck check).1 ↔ judges settings
  left : ∀ settings, passes settings → (settings.runCheck check).2 = after settings

variable {check next : Check Unit} {passes judges passes' judges' : Settings → Prop}
  {after after' : Settings → Settings}
  {settings left : Settings}

/-- A check that passes, reports or stops, each under its condition. -/
theorem settles_of_cases (hjudges : ∀ settings, passes settings → judges settings)
    (hcases : ∀ settings,
      (passes settings ∧ settings.runCheck check = (.ok (), after settings)) ∨
        (¬ passes settings ∧ judges settings ∧ ∃ error left, settings.runCheck check = (.error (.broken error), left)) ∨
        (¬ judges settings ∧ ∃ failure left, settings.runCheck check = (.error failure, left) ∧
          ¬ Reported (.error failure : Except SettingsFailure Unit))) :
    Settles check passes judges after := by
  constructor
  · intro settings
    rcases hcases settings with ⟨hpasses, hrun⟩ | ⟨hfails, -, error, left, hrun⟩ | ⟨hstops, failure, left, hrun, -⟩
    · rw [hrun]
      exact iff_of_true rfl hpasses
    · rw [hrun]
      exact iff_of_false nofun hfails
    · rw [hrun]
      exact iff_of_false nofun fun hpasses ↦ hstops (hjudges settings hpasses)
  · intro settings
    rcases hcases settings with ⟨hpasses, hrun⟩ | ⟨-, hjudged, error, left, hrun⟩ | ⟨hstops, failure, left, hrun, hnot⟩
    · rw [hrun]
      exact iff_of_true trivial (hjudges settings hpasses)
    · rw [hrun]
      exact iff_of_true trivial hjudged
    · rw [hrun]
      exact iff_of_false hnot hstops
  · intro settings hpasses
    rcases hcases settings with ⟨-, hrun⟩ | ⟨hfails, -⟩ | ⟨hstops, -⟩
    · rw [hrun]
    · exact absurd hpasses hfails
    · exact absurd (hjudges settings hpasses) hstops

@[simp] theorem runCheck_get_bind (settings : Settings) (next : Settings → Check Unit) :
    settings.runCheck (get >>= next) = settings.runCheck (next settings) := rfl

@[simp] theorem runCheck_modify_bind (settings : Settings) (change : Settings → Settings) (next : Unit → Check Unit) :
    settings.runCheck (modify change >>= next) = (change settings).runCheck (next ()) := rfl

@[simp] theorem runCheck_modify (settings : Settings) (change : Settings → Settings) :
    settings.runCheck (modify change) = (.ok (), change settings) := rfl

@[simp] theorem runCheck_pure (settings : Settings) : settings.runCheck (pure ()) = (.ok (), settings) := rfl

@[simp] theorem runCheck_throw (settings : Settings) (failure : SettingsFailure) :
    settings.runCheck (throw failure) = (.error failure, settings) := rfl

@[simp] theorem runCheck_throw_bind (settings : Settings) (failure : SettingsFailure) (next : Unit → Check Unit) :
    settings.runCheck (throw failure >>= next) = (.error failure, settings) := rfl

theorem runCheck_andThen_of_ok (h : settings.runCheck check = (.ok (), left)) :
    settings.runCheck (check >>= fun _ ↦ next) = left.runCheck next := by
  have hrun : StateT.run (ExceptT.run check) settings = (.ok (), left) := h
  simp only [runCheck, ExceptT.run_bind, StateT.run_bind, hrun]
  rfl

theorem runCheck_andThen_of_error {failure : SettingsFailure} (h : settings.runCheck check = (.error failure, left)) :
    settings.runCheck (check >>= fun _ ↦ next) = (.error failure, left) := by
  have hrun : StateT.run (ExceptT.run check) settings = (.error failure, left) := h
  simp only [runCheck, ExceptT.run_bind, StateT.run_bind, hrun]
  rfl

/-- The second of two checks sees only settings that the first one passes, as that one leaves them. -/
theorem Settles.andThen (first : Settles check passes judges after) (second : Settles next passes' judges' after') :
    Settles (check >>= fun _ ↦ next) (fun settings ↦ passes settings ∧ passes' (after settings))
      (fun settings ↦ judges settings ∧ (passes settings → judges' (after settings)))
      fun settings ↦ after' (after settings) := by
  have hpassed (settings : Settings) (hpasses : passes settings) :
      settings.runCheck (check >>= fun _ ↦ next) = (after settings).runCheck next :=
    runCheck_andThen_of_ok (Prod.ext ((first.passes_iff settings).mpr hpasses) (first.left settings hpasses))
  have hfailed (settings : Settings) (hfails : ¬ passes settings) :
      settings.runCheck (check >>= fun _ ↦ next) = settings.runCheck check := by
    rcases hrun : settings.runCheck check with ⟨verdict, left⟩
    cases verdict with
    | ok _ => exact absurd ((first.passes_iff settings).mp (congrArg Prod.fst hrun)) hfails
    | error failure => exact runCheck_andThen_of_error hrun
  constructor
  · intro settings
    by_cases hpasses : passes settings
    · rw [hpassed settings hpasses, second.passes_iff, and_iff_right hpasses]
    · rw [hfailed settings hpasses, first.passes_iff]
      exact iff_of_false hpasses fun h ↦ hpasses h.1
  · intro settings
    by_cases hpasses : passes settings
    · have hjudges : judges settings := by
        rw [← first.reported_iff settings, (first.passes_iff settings).mpr hpasses]
        trivial
      rw [hpassed settings hpasses, second.reported_iff, and_iff_right hjudges, forall_prop_of_true hpasses]
    · rw [hfailed settings hpasses, first.reported_iff, and_iff_left fun h ↦ absurd h hpasses]
  · rintro settings ⟨hpasses, hnext⟩
    rw [hpassed settings hpasses, second.left _ hnext]

/-! ## The single checks -/

def KnownAnalyzers (settings : Settings) : Prop :=
  ∃ names, members? settings.enabledAnalyzers = some names ∧ ∀ name ∈ names, ∃ key : BuiltIn, name = .str key.label

def NamedAnalyzers (settings : Settings) : Prop :=
  ∃ names, members? settings.enabledAnalyzers = some names ∧ ∀ name ∈ names, ∃ text, name = .str text

def MappedWindows (settings : Settings) : Prop := ∃ entries, settings.windows = .map entries

def KnownLogLevel (settings : Settings) : Prop :=
  settings.logLevel.isWritable = true ∧ Text.upper settings.logLevel.text ∈ logLevels

def KnownFormat (settings : Settings) : Prop :=
  settings.defaultFormat.isWritable = true ∧ ∃ format, ReportFormat.ofValue settings.defaultFormat = .ok format

def KnownFailOn (settings : Settings) : Prop :=
  settings.failOn = .null ∨ ∃ severity, Severity.ofValue? settings.failOn = some severity

def PositiveWorkers (settings : Settings) : Prop :=
  settings.maxWorkers = .null ∨ ∃ count, settings.maxWorkers.integer? = some count ∧ 1 ≤ count

def PositiveTimeout (settings : Settings) : Prop := isTimeout settings.aiTimeout = true

theorem ofLabel?_label (key : BuiltIn) : BuiltIn.ofLabel? key.label = some key := by
  cases key <;> decide

theorem isBuiltIn_iff {name : Value} : isBuiltIn name = true ↔ ∃ key : BuiltIn, name = .str key.label := by
  constructor
  · intro h
    cases name with
    | str text =>
      obtain ⟨key, hkey⟩ := Option.isSome_iff_exists.mp h
      have hlabel := List.find?_some hkey
      exact ⟨key, congrArg Value.str (beq_iff_eq.mp hlabel).symm⟩
    | _ => cases h
  · rintro ⟨key, rfl⟩
    exact Option.isSome_iff_exists.mpr ⟨key, ofLabel?_label key⟩

theorem isSome_mapM_textOf?_iff {names : List Value} :
    (names.mapM textOf?).isSome = true ↔ ∀ name ∈ names, ∃ text, name = .str text := by
  induction names with
  | nil => simp
  | cons name rest ih =>
    rw [List.mapM_cons, List.forall_mem_cons, ← ih]
    cases name with
    | str text => cases rest.mapM textOf? <;> simp [textOf?]
    | _ => simp [textOf?]

/-- Members that are no texts stop the check, whether they are unknown or cannot even be looked up. -/
theorem settles_checkAnalyzers : Settles checkAnalyzers KnownAnalyzers NamedAnalyzers id := by
  apply settles_of_cases
  · rintro settings ⟨names, hnames, hknown⟩
    refine ⟨names, hnames, fun name hname ↦ ?_⟩
    obtain ⟨key, rfl⟩ := hknown name hname
    exact ⟨_, rfl⟩
  · intro settings
    unfold checkAnalyzers KnownAnalyzers NamedAnalyzers
    simp only [runCheck_get_bind]
    cases hnames : members? settings.enabledAnalyzers with
    | none => simp [Reported]
    | some names =>
      simp only [Option.some.injEq, exists_eq_left', ← isBuiltIn_iff]
      by_cases htexts : ∀ name ∈ names, ∃ text, name = .str text
      · have hhashable : names.all Value.hashable = true := by
          rw [List.all_eq_true]
          intro name hname
          obtain ⟨text, rfl⟩ := htexts name hname
          rfl
        have hunknown : ((names.filter (!isBuiltIn ·)).mapM textOf?).isSome = true :=
          isSome_mapM_textOf?_iff.mpr fun name hname ↦ htexts name (List.mem_of_mem_filter hname)
        obtain ⟨texts, htextsOf⟩ := Option.isSome_iff_exists.mp hunknown
        by_cases hknown : ∀ name ∈ names, isBuiltIn name = true
        · have hempty : names.filter (!isBuiltIn ·) = [] := by
            simpa [List.filter_eq_nil_iff] using hknown
          exact Or.inl ⟨hknown, by simp [hhashable, hempty]⟩
        · have hsome : names.filter (!isBuiltIn ·) ≠ [] := by
            simpa [List.filter_eq_nil_iff] using hknown
          refine Or.inr (Or.inl ⟨hknown, htexts, .unknownAnalyzers texts, settings, ?_⟩)
          simp [hhashable, hsome, htextsOf]
      · refine Or.inr (Or.inr ⟨htexts, .wrongType, settings, ?_, id⟩)
        by_cases hhashable : names.all Value.hashable = true
        · have hunknown : (names.filter (!isBuiltIn ·)).mapM textOf? = none := by
            rw [← Option.not_isSome_iff_eq_none, isSome_mapM_textOf?_iff]
            refine fun hall ↦ htexts fun name hname ↦ ?_
            by_cases hknown : isBuiltIn name = true
            · obtain ⟨key, rfl⟩ := isBuiltIn_iff.mp hknown
              exact ⟨_, rfl⟩
            · exact hall name (List.mem_filter.mpr ⟨hname, by simpa using hknown⟩)
          have hsome : names.filter (!isBuiltIn ·) ≠ [] := by
            intro hempty
            rw [hempty] at hunknown
            cases hunknown
          simp [hhashable, hsome, hunknown]
        · simp [hhashable]

theorem settles_checkWindows : Settles checkWindows MappedWindows (fun _ ↦ True) id := by
  apply settles_of_cases fun _ _ ↦ trivial
  intro settings
  unfold checkWindows MappedWindows
  simp only [runCheck_get_bind]
  cases settings.windows <;> simp

def withUpperLogLevel (settings : Settings) : Settings :=
  { settings with logLevel := .str (Text.upper settings.logLevel.text) }

theorem settles_checkLogLevel :
    Settles checkLogLevel KnownLogLevel (·.logLevel.isWritable = true) withUpperLogLevel := by
  apply settles_of_cases fun _ hknown ↦ hknown.1
  intro settings
  unfold checkLogLevel checkWritable KnownLogLevel
  simp only [runCheck_get_bind]
  by_cases hwritable : settings.logLevel.isWritable = true
  · by_cases hlevel : Text.upper settings.logLevel.text ∈ logLevels
    · simp [hwritable, hlevel, withUpperLogLevel]
    · simp [hwritable, hlevel]
  · simp [hwritable, Reported]

theorem settles_checkFormat : Settles checkFormat KnownFormat (fun _ ↦ True) id := by
  apply settles_of_cases fun _ _ ↦ trivial
  intro settings
  unfold checkFormat KnownFormat
  simp only [runCheck_get_bind]
  by_cases hwritable : settings.defaultFormat.isWritable = true
  · cases hformat : ReportFormat.ofValue settings.defaultFormat <;> simp [hwritable, hformat]
  · simp [hwritable]

def withLabelledFailOn (settings : Settings) : Settings :=
  { settings with
    failOn := ((Severity.ofValue? settings.failOn).map fun severity ↦ .str severity.label).getD settings.failOn }

theorem withLabelledFailOn_of_none (h : Severity.ofValue? settings.failOn = none) :
    settings.withLabelledFailOn = settings := by
  unfold withLabelledFailOn
  rw [h]
  rfl

theorem withLabelledFailOn_of_some {severity : Severity} (h : Severity.ofValue? settings.failOn = some severity) :
    settings.withLabelledFailOn = { settings with failOn := .str severity.label } := by
  unfold withLabelledFailOn
  rw [h]
  rfl

/-- A value that breaks a rule is shown in the report, if it can be written. -/
theorem runCheck_report (settings : Settings) (given : Value) (error : SettingsError) :
    settings.runCheck (checkWritable given >>= fun _ ↦ throw (.broken error)) =
      (.error (if given.isWritable then .broken error else .tooLong), settings) := by
  unfold checkWritable
  by_cases hwritable : given.isWritable = true
  · rw [if_pos hwritable, if_pos hwritable]
    rfl
  · rw [if_neg hwritable, if_neg hwritable]
    rfl

/-- A check whose reports show the value that it refuses. -/
theorem settles_of_report (given : Settings → Value) (error : Settings → SettingsError)
    (hpassed : ∀ settings, passes settings → settings.runCheck check = (.ok (), after settings))
    (hfailed : ∀ settings, ¬ passes settings → settings.runCheck check =
      settings.runCheck (checkWritable (given settings) >>= fun _ ↦ throw (.broken (error settings)))) :
    Settles check passes (fun settings ↦ passes settings ∨ (given settings).isWritable = true) after := by
  apply settles_of_cases fun _ ↦ Or.inl
  intro settings
  by_cases hpasses : passes settings
  · exact Or.inl ⟨hpasses, hpassed settings hpasses⟩
  · refine Or.inr ?_
    rw [hfailed settings hpasses, runCheck_report]
    by_cases hwritable : (given settings).isWritable = true
    · exact Or.inl ⟨hpasses, Or.inr hwritable, error settings, settings, by rw [if_pos hwritable]⟩
    · exact Or.inr ⟨not_or.mpr ⟨hpasses, hwritable⟩, .tooLong, settings, by rw [if_neg hwritable], id⟩

theorem settles_checkFailOn :
    Settles checkFailOn KnownFailOn (fun settings ↦ settings.KnownFailOn ∨ settings.failOn.isWritable = true)
      withLabelledFailOn := by
  apply settles_of_report (·.failOn) fun settings ↦ .invalidFailOn settings.failOn
  · rintro settings (hnull | ⟨severity, hseverity⟩)
    · rw [withLabelledFailOn_of_none (by rw [hnull]; rfl)]
      simp [checkFailOn, hnull]
    · rw [withLabelledFailOn_of_some hseverity]
      cases hfailOn : settings.failOn with
      | str text => simp_all [checkFailOn]
      | _ => simp [hfailOn, Severity.ofValue?] at hseverity
  · intro settings hunknown
    obtain ⟨hnull, hseverity⟩ := not_or.mp hunknown
    have hnone : Severity.ofValue? settings.failOn = none := by
      simpa [Option.eq_none_iff_forall_ne_some] using hseverity
    cases hfailOn : settings.failOn with
    | null => exact absurd hfailOn hnull
    | _ => simp_all [checkFailOn]

theorem settles_checkWorkers :
    Settles checkWorkers PositiveWorkers
      (fun settings ↦ settings.PositiveWorkers ∨ settings.maxWorkers.isWritable = true) id := by
  apply settles_of_report (·.maxWorkers) fun settings ↦ .invalidWorkers settings.maxWorkers
  · rintro settings (hnull | ⟨count, hcount, hpositive⟩)
    · simp [checkWorkers, hnull]
    · cases hworkers : settings.maxWorkers <;> simp_all [checkWorkers]
  · intro settings hunknown
    obtain ⟨hnull, hcount⟩ := not_or.mp hunknown
    have hnone : settings.maxWorkers.integer?.any (1 ≤ ·) = false := by
      cases hinteger : settings.maxWorkers.integer? with
      | none => rfl
      | some count => exact decide_eq_false fun hpositive ↦ hcount ⟨count, hinteger, hpositive⟩
    cases hworkers : settings.maxWorkers with
    | null => exact absurd hworkers hnull
    | _ => simp_all [checkWorkers]

theorem settles_checkTimeout :
    Settles checkTimeout PositiveTimeout
      (fun settings ↦ settings.PositiveTimeout ∨ settings.aiTimeout.isWritable = true) id := by
  apply settles_of_report (·.aiTimeout) fun settings ↦ .invalidTimeout settings.aiTimeout
  · intro settings hpositive
    simp [checkTimeout, show isTimeout settings.aiTimeout = true from hpositive]
  · intro settings hnot
    have htimeout : isTimeout settings.aiTimeout = false := Bool.eq_false_iff.mpr hnot
    simp [checkTimeout, htimeout]

/-! ## The whole check -/

/-- Settings that keep to all rules. -/
structure Acceptable (settings : Settings) : Prop where
  analyzers : settings.KnownAnalyzers
  windows : settings.MappedWindows
  logLevel : settings.KnownLogLevel
  format : settings.KnownFormat
  failOn : settings.KnownFailOn
  workers : settings.PositiveWorkers
  timeout : settings.PositiveTimeout

/-- Settings on which the check comes to a verdict. What is enabled has to be texts. Beyond that only integers matter
that are too long to be written: in the log level, and where a report has to show them. A value behind the first rule
that is broken is not looked at. -/
def Judgeable (settings : Settings) : Prop :=
  settings.NamedAnalyzers ∧
    (settings.KnownAnalyzers → settings.MappedWindows →
      settings.logLevel.isWritable = true ∧
        (settings.KnownLogLevel → settings.KnownFormat →
          (settings.KnownFailOn ∨ settings.failOn.isWritable = true) ∧
            (settings.KnownFailOn →
              (settings.PositiveWorkers ∨ settings.maxWorkers.isWritable = true) ∧
                (settings.PositiveWorkers →
                  settings.PositiveTimeout ∨ settings.aiTimeout.isWritable = true))))

/-- The form in which settings are left. -/
def normalised (settings : Settings) : Settings := settings.withUpperLogLevel.withLabelledFailOn

/-- The checks together pass acceptable settings and leave their normal form. -/
theorem settles_checkAll : Settles checkAll Acceptable Judgeable normalised := by
  have h := settles_checkAnalyzers.andThen <| settles_checkWindows.andThen <| settles_checkLogLevel.andThen <|
    settles_checkFormat.andThen <| settles_checkFailOn.andThen <| settles_checkWorkers.andThen settles_checkTimeout
  constructor
  · intro settings
    refine (h.passes_iff settings).trans ⟨?_, ?_⟩
    · rintro ⟨hanalyzers, hwindows, hlogLevel, hformat, hfailOn, hworkers, htimeout⟩
      exact ⟨hanalyzers, hwindows, hlogLevel, hformat, hfailOn, hworkers, htimeout⟩
    · rintro ⟨hanalyzers, hwindows, hlogLevel, hformat, hfailOn, hworkers, htimeout⟩
      exact ⟨hanalyzers, hwindows, hlogLevel, hformat, hfailOn, hworkers, htimeout⟩
  · intro settings
    refine (h.reported_iff settings).trans ?_
    simp only [true_and]
    exact Iff.rfl
  · rintro settings ⟨hanalyzers, hwindows, hlogLevel, hformat, hfailOn, hworkers, htimeout⟩
    exact h.left settings ⟨hanalyzers, hwindows, hlogLevel, hformat, hfailOn, hworkers, htimeout⟩

/-! ## What settings are left -/

/-- Settings are valid exactly if they are acceptable, and they are left in normal form. -/
theorem validate_eq_ok_iff {checked : Settings} :
    settings.validate = (.ok (), checked) ↔ settings.Acceptable ∧ checked = settings.normalised := by
  constructor
  · intro h
    have hacceptable := (settles_checkAll.passes_iff settings).mp (congrArg Prod.fst h)
    exact ⟨hacceptable, (congrArg Prod.snd h).symm.trans (settles_checkAll.left settings hacceptable)⟩
  · rintro ⟨hacceptable, rfl⟩
    exact Prod.ext ((settles_checkAll.passes_iff settings).mpr hacceptable) (settles_checkAll.left settings hacceptable)

/-- The log level and the severity of failures have the form in which a check leaves them. -/
structure Normal (settings : Settings) : Prop where
  logLevel : ∃ level ∈ logLevels, settings.logLevel = .str level
  failOn : settings.failOn = .null ∨ ∃ severity : Severity, settings.failOn = .str severity.label

theorem Acceptable.normal_normalised (h : settings.Acceptable) : settings.normalised.Normal := by
  refine ⟨⟨_, h.logLevel.2, rfl⟩, ?_⟩
  unfold normalised
  rcases h.failOn with hnull | ⟨severity, hseverity⟩
  · have hnone : Severity.ofValue? settings.withUpperLogLevel.failOn = none := congrArg Severity.ofValue? hnull
    rw [withLabelledFailOn_of_none hnone]
    exact Or.inl hnull
  · have hsome : Severity.ofValue? settings.withUpperLogLevel.failOn = some severity := hseverity
    rw [withLabelledFailOn_of_some hsome]
    exact Or.inr ⟨severity, rfl⟩

theorem upper_of_mem_logLevels {level : String} (h : level ∈ logLevels) : Text.upper level = level := by
  simp only [logLevels, List.mem_cons, List.not_mem_nil, or_false] at h
  rcases h with rfl | rfl | rfl | rfl | rfl <;> decide

theorem Normal.knownLogLevel (h : settings.Normal) : settings.KnownLogLevel := by
  obtain ⟨level, hlevel, hlogLevel⟩ := h.logLevel
  refine ⟨by rw [hlogLevel]; rfl, ?_⟩
  rw [hlogLevel, Value.text, upper_of_mem_logLevels hlevel]
  exact hlevel

theorem Normal.knownFailOn (h : settings.Normal) : settings.KnownFailOn := by
  rcases h.failOn with hnull | ⟨severity, hfailOn⟩
  · exact Or.inl hnull
  · exact Or.inr ⟨severity, by rw [hfailOn, Severity.ofValue?_label]⟩

/-- The normal form of settings in normal form is themselves. -/
theorem Normal.normalised_eq (h : settings.Normal) : settings.normalised = settings := by
  obtain ⟨level, hlevel, hlogLevel⟩ := h.logLevel
  have hupper : settings.withUpperLogLevel = settings := by
    unfold withUpperLogLevel
    rw [hlogLevel, Value.text, upper_of_mem_logLevels hlevel, ← hlogLevel]
  unfold normalised
  rw [hupper]
  rcases h.failOn with hnull | ⟨severity, hfailOn⟩
  · exact withLabelledFailOn_of_none (by rw [hnull]; rfl)
  · rw [withLabelledFailOn_of_some (by rw [hfailOn, Severity.ofValue?_label]), ← hfailOn]

theorem Acceptable.normalised (h : settings.Acceptable) : settings.normalised.Acceptable where
  analyzers := h.analyzers
  windows := h.windows
  logLevel := h.normal_normalised.knownLogLevel
  format := h.format
  failOn := h.normal_normalised.knownFailOn
  workers := h.workers
  timeout := h.timeout

/-- Only two settings may be left in another form. -/
theorem value_normalised {setting : Setting} (hlogLevel : setting ≠ .logLevel) (hfailOn : setting ≠ .failOn) :
    settings.normalised.value setting = settings.value setting := by
  cases setting with
  | logLevel => exact absurd rfl hlogLevel
  | failOn => exact absurd rfl hfailOn
  | _ => rfl

/-- The defaults keep to all rules. -/
theorem acceptable_default : Acceptable {} where
  analyzers := ⟨_, rfl, by
    intro name hname
    obtain ⟨key, -, rfl⟩ := List.mem_map.mp hname
    exact ⟨key, rfl⟩⟩
  windows := ⟨_, rfl⟩
  logLevel := ⟨rfl, by decide⟩
  format := ⟨rfl, .markdown, by rfl⟩
  failOn := Or.inl rfl
  workers := Or.inl rfl
  timeout := by unfold PositiveTimeout; decide +kernel

theorem normal_default : Normal {} := ⟨⟨"INFO", by decide, rfl⟩, Or.inl rfl⟩

end Settings

namespace Configuration

variable {configuration checked : Configuration}

theorem validate_of_notMem (hanalyzers : .enabledAnalyzers ∉ configuration.missing)
    (hwindows : .windows ∉ configuration.missing) :
    configuration.validate = (configuration.settings.validate.1,
      { configuration with settings := configuration.settings.validate.2 }) := by
  unfold validate
  rw [if_neg (by simpa using hanalyzers), if_neg (by simpa using hwindows)]

/-- Missing windows are asked for once the analyzers are known. -/
theorem validate_of_windows_mem (hanalyzers : .enabledAnalyzers ∉ configuration.missing)
    (hwindows : .windows ∈ configuration.missing) :
    configuration.validate =
      ((configuration.settings.runCheck Settings.checkAnalyzers).1 >>= fun _ ↦ .error .lacking, configuration) := by
  unfold validate
  rw [if_neg (by simpa using hanalyzers), if_pos (by simpa using hwindows)]
  rfl

theorem validate_of_analyzers_mem (hanalyzers : .enabledAnalyzers ∈ configuration.missing) :
    configuration.validate = (.error .lacking, configuration) := by
  unfold validate
  rw [if_pos (by simpa using hanalyzers)]

/-- A configuration is valid if its settings are acceptable and neither of the two without a default is missing. -/
theorem validate_eq_ok_iff :
    configuration.validate = (.ok (), checked) ↔
      (.enabledAnalyzers ∉ configuration.missing ∧ .windows ∉ configuration.missing) ∧
        configuration.settings.Acceptable ∧
        checked = { configuration with settings := configuration.settings.normalised } := by
  by_cases hanalyzers : .enabledAnalyzers ∈ configuration.missing
  · rw [validate_of_analyzers_mem hanalyzers]
    exact iff_of_false (by simp) fun h ↦ h.1.1 hanalyzers
  by_cases hwindows : .windows ∈ configuration.missing
  · rw [validate_of_windows_mem hanalyzers hwindows]
    refine iff_of_false (fun h ↦ ?_) fun h ↦ h.1.2 hwindows
    obtain ⟨-, -, hnone⟩ := bind_eq_ok_iff.mp (congrArg Prod.fst h)
    cases hnone
  rw [validate_of_notMem hanalyzers hwindows, and_iff_right ⟨hanalyzers, hwindows⟩]
  constructor
  · intro h
    have hacceptable := (Settings.settles_checkAll.passes_iff _).mp (congrArg Prod.fst h)
    have hleft : configuration.settings.validate.2 = _ := Settings.settles_checkAll.left _ hacceptable
    rw [← hleft]
    exact ⟨hacceptable, (congrArg Prod.snd h).symm⟩
  · rintro ⟨hacceptable, rfl⟩
    rw [Settings.validate_eq_ok_iff.mpr ⟨hacceptable, rfl⟩]

/-- Settings in normal form are left as they are. -/
theorem validate_ofSettings {settings : Settings} (h : settings.Acceptable) (hnormal : settings.Normal) :
    (ofSettings settings).validate = (.ok (), ofSettings settings) := by
  refine validate_eq_ok_iff.mpr ⟨⟨List.not_mem_nil, List.not_mem_nil⟩, h, ?_⟩
  change ofSettings settings = ofSettings settings.normalised
  rw [hnormal.normalised_eq]

/-- Configurations on which the check comes to a verdict. -/
def Judgeable (configuration : Configuration) : Prop :=
  .enabledAnalyzers ∉ configuration.missing ∧ configuration.settings.Judgeable ∧
    (.windows ∈ configuration.missing → ¬ configuration.settings.KnownAnalyzers)

end Configuration

def Surroundings.bare : Surroundings where
  directory := { absolute := true, parts := [] }
  home := { absolute := true, parts := [] }

end ContractAudit
