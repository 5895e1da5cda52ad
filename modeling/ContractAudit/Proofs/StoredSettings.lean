import ContractAudit.Proofs.ReportedSettings
import ContractAudit.Proofs.SameData
import ContractAudit.Proofs.StoredFile

/-!
# Settings that are stored

Checking valid settings again changes nothing. Saving them and loading the file brings the same data back in all
settings, with every library that restores the document that is written. The one thing that gets in the way is a file
that replaces the list by which the settings are told: then nothing or not even a document is stored. No setting is the
object that holds the settings.
-/

namespace ContractAudit

namespace Settings

/-! ## Documents with the same data -/

theorem label_injective {setting other : Setting} (h : setting.label = other.label) : setting = other := by
  have hlabels := congrArg Setting.ofLabel? h
  rw [Setting.ofLabel?_label, Setting.ofLabel?_label] at hlabels
  exact Option.some.inj hlabels

/-- Items that go with distinct keys, one by one, are a function of them. -/
theorem exists_map_eq_of_forall₂ {α β : Type} [DecidableEq α] {related : α → β → Prop} {keys : List α} {items : List β}
    (hdistinct : keys.Nodup) (h : List.Forall₂ related keys items) (otherwise : α → β) :
    ∃ item : α → β, items = keys.map item ∧ ∀ key ∈ keys, related key (item key) := by
  induction h with
  | nil => exact ⟨otherwise, rfl, List.forall_mem_nil _⟩
  | @cons key first keys items hfirst _ ih =>
    obtain ⟨hnew, hkeys⟩ := List.nodup_cons.mp hdistinct
    obtain ⟨item, rfl, hitems⟩ := ih hkeys
    have hkept : ∀ other ∈ keys, Function.update item key first other = item other := fun other hother ↦
      Function.update_of_ne (fun heq : other = key ↦ hnew (heq ▸ hother)) _ _
    refine ⟨Function.update item key first, ?_, List.forall_mem_cons.mpr ⟨?_, fun other hother ↦ ?_⟩⟩
    · rw [List.map_cons, Function.update_self, List.map_congr_left hkept]
    · rw [Function.update_self]
      exact hfirst
    · rw [hkept other hother]
      exact hitems other hother

def entryOf (values : Setting → Value) (setting : Setting) : Value × Value := (.str setting.label, values setting)

/-- The same data as all settings is a mapping of all labels, in some order. -/
theorem exists_of_toValue_sameData {settings : Settings} {document : Value}
    (h : settings.toValue.sameData document = true) :
    ∃ values entries, document = .map entries ∧ entries.Perm (Setting.all.map (entryOf values)) ∧
      ∀ setting, (settings.value setting).sameData (values setting) = true := by
  cases document with
  | map entries =>
    obtain ⟨matched, hperm, hmatched⟩ := Value.exists_perm_of_sameEntries h
    rw [List.forall₂_map_left_iff] at hmatched
    obtain ⟨item, rfl, hitems⟩ := exists_map_eq_of_forall₂ (by decide) hmatched fun _ ↦ (.null, .null)
    have hitem (setting : Setting) : item setting = entryOf (fun setting ↦ (item setting).2) setting :=
      Prod.ext (Value.eq_of_sameData rfl (hitems setting (by cases setting <;> decide)).1) rfl
    refine ⟨fun setting ↦ (item setting).2, entries, rfl, ?_, ?_⟩
    · rw [← funext hitem]
      exact hperm
    · exact fun setting ↦ (hitems setting (by cases setting <;> decide)).2
  | _ => cases h

end Settings

namespace Configuration

variable {configuration checked : Configuration} {settings : Settings} {libraries : Libraries}
  {surroundings : Surroundings} {path : Path} {document : Value}

open Settings (entryOf)

/-! ## Documents that set all settings -/

/-- An entry for a setting sets it, and nothing else. -/
theorem enter_entryOf (document : Value) (settings : Settings) {values : Setting → Value} {setting : Setting}
    (hplain : (values setting).isCyclic = false) :
    enter document (ofSettings settings) (entryOf values setting) =
      .ok (ofSettings (settings.withValue setting (values setting))) := by
  have htakes : (ofSettings settings).takes setting.label = true := by
    unfold takes
    rw [Setting.ofLabel?_label]
    rfl
  unfold enter entryOf
  dsimp only
  rw [if_pos htakes, Value.unfold_of_isCyclic_eq_false document 0 _ hplain]
  unfold assign
  rw [Setting.ofLabel?_label]
  rfl

/-- A setting gets the value that its entry gives it, if there is one, and keeps its own otherwise. -/
theorem foldlM_enter_entryOf {values : Setting → Value} {entries : List (Value × Value)}
    (hentries : ∀ entry ∈ entries, ∃ setting, entry = entryOf values setting)
    (hplain : ∀ setting, (values setting).isCyclic = false) (document : Value) (settings : Settings) :
    ∃ left, entries.foldlM (enter document) (ofSettings settings) = .ok (ofSettings left) ∧
      ∀ setting, left.value setting = values setting ∨
        entryOf values setting ∉ entries ∧ left.value setting = settings.value setting := by
  induction entries generalizing settings with
  | nil => exact ⟨settings, rfl, fun _ ↦ Or.inr ⟨List.not_mem_nil, rfl⟩⟩
  | cons entry rest ih =>
    obtain ⟨⟨first, rfl⟩, hrest⟩ := List.forall_mem_cons.mp hentries
    obtain ⟨left, hleft, hvalues⟩ := ih hrest (settings.withValue first (values first))
    refine ⟨left, ?_, fun setting ↦ ?_⟩
    · rw [List.foldlM_cons, enter_entryOf document settings (hplain first)]
      exact hleft
    · rcases hvalues setting with hset | ⟨hnot, hkept⟩
      · exact Or.inl hset
      · rw [Settings.value_withValue] at hkept
        by_cases hfirst : setting = first
        · rw [if_pos hfirst, ← hfirst] at hkept
          exact Or.inl hkept
        · rw [if_neg hfirst] at hkept
          refine Or.inr ⟨fun hmem ↦ ?_, hkept⟩
          rcases List.mem_cons.mp hmem with heq | hmem
          · exact hfirst (Settings.label_injective (Value.str.inj (congrArg Prod.fst heq)))
          · exact hnot hmem

/-- A document with the same data as some settings describes settings with the same data. -/
theorem exists_ofDocument_eq_ok (h : settings.toValue.sameData document = true) :
    ∃ reloaded, ofDocument document = .ok (ofSettings reloaded) ∧ settings.SameData reloaded := by
  obtain ⟨values, entries, rfl, hperm, hsame⟩ := Settings.exists_of_toValue_sameData h
  have hplain (setting : Setting) : (values setting).isCyclic = false :=
    (Value.isCyclic_of_sameData _ _ (hsame setting)).2
  have hentries : ∀ entry ∈ entries, ∃ setting, entry = entryOf values setting := by
    intro entry hentry
    obtain ⟨setting, -, heq⟩ := List.mem_map.mp (hperm.mem_iff.mp hentry)
    exact ⟨setting, heq.symm⟩
  obtain ⟨reloaded, hreloaded, hvalues⟩ := foldlM_enter_entryOf hentries hplain (.map entries) {}
  refine ⟨reloaded, hreloaded, fun setting ↦ ?_⟩
  have hmem : entryOf values setting ∈ entries :=
    hperm.mem_iff.mpr (List.mem_map_of_mem (by cases setting <;> decide))
  rw [(hvalues setting).resolve_right fun hnot ↦ hnot.1 hmem]
  exact hsame setting

/-! ## Loading without overriding variables -/

/-- No variable overrides a setting. -/
def Unset (environment : List (String × String)) : Prop :=
  ∀ pair ∈ overriding, (environment.lookup pair.1).getD "" = ""

theorem overrideOne_of_unset {environment : List (String × String)} {pair : String × Setting}
    (h : (environment.lookup pair.1).getD "" = "") : overrideOne environment configuration pair = configuration := by
  unfold overrideOne
  cases hlookup : environment.lookup pair.1 with
  | none => rfl
  | some text =>
    rw [hlookup, Option.getD_some] at h
    rw [h]
    rfl

theorem override_of_unset {environment : List (String × String)} (h : Unset environment) :
    configuration.override environment = configuration := by
  have hfold (pairs : List (String × Setting)) (hpairs : ∀ pair ∈ pairs, (environment.lookup pair.1).getD "" = "") :
      pairs.foldl (overrideOne environment) configuration = configuration := by
    induction pairs with
    | nil => rfl
    | cons pair rest ih =>
      obtain ⟨hpair, hrest⟩ := List.forall_mem_cons.mp hpairs
      rw [List.foldl_cons, overrideOne_of_unset hpair, ih hrest]
  exact hfold overriding h

theorem ofChecked_of_unset {environment : List (String × String)} (hunset : Unset environment)
    (hdocument : ofDocument document = .ok configuration) (hvalid : configuration.validate = (.ok (), checked)) :
    ofChecked document environment = .ok checked := by
  refine bind_eq_ok_iff.mpr ⟨configuration, hdocument, ?_⟩
  rw [override_of_unset hunset, hvalid]
  rfl

/-! ## Saving and loading -/

theorem missing_eq_nil (hanalyzers : .enabledAnalyzers ∉ configuration.missing)
    (hwindows : .windows ∉ configuration.missing) : configuration.missing = [] := by
  refine List.eq_nil_iff_forall_not_mem.mpr fun setting hmissing ↦ ?_
  have hsetting := configuration.missing_subset hmissing
  simp only [List.mem_cons, List.not_mem_nil, or_false] at hsetting
  rcases hsetting with rfl | rfl
  · exact hanalyzers hmissing
  · exact hwindows hmissing

/-- Settings that are told as they are. -/
theorem eq_ofSettings (hlisting : configuration.listing = none) (hmissing : configuration.missing = []) :
    configuration = ofSettings configuration.settings := by
  cases configuration
  cases hlisting
  cases hmissing
  rfl

theorem toValue_ofSettings (hplain : ∀ setting, (settings.value setting).isCyclic = false) :
    (ofSettings settings).toValue = .ok settings.toValue := by
  have htold : (ofSettings settings).told = fun setting ↦ pure (.str setting.label, settings.value setting) := by
    funext setting
    unfold told
    rw [if_neg (by simp [ofSettings]), if_neg (by simp [ofSettings, hplain setting])]
    rfl
  change (do return Value.map (← Setting.all.mapM (ofSettings settings).told)) = _
  rw [htold, List.mapM_pure]
  rfl

/-- What is written for a value, to a file of that name, is read as the same data. -/
def Restores (documents : DocumentLibrary) (name : String) (value : Value) : Prop :=
  ∃ text document, documents.write value = .ok text ∧ documents.read ⟨name, text.toUTF8.toList⟩ = .ok document ∧
    value.sameData document = true

/-- A file can be written, whatever its text, and the message about it can be shown. -/
def Saveable (console : Console) (surroundings : Surroundings) (path : Path) : Prop :=
  (∀ text, Returns (surroundings.disk.writeFile surroundings.directory path text)) ∧
    Returns (console.print (savedMessage path))

/-- Saving writes the text of the document and gives it back. -/
theorem save_of_saveable (h : Saveable libraries.console surroundings path) (configuration : Configuration) :
    ∃ disk, surroundings.disk.writeFile surroundings.directory path
        ((configuration.toText libraries.documents).toOption.getD "") = .ok disk ∧
      configuration.save libraries surroundings path = (configuration.toText libraries.documents, disk) := by
  obtain ⟨disk, hdisk⟩ := h.1 ((configuration.toText libraries.documents).toOption.getD "")
  obtain ⟨shown, hshown⟩ := h.2
  refine ⟨disk, hdisk, ?_⟩
  unfold save
  simp only [hdisk, hshown]

/-- A file that was written opens with the bytes of its text. -/
theorem opens_of_writeFile {text : String} {disk : Disk}
    (h : surroundings.disk.writeFile surroundings.directory path text = .ok disk) :
    Opens { surroundings with disk } path ⟨path.toString, text.toUTF8.toList⟩ :=
  ⟨_, _, Disk.look_writeFile h, rfl, rfl⟩

theorem result_load_of_opens {file : OpenFile} (h : Opens surroundings path file)
    (hread : libraries.documents.read file = .ok document) :
    (load libraries surroundings path).result = ofChecked document surroundings.environment := by
  unfold load
  rw [readFile_of_opens libraries.documents h, hread]
  rfl

/-- What is loaded after saving is the document that was saved. -/
theorem load_save {value : Value} {text : String} (h : Saveable libraries.console surroundings path)
    (hvalue : configuration.toValue = .ok value) (hwritten : libraries.documents.write value = .ok text)
    (hread : libraries.documents.read ⟨path.toString, text.toUTF8.toList⟩ = .ok document) :
    ∃ disk, configuration.save libraries surroundings path = (.ok text, disk) ∧
      (load libraries { surroundings with disk } path).result = ofChecked document surroundings.environment := by
  obtain ⟨disk, hdisk, hsave⟩ := save_of_saveable h configuration
  have htext : configuration.toText libraries.documents = .ok text := by
    refine bind_eq_ok_iff.mpr ⟨value, hvalue, ?_⟩
    rw [hwritten]
    rfl
  rw [htext] at hsave hdisk
  exact ⟨disk, hsave, result_load_of_opens (opens_of_writeFile hdisk) hread⟩

/-- Settings in normal form are found again. -/
theorem exists_load_save_sameData (hsave : Saveable libraries.console surroundings path)
    (hunset : Unset surroundings.environment) (hacceptable : settings.Acceptable) (hnormal : settings.Normal)
    (hrestores : Restores libraries.documents path.toString settings.toValue) :
    ∃ text disk reloaded, (ofSettings settings).save libraries surroundings path = (.ok text, disk) ∧
      (load libraries { surroundings with disk } path).result = .ok (ofSettings reloaded) ∧
      settings.SameData reloaded := by
  obtain ⟨text, document, hwritten, hread, hdata⟩ := hrestores
  obtain ⟨reloaded, hdocument, hsame⟩ := exists_ofDocument_eq_ok hdata
  have hplain (setting : Setting) : (settings.value setting).isCyclic = false :=
    (Value.isCyclic_of_sameData _ _ (hsame setting)).1
  obtain ⟨disk, hsaved, hload⟩ := load_save hsave (toValue_ofSettings hplain) hwritten hread
  have hvalid := validate_ofSettings (hsame.acceptable hnormal hacceptable) (hsame.normal hnormal)
  exact ⟨text, disk, reloaded, hsaved, hload.trans (ofChecked_of_unset hunset hdocument hvalid), hsame⟩

/-- Where the list of settings is empty, an empty mapping is all that is stored. -/
theorem load_save_of_empty_listing (hsave : Saveable libraries.console surroundings path)
    (hunset : Unset surroundings.environment) (hlisting : configuration.listing = some (.map []))
    (hrestores : Restores libraries.documents path.toString (.map [])) :
    ∃ text disk, libraries.documents.write (.map []) = .ok text ∧
      configuration.save libraries surroundings path = (.ok text, disk) ∧
      (load libraries { surroundings with disk } path).result = .ok (ofSettings {}) := by
  have hvalue : configuration.toValue = .ok (.map []) := by
    unfold toValue
    rw [hlisting]
  obtain ⟨text, document, hwritten, hread, hdata⟩ := hrestores
  have hdocument : ofDocument document = .ok (ofSettings {}) := by
    cases document with
    | map entries =>
      rw [List.isEmpty_iff.mp hdata]
      rfl
    | _ => rfl
  have hvalid := validate_ofSettings Settings.acceptable_default Settings.normal_default
  obtain ⟨disk, hsaved, hload⟩ := load_save hsave hvalue hwritten hread
  exact ⟨text, disk, hwritten, hsaved, hload.trans (ofChecked_of_unset hunset hdocument hvalid)⟩

/-- Settings cannot be told by anything else in place of their list. -/
theorem toText_of_listing {listing : Value} (documents : DocumentLibrary)
    (hlisting : configuration.listing = some listing) (hsome : listing ≠ .map []) :
    configuration.toText documents = .error .lacking := by
  have hvalue : configuration.toValue = .error .lacking := by
    unfold toValue
    rw [hlisting]
    cases listing with
    | map entries =>
      cases entries with
      | nil => exact absurd rfl hsome
      | cons entry rest => rfl
    | _ => rfl
  unfold toText
  rw [hvalue]
  rfl

/-- Checking valid settings changes at most the log level and the severity of failures, and checking them again changes
nothing. Saving them and loading the file restores the same data in all settings, if the library restores the document
that is written, unless the list of settings was replaced: then either the defaults are loaded or nothing can be
saved. -/
theorem valid_survives_storage (h : configuration.validate = (.ok (), checked)) :
    (∀ setting, setting ≠ .logLevel → setting ≠ .failOn →
        checked.settings.value setting = configuration.settings.value setting) ∧
      checked = { configuration with settings := checked.settings } ∧
      checked.validate = (.ok (), checked) ∧
      ∀ libraries surroundings path, Saveable libraries.console surroundings path → Unset surroundings.environment →
        (checked.listing = none → Restores libraries.documents path.toString checked.settings.toValue →
          ∃ text disk reloaded, checked.save libraries surroundings path = (.ok text, disk) ∧
            (load libraries { surroundings with disk } path).result = .ok (ofSettings reloaded) ∧
            checked.settings.SameData reloaded) ∧
        (checked.listing = some (.map []) → Restores libraries.documents path.toString (.map []) →
          ∃ text disk, libraries.documents.write (.map []) = .ok text ∧
            checked.save libraries surroundings path = (.ok text, disk) ∧
            (load libraries { surroundings with disk } path).result = .ok (ofSettings {})) ∧
        ∀ listing, checked.listing = some listing → listing ≠ .map [] →
          ¬ Returns (checked.save libraries surroundings path).1 := by
  obtain ⟨hgiven, hacceptable, rfl⟩ := validate_eq_ok_iff.mp h
  have hnormal := hacceptable.normal_normalised
  refine ⟨fun setting ↦ Settings.value_normalised, rfl, ?_, ?_⟩
  · refine validate_eq_ok_iff.mpr ⟨hgiven, hacceptable.normalised, ?_⟩
    rw [hnormal.normalised_eq]
  · intro libraries surroundings path hsave hunset
    refine ⟨fun hlisting hrestores ↦ ?_, load_save_of_empty_listing hsave hunset, fun listing hlisting hsome ↦ ?_⟩
    · rw [eq_ofSettings hlisting (missing_eq_nil hgiven.1 hgiven.2)]
      exact exists_load_save_sameData hsave hunset hacceptable.normalised hnormal hrestores
    · obtain ⟨disk, -, hsaved⟩ := save_of_saveable hsave _
      rw [hsaved, toText_of_listing libraries.documents hlisting hsome]
      exact not_returns_error _

/-! ## Settings that are stored and restored -/

theorem restores_knowing {text : String} {value document : Value} (name : String)
    (h : value.sameData document = true) : Restores (knowing text document) name value :=
  ⟨text, document, rfl, if_pos rfl, h⟩

theorem saveable_bare (line : String) : Saveable (showing line) .bare { parts := ["c"] } :=
  ⟨fun _ ↦ ⟨_, rfl⟩, returns_ok _⟩

theorem unset_bare : Unset Surroundings.bare.environment := fun _ _ ↦ rfl

def unsaved : Configuration :=
  ofSettings
    { enabledAnalyzers := .list [.str "gas"]
      windows := .map [(.str "gas", .map [])]
      failOn := .str " high"
      logLevel := .str "debug" }

def savedDocument : Value :=
  .map
    [(.str "ai_timeout", .float 120.0), (.str "default_format", .str "markdown"),
      (.str "enabled_analyzers", .list [.str "gas"]), (.str "fail_on", .str "HIGH"), (.str "log_level", .str "DEBUG"),
      (.str "max_workers", .null), (.str "parallel_analysis", .bool false), (.str "reports_dir", .str "./reports"),
      (.str "windows", .map [(.str "gas", .map [])])]

def savedText : String :=
  "ai_timeout: 120.0\ndefault_format: markdown\nenabled_analyzers:\n- gas\nfail_on: HIGH\nlog_level: DEBUG\n"
    ++ "max_workers: null\nparallel_analysis: false\nreports_dir: ./reports\nwindows:\n  gas: \x7b\x7d\n"

theorem acceptable_unsaved : unsaved.settings.Acceptable :=
  { Settings.acceptable_default with
    analyzers := ⟨_, rfl, List.forall_mem_singleton.mpr ⟨.gas, rfl⟩⟩
    windows := ⟨_, rfl⟩
    logLevel := ⟨rfl, by decide⟩
    failOn := Or.inr ⟨.high, by decide⟩ }

theorem valid_survives_storage_unsaved :
    ∃ checked text disk reloaded, unsaved.validate = (.ok (), checked) ∧ checked.settings.logLevel = .str "DEBUG" ∧
      checked.save ⟨knowing savedText savedDocument, showing "✓ Configuration saved to c"⟩ .bare { parts := ["c"] } =
        (.ok text, disk) ∧
      (load ⟨knowing savedText savedDocument, showing "✓ Configuration saved to c"⟩ { Surroundings.bare with disk }
        { parts := ["c"] }).result = .ok (ofSettings reloaded) ∧
      checked.settings.SameData reloaded := by
  have hvalid := validate_eq_ok_iff.mpr ⟨⟨List.not_mem_nil, List.not_mem_nil⟩, acceptable_unsaved, rfl⟩
  have hdata : unsaved.settings.normalised.toValue.sameData savedDocument = true := by decide +kernel
  obtain ⟨-, -, -, hstored⟩ := valid_survives_storage hvalid
  have hrestored := (hstored ⟨knowing savedText savedDocument, showing "✓ Configuration saved to c"⟩ .bare
    { parts := ["c"] } (saveable_bare _) unset_bare).1 rfl (restores_knowing "c" hdata)
  obtain ⟨text, disk, reloaded, hsaved, hload, hsame⟩ := hrestored
  exact ⟨_, text, disk, reloaded, hvalid, congrArg Value.str (by decide), hsaved, hload, hsame⟩

def relisted : Configuration :=
  { ofSettings { enabledAnalyzers := .list [.str "gas"] } with listing := some (.map []) }

/-- These settings are valid and in normal form. -/
theorem valid_relisted : relisted.validate = (.ok (), relisted) := by
  have hacceptable : relisted.settings.Acceptable :=
    { Settings.acceptable_default with analyzers := ⟨_, rfl, List.forall_mem_singleton.mpr ⟨.gas, rfl⟩⟩ }
  have hnormal : relisted.settings.Normal := ⟨Settings.normal_default.logLevel, Settings.normal_default.failOn⟩
  refine validate_eq_ok_iff.mpr ⟨⟨List.not_mem_nil, List.not_mem_nil⟩, hacceptable, ?_⟩
  rw [hnormal.normalised_eq]

/-- A document can replace the list of settings. They are valid then, and come back as the defaults, although the
library restores what is written. -/
theorem relisted_not_restored :
    ∃ document libraries disk, ofDocument document = .ok relisted ∧ relisted.validate = (.ok (), relisted) ∧
      Restores libraries.documents "c" (.map []) ∧
      relisted.save libraries .bare { parts := ["c"] } = (.ok "\x7b\x7d\n", disk) ∧
      (load libraries { Surroundings.bare with disk } { parts := ["c"] }).result = .ok (ofSettings {}) ∧
      ¬ relisted.settings.SameData {} := by
  have hrestores : Restores (knowing "\x7b\x7d\n" (.map [])) "c" (.map []) := restores_knowing "c" rfl
  have hlisting : relisted.listing = some (.map []) := rfl
  let libraries : Libraries := ⟨knowing "\x7b\x7d\n" (.map []), showing "✓ Configuration saved to c"⟩
  have hsaveable : Saveable libraries.console .bare { parts := ["c"] } := saveable_bare _
  obtain ⟨text, disk, hwritten, hsaved, hload⟩ := load_save_of_empty_listing hsaveable unset_bare hlisting hrestores
  cases hwritten
  refine ⟨.map [(.str "__dataclass_fields__", .map []), (.str "enabled_analyzers", .list [.str "gas"])], libraries,
    disk, rfl, valid_relisted, hrestores, hsaved, hload, fun hsame ↦ ?_⟩
  have hanalyzers := hsame .enabledAnalyzers
  cases hanalyzers

end Configuration

end ContractAudit
