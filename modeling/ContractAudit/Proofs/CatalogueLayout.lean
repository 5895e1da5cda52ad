import ContractAudit.Proofs.FindingKey
import ContractAudit.Proofs.RuleLayout

/-!
# The layout of the built-in analyzers

Every category belongs to one built-in analyzer, whatever its windows. The findings of different analyzers therefore
stay apart, and so do their keys.
-/

namespace ContractAudit

/-! ## One analyzer -/

namespace BuiltIn

def categories : BuiltIn → List String
  | reentrancy => ["Reentrancy"]
  | accessControl => ["Access Control"]
  | overflow => ["Integer Overflow/Underflow", "Precision Loss", "Integer Underflow"]
  | gas =>
    ["Unbounded Loop", "String Comparison", "Multiple Storage Writes", "Storage Read in Loop", "Unused Variable",
      "Inefficient Type", "Function Visibility", "State Variable"]
  | uncheckedCall =>
    ["Unchecked Call", "Unchecked Send", "Unchecked Delegatecall", "External Call Without Error Handling"]
  | timestamp => ["Timestamp Dependence", "Block Number as Time"]
  | txOrigin => ["tx.origin Authentication", "tx.origin Usage"]
  | selfDestruct => ["Self-Destruct Present", "Unprotected Self-Destruct", "Deprecated Suicide"]

/-- No two analyzers report in one category. -/
theorem categories_disjoint {key other : BuiltIn} (h : key ≠ other) :
    ∀ category ∈ key.categories, category ∉ other.categories := by
  revert h
  cases key <;> cases other <;> decide

theorem mem_all (key : BuiltIn) : key ∈ all := by
  cases key <;> decide

theorem default_eq_withWindows (key : BuiltIn) : key.default = key.withWindows [] := by
  cases key <;> rfl

def rule (key : BuiltIn) (settings : SettingsTable) : Rule :=
  match key with
  | reentrancy => fun sheet ↦ .ok { vulnerabilities := Rule.Reentrancy.findings sheet }
  | accessControl =>
    Rule.AccessControl.judge ((Value.field? settings "lookahead").getD Rule.AccessControl.defaultLookahead)
  | overflow => Rule.Overflow.judge
  | gas => fun sheet ↦ .ok { issues := Rule.Gas.issues sheet }
  | uncheckedCall =>
    let windows : Rule.UncheckedCall.Windows := {}
    Rule.UncheckedCall.judge
      { lookahead := (Value.field? settings "lookahead").getD windows.lookahead
        lookback := (Value.field? settings "lookback").getD windows.lookback }
  | timestamp => fun sheet ↦ .ok { vulnerabilities := Rule.Timestamp.findings sheet }
  | txOrigin => fun sheet ↦ .ok { vulnerabilities := Rule.TxOrigin.findings sheet }
  | selfDestruct => fun sheet ↦ .ok { vulnerabilities := Rule.SelfDestruct.findings sheet }

/-- Every built-in analyzer is a rule with a name, whatever its settings. -/
theorem withWindows_eq_ofRule (key : BuiltIn) (settings : SettingsTable) :
    key.withWindows settings =
      .ofRule key.default.kind key.default.name (key.withWindows settings).windows (key.rule settings) := by
  cases key <;> rfl

/-- Each rule keeps to the categories of its analyzer. Only the rule for gas reports issues, and it reports nothing
else. -/
theorem laidOut_rule {key : BuiltIn} {settings : SettingsTable} {sheet : Sheet} {verdict : Verdict}
    (h : key.rule settings sheet = .ok verdict) : verdict.LaidOut sheet key.categories := by
  cases key with
  | reentrancy =>
    cases h
    exact ⟨Rule.Reentrancy.layout_findings sheet, Layout.nil⟩
  | accessControl => exact Rule.AccessControl.laidOut_judge h
  | overflow => exact Rule.Overflow.laidOut_judge h
  | gas =>
    cases h
    exact ⟨Layout.nil, Rule.Gas.layout_issues sheet⟩
  | uncheckedCall => exact Rule.UncheckedCall.laidOut_judge h
  | timestamp =>
    cases h
    exact ⟨Rule.Timestamp.layout_findings sheet, Layout.nil⟩
  | txOrigin =>
    cases h
    exact ⟨Rule.TxOrigin.layout_findings sheet, Layout.nil⟩
  | selfDestruct =>
    cases h
    exact ⟨Rule.SelfDestruct.layout_findings sheet, Layout.nil⟩

end BuiltIn

def Outcome.verdict (outcome : Outcome) : Verdict := ⟨outcome.vulnerabilities, outcome.issues⟩

theorem Analyzer.check_ofRule (kind name source : String) (windows : List (String × Value)) (rule : Rule) :
    (Analyzer.ofRule kind name windows rule).check (.str source) =
      (rule (.ofSource source.toList)).map fun verdict ↦
        { analyzer := name, vulnerabilities := verdict.vulnerabilities, issues := verdict.issues } := rfl

/-- An analyzer that is stopped by a fault reports nothing, so its outcome is laid out as well. -/
theorem Registry.laidOut_runOne (key : BuiltIn) (settings : SettingsTable) (source : String) :
    (runOne (.str source) (key.withWindows settings)).verdict.LaidOut (.ofSource source.toList) key.categories := by
  rw [runOne, key.withWindows_eq_ofRule, Analyzer.check_ofRule]
  cases hverdict : key.rule settings (.ofSource source.toList) with
  | error fault => exact ⟨Layout.nil, Layout.nil⟩
  | ok verdict => exact BuiltIn.laidOut_rule hverdict

/-! ## Many analyzers -/

/-- Categories of built-in analyzers differ before their first hyphen. -/
theorem BuiltIn.eq_of_beforeHyphen_eq {key other : BuiltIn} {first second : String} (hfirst : first ∈ key.categories)
    (hsecond : second ∈ other.categories) (h : beforeHyphen first.toList = beforeHyphen second.toList) :
    first = second := by
  have hdistinct : ((all.flatMap categories).map fun category ↦ beforeHyphen category.toList).Nodup := by
    decide +kernel
  exact List.inj_on_of_nodup_map hdistinct (List.mem_flatMap.mpr ⟨key, key.mem_all, hfirst⟩)
    (List.mem_flatMap.mpr ⟨other, other.mem_all, hsecond⟩) h

/-- Findings that are laid out in categories of built-in analyzers have distinct keys. -/
theorem Layout.nodup_keys {sheet : Sheet} {categories : List String} {findings : List Finding}
    (layout : Layout sheet categories findings)
    (known : ∀ category ∈ categories, ∃ key : BuiltIn, category ∈ key.categories) :
    (findings.map Finding.key).Nodup := by
  rw [List.Nodup, List.pairwise_map]
  refine layout.apart.imp_of_mem fun {finding other} hfinding hother hapart hkey ↦ ?_
  obtain ⟨advice, hcategory, -, hgiven⟩ := layout.given finding hfinding
  obtain ⟨advice', hcategory', -, hgiven'⟩ := layout.given other hother
  obtain ⟨key, hmem⟩ := known _ hcategory
  obtain ⟨key', hmem'⟩ := known _ hcategory'
  have hclear : beforeHyphen finding.category.text.toList = beforeHyphen other.category.text.toList →
      finding.category.text = other.category.text := by
    rw [hgiven.category_eq, hgiven'.category_eq]
    exact BuiltIn.eq_of_beforeHyphen_eq hmem hmem'
  obtain ⟨hsame, hline, hdescription⟩ := Finding.parts_eq_of_key_eq hclear hkey
  rw [hgiven.category_eq, hgiven'.category_eq] at hsame
  rw [hgiven.description_eq, hgiven'.description_eq] at hdescription
  apply hapart hline
  · rw [hgiven.category_eq, hgiven'.category_eq]
    exact congrArg Value.str hsame
  · rw [hgiven.description_eq, hgiven'.description_eq]
    exact congrArg Value.str hdescription

/-- The name of the analyzer is not part of a key. -/
theorem Outcome.map_key_flatMap_reportedBy (outcomes : List Outcome) (view : Outcome → List Finding) :
    (outcomes.flatMap fun outcome ↦ (view outcome).map (·.reportedBy outcome.analyzer)).map Finding.key =
      (outcomes.flatMap view).map Finding.key := by
  rw [List.map_flatMap, List.map_flatMap]
  congr 1
  funext outcome
  rw [List.map_map]
  rfl

namespace Registry

/-- The registry of built-in analyzers with their settings. -/
def ofEntries (entries : List (BuiltIn × SettingsTable)) : Registry :=
  entries.map fun entry ↦ entry.1.withWindows entry.2

variable {entries : List (BuiltIn × SettingsTable)}

/-- What different analyzers report can be put together. -/
theorem nodup_keys_flatMap_run (distinct : (entries.map Prod.fst).Nodup) (source : String)
    {view : Outcome → List Finding}
    (laid : ∀ entry ∈ entries, Layout (.ofSource source.toList) entry.1.categories
      (view (runOne (.str source) (entry.1.withWindows entry.2)))) :
    ((((ofEntries entries).run (.str source)).flatMap view).map Finding.key).Nodup := by
  have hdisjoint : entries.Pairwise fun entry other ↦
      ∀ category ∈ entry.1.categories, category ∉ other.1.categories :=
    (List.pairwise_map.mp distinct).imp BuiltIn.categories_disjoint
  rw [run, ofEntries, List.map_map, List.flatMap_map]
  apply (Layout.flatMap laid hdisjoint).nodup_keys
  intro category hcategory
  obtain ⟨entry, -, hmem⟩ := List.mem_flatMap.mp hcategory
  exact ⟨entry.1, hmem⟩

/-- Distinct built-in analyzers report no key twice. -/
theorem nodup_keys_reported (distinct : (entries.map Prod.fst).Nodup) (source : String) :
    ((Outcome.reported ((ofEntries entries).run (.str source))).map Finding.key).Nodup := by
  rw [Outcome.reported, Outcome.map_key_flatMap_reportedBy]
  exact nodup_keys_flatMap_run distinct source fun entry _ ↦ (laidOut_runOne entry.1 entry.2 source).vulnerabilities

theorem nodup_keys_advised (distinct : (entries.map Prod.fst).Nodup) (source : String) :
    ((Outcome.advised ((ofEntries entries).run (.str source))).map Finding.key).Nodup := by
  rw [Outcome.advised, Outcome.map_key_flatMap_reportedBy]
  exact nodup_keys_flatMap_run distinct source fun entry _ ↦ (laidOut_runOne entry.1 entry.2 source).issues

/-! ## What a registry reports -/

section Reported

variable {source : String} {finding : Finding}

/-- What a registry puts together comes from one of its analyzers. -/
theorem exists_of_mem_flatMap_run {view : Outcome → List Finding}
    (h : finding ∈ ((ofEntries entries).run (.str source)).flatMap fun outcome ↦
      (view outcome).map (·.reportedBy outcome.analyzer)) :
    ∃ entry ∈ entries, ∃ original ∈ view (runOne (.str source) (entry.1.withWindows entry.2)), ∃ analyzer,
      finding = original.reportedBy analyzer := by
  rw [run, ofEntries, List.map_map] at h
  obtain ⟨outcome, houtcome, hfinding⟩ := List.mem_flatMap.mp h
  obtain ⟨entry, hentry, rfl⟩ := List.mem_map.mp houtcome
  obtain ⟨original, horiginal, rfl⟩ := List.mem_map.mp hfinding
  exact ⟨entry, hentry, original, horiginal, _, rfl⟩

theorem isText_of_mem_reported (h : finding ∈ Outcome.reported ((ofEntries entries).run (.str source))) :
    finding.category.isText = true := by
  obtain ⟨entry, -, original, horiginal, analyzer, rfl⟩ := exists_of_mem_flatMap_run h
  obtain ⟨category, -, hcategory⟩ := (laidOut_runOne entry.1 entry.2 source).vulnerabilities.category_mem horiginal
  rw [Finding.reportedBy, hcategory]
  rfl

/-- What a built-in analyzer reports can be shown in every format. -/
theorem shows_of_mem_reported (h : finding ∈ Outcome.reported ((ofEntries entries).run (.str source)))
    (format : ReportFormat) : format.shows finding = true := by
  obtain ⟨entry, -, original, horiginal, analyzer, rfl⟩ := exists_of_mem_flatMap_run h
  obtain ⟨advice, -, hplain, hgiven⟩ :=
    (laidOut_runOne entry.1 entry.2 source).vulnerabilities.given original horiginal
  have hshows := (hgiven.shows_and_lists hplain format).1
  cases format <;> exact hshows

theorem lists_of_mem_advised (h : finding ∈ Outcome.advised ((ofEntries entries).run (.str source)))
    (format : ReportFormat) : format.lists finding = true := by
  obtain ⟨entry, -, original, horiginal, analyzer, rfl⟩ := exists_of_mem_flatMap_run h
  obtain ⟨advice, -, hplain, hgiven⟩ := (laidOut_runOne entry.1 entry.2 source).issues.given original horiginal
  have hlists := (hgiven.shows_and_lists hplain format).2
  cases format <;> exact hlists

/-- The default registry is the one with no settings at all. -/
theorem default_eq_ofEntries : default = ofEntries (BuiltIn.all.map fun key ↦ (key, [])) := by
  rw [default, ofEntries, List.map_map]
  exact List.map_congr_left fun key _ ↦ key.default_eq_withWindows

end Reported

end Registry

end ContractAudit
