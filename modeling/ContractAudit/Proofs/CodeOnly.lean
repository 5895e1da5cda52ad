import ContractAudit.Proofs.AuditSteps
import ContractAudit.Proofs.CatalogueLayout
import ContractAudit.Proofs.Scoring
import Mathlib.Data.List.ReduceOption

/-!
# Verdicts that depend on the code alone

A sheet has the raw lines of a source beside its code. Apart from the rule for gas, which counts the braces of raw
lines, the built-in rules use raw lines for snippets only. So two sources with the same code get the same verdict up to
snippets, or the same fault, and since neither keys nor levels nor categories show a snippet, the same counts and the
same score.

The comparison of two runs goes step by step: two computations are alike if they stop with the same fault or if their
results look the same, and what is alike stays alike in the next step.
-/

namespace ContractAudit

/-! ## Findings without their snippets -/

namespace Finding

def withoutSnippet (finding : Finding) : Finding := { finding with snippet := .null }

@[simp] theorem key_withoutSnippet (finding : Finding) : finding.withoutSnippet.key = finding.key := rfl

@[simp] theorem severity_withoutSnippet (finding : Finding) : finding.withoutSnippet.severity = finding.severity := rfl

@[simp] theorem category_withoutSnippet (finding : Finding) : finding.withoutSnippet.category = finding.category := rfl

theorem withoutSnippet_reportedBy (finding : Finding) (analyzer : String) :
    (finding.reportedBy analyzer).withoutSnippet = finding.withoutSnippet.reportedBy analyzer := rfl

end Finding

def Verdict.withoutSnippets (verdict : Verdict) : Verdict where
  vulnerabilities := verdict.vulnerabilities.map Finding.withoutSnippet
  issues := verdict.issues.map Finding.withoutSnippet

def Outcome.withoutSnippets (outcome : Outcome) : Outcome :=
  { outcome with
    vulnerabilities := outcome.vulnerabilities.map Finding.withoutSnippet
    issues := outcome.issues.map Finding.withoutSnippet }

/-- Raw lines matter for snippets only. -/
def Rule.ReadsCode (rule : Rule) : Prop :=
  ∀ raw raw' code, Alike Verdict.withoutSnippets (rule ⟨raw, code⟩) (rule ⟨raw', code⟩)

/-! ## Passes over the lines -/

theorem Sheet.map_withoutSnippet_mark {α : Type} (sheet other : Sheet) (items : List α)
    (advise : α → Nat → List Advice) :
    (sheet.mark items advise).map Finding.withoutSnippet = (other.mark items advise).map Finding.withoutSnippet := by
  unfold mark
  rw [List.map_flatMap, List.map_flatMap]
  apply List.flatMap_congr
  intro entry _
  rw [List.map_map, List.map_map]
  rfl

/-- A pass and advice for the whole source look the same on sheets with the same code. -/
theorem Rule.readsCode_ok {findings : Sheet → List Finding}
    (h : ∀ raw raw' code,
      (findings ⟨raw, code⟩).map Finding.withoutSnippet = (findings ⟨raw', code⟩).map Finding.withoutSnippet) :
    Rule.ReadsCode fun sheet ↦ .ok { vulnerabilities := findings sheet } := by
  intro raw raw' code
  apply alike_ok_iff.mpr
  simp only [Verdict.withoutSnippets, h raw raw' code]

namespace Rule

theorem Reentrancy.readsCode : Rule.ReadsCode fun sheet ↦ .ok { vulnerabilities := findings sheet } := by
  apply readsCode_ok
  intro raw raw' code
  rw [findings_eq, findings_eq, List.map_append, List.map_append]
  congr 1
  apply Sheet.map_withoutSnippet_mark

theorem Timestamp.readsCode : Rule.ReadsCode fun sheet ↦ .ok { vulnerabilities := findings sheet } := by
  apply readsCode_ok
  intro raw raw' code
  rw [findings_eq, findings_eq]
  apply Sheet.map_withoutSnippet_mark

theorem TxOrigin.readsCode : Rule.ReadsCode fun sheet ↦ .ok { vulnerabilities := findings sheet } := by
  apply readsCode_ok
  intro raw raw' code
  rw [findings_eq, findings_eq]
  apply Sheet.map_withoutSnippet_mark

theorem SelfDestruct.readsCode : Rule.ReadsCode fun sheet ↦ .ok { vulnerabilities := findings sheet } := by
  apply readsCode_ok
  intro raw raw' code
  rw [findings_eq, findings_eq]
  apply Sheet.map_withoutSnippet_mark

theorem Overflow.readsCode : Rule.ReadsCode judge := by
  intro raw raw' code
  unfold judge
  apply Alike.bind_left (version? (Sheet.text ⟨raw, code⟩))
  intro version
  apply alike_ok_iff.mpr
  simp only [Verdict.withoutSnippets, flatMap_lineFindings, List.map_append]
  congr 2
  apply Sheet.map_withoutSnippet_mark

theorem AccessControl.alike_judgeLine (lookahead : Value) (raw raw' code : List Text.Line) (entry : Text.Line × Nat) :
    Alike (Option.map Finding.withoutSnippet) (judgeLine lookahead ⟨raw, code⟩ entry)
      (judgeLine lookahead ⟨raw', code⟩ entry) := by
  simp only [judgeLine]
  split
  · rfl
  · apply Alike.bind_left
    intro window
    split <;> rfl

theorem AccessControl.readsCode (lookahead : Value) : Rule.ReadsCode (judge lookahead) := by
  intro raw raw' code
  unfold judge
  apply (Alike.mapM (alike_judgeLine lookahead raw raw' code) code.zipIdx).bind
  intro perLine perLine' hperLine
  have hfound : perLine.reduceOption.map Finding.withoutSnippet = perLine'.reduceOption.map Finding.withoutSnippet := by
    rw [← List.reduceOption_map, ← List.reduceOption_map, hperLine]
  apply alike_ok_iff.mpr
  simp only [Verdict.withoutSnippets, List.map_append, hfound]
  rfl

theorem UncheckedCall.alike_reportUnless (advice : Advice) (pattern : Pattern) (excused : Except Fault Bool)
    (sheet other : Sheet) (entry : Text.Line × Nat) :
    Alike (List.map Finding.withoutSnippet) (reportUnless advice pattern excused sheet entry)
      (reportUnless advice pattern excused other entry) := by
  simp only [reportUnless]
  split
  · rfl
  · apply Alike.bind_left
    intro holds
    split <;> rfl

theorem UncheckedCall.alike_judgeLine (windows : Windows) (raw raw' code : List Text.Line) (entry : Text.Line × Nat) :
    Alike (List.map Finding.withoutSnippet) (judgeLine windows ⟨raw, code⟩ entry)
      (judgeLine windows ⟨raw', code⟩ entry) := by
  simp only [judgeLine]
  apply (alike_reportUnless _ _ _ _ _ _).bind
  intro calls calls' hcalls
  apply (alike_reportUnless _ _ _ _ _ _).bind
  intro sends sends' hsends
  apply (alike_reportUnless _ _ _ _ _ _).bind
  intro delegates delegates' hdelegates
  apply (alike_reportUnless _ _ _ _ _ _).bind
  intro members members' hmembers
  apply alike_ok_iff.mpr
  simp only [List.map_append, hcalls, hsends, hdelegates, hmembers]

theorem UncheckedCall.readsCode (windows : Windows) : Rule.ReadsCode (judge windows) := by
  intro raw raw' code
  unfold judge
  apply (Alike.mapM (alike_judgeLine windows raw raw' code) code.zipIdx).bind
  intro perLine perLine' hperLine
  apply alike_ok_iff.mpr
  simp only [Verdict.withoutSnippets, List.map_flatten, hperLine]

end Rule

/-! ## Analyzers -/

namespace BuiltIn

theorem readsCode_rule {key : BuiltIn} (notGas : key ≠ .gas) (settings : SettingsTable) :
    (key.rule settings).ReadsCode := by
  cases key with
  | reentrancy => exact Rule.Reentrancy.readsCode
  | accessControl => exact Rule.AccessControl.readsCode _
  | overflow => exact Rule.Overflow.readsCode
  | gas => exact absurd rfl notGas
  | uncheckedCall => exact Rule.UncheckedCall.readsCode _
  | timestamp => exact Rule.Timestamp.readsCode
  | txOrigin => exact Rule.TxOrigin.readsCode
  | selfDestruct => exact Rule.SelfDestruct.readsCode

variable {first second : String}

/-- Sources with the same code are judged alike by every analyzer but the one for gas. -/
theorem alike_check (same : Comment.strip first.toList = Comment.strip second.toList) {key : BuiltIn}
    (notGas : key ≠ .gas) (settings : SettingsTable) :
    Alike Outcome.withoutSnippets ((key.withWindows settings).check (.str first))
      ((key.withWindows settings).check (.str second)) := by
  have hverdict : Alike Verdict.withoutSnippets (key.rule settings (.ofSource first.toList))
      (key.rule settings (.ofSource second.toList)) := by
    unfold Sheet.ofSource
    rw [same]
    apply readsCode_rule notGas settings
  rw [key.withWindows_eq_ofRule]
  unfold Analyzer.ofRule
  apply hverdict.bind
  intro verdict verdict' hsame
  apply alike_ok_iff.mpr
  obtain ⟨hvulnerabilities, hissues⟩ := Verdict.mk.inj hsame
  simp only [Outcome.withoutSnippets, hvulnerabilities, hissues]

theorem vulnerabilities_check_gas (settings : SettingsTable) (source : String) :
    ((gas.withWindows settings).check (.str source)).map (fun outcome ↦
      outcome.vulnerabilities.map Finding.withoutSnippet) = .ok [] := rfl

/-- The rule for gas finds no vulnerabilities, so it makes no exception here. -/
theorem alike_vulnerabilities (same : Comment.strip first.toList = Comment.strip second.toList) (key : BuiltIn)
    (settings : SettingsTable) :
    Alike (fun outcome : Outcome ↦ outcome.vulnerabilities.map Finding.withoutSnippet)
      ((key.withWindows settings).check (.str first)) ((key.withWindows settings).check (.str second)) := by
  by_cases hgas : key = .gas
  · unfold Alike
    rw [hgas, vulnerabilities_check_gas, vulnerabilities_check_gas]
  · exact (alike_check same hgas settings).comp (·.vulnerabilities)

end BuiltIn

/-! ## Merging and scoring -/

namespace Tally

variable {findings others : List Finding}

/-- Which findings are repetitions does not depend on snippets. -/
theorem map_withoutSnippet_dropRepeated (seen : List String) (findings : List Finding) :
    (dropRepeated seen findings).map Finding.withoutSnippet =
      dropRepeated seen (findings.map Finding.withoutSnippet) := by
  induction findings generalizing seen with
  | nil => rfl
  | cons finding rest ih =>
    rw [List.map_cons, dropRepeated, dropRepeated, Finding.key_withoutSnippet]
    split
    · exact ih seen
    · rw [List.map_cons, ih]

theorem map_withoutSnippet_ranked (findings : List Finding) :
    (ranked findings).map Finding.withoutSnippet = ranked (findings.map Finding.withoutSnippet) := by
  unfold ranked
  apply List.map_mergeSort
  intro first _ second _
  rfl

theorem map_withoutSnippet_ranked_unique
    (h : findings.map Finding.withoutSnippet = others.map Finding.withoutSnippet) :
    (ranked (unique findings)).map Finding.withoutSnippet = (ranked (unique others)).map Finding.withoutSnippet := by
  unfold unique
  rw [map_withoutSnippet_ranked, map_withoutSnippet_ranked, map_withoutSnippet_dropRepeated,
    map_withoutSnippet_dropRepeated, h]

/-- A part of findings that is no snippet is the same for findings that agree up to snippets. -/
theorem map_congr_withoutSnippet {α : Type} {part : Finding → α}
    (hpart : ∀ finding, part finding.withoutSnippet = part finding)
    (h : findings.map Finding.withoutSnippet = others.map Finding.withoutSnippet) :
    findings.map part = others.map part := by
  have hmap (list : List Finding) : (list.map Finding.withoutSnippet).map part = list.map part := by
    rw [List.map_map]
    apply List.map_congr_left
    intro finding _
    exact hpart finding
  calc
    findings.map part = (findings.map Finding.withoutSnippet).map part := (hmap findings).symm
    _ = (others.map Finding.withoutSnippet).map part := by rw [h]
    _ = others.map part := hmap others

theorem countBySeverity_congr (h : findings.map (·.severity) = others.map (·.severity)) :
    countBySeverity findings = countBySeverity others := by
  have hcount (list : List Finding) (severity : Severity) :
      list.countP (·.severity == severity) = (list.map (·.severity)).count severity := by
    rw [List.count, List.countP_map]
    rfl
  unfold countBySeverity
  simp only [hcount, h]

end Tally

theorem Score.ofFindings_congr {findings others : List Finding}
    (h : findings.map (·.severity) = others.map (·.severity)) (deductions : Deductions) :
    ofFindings deductions findings = ofFindings deductions others := by
  have hpoints : pointsOf (deductionsOr deductions) findings = pointsOf (deductionsOr deductions) others := by
    have hmap (list : List Finding) : list.map (fun finding ↦ deduction (deductionsOr deductions) finding.severity) =
        (list.map (·.severity)).map (deduction (deductionsOr deductions)) := by
      rw [List.map_map]
      rfl
    rw [pointsOf_eq, pointsOf_eq, hmap, hmap, h]
  unfold ofFindings riskOf
  rw [hpoints, h]

namespace Outcome

theorem map_withoutSnippet_reported (outcomes : List Outcome) :
    (reported outcomes).map Finding.withoutSnippet = reported (outcomes.map withoutSnippets) := by
  unfold reported
  rw [List.map_flatMap, List.flatMap_map]
  apply List.flatMap_congr
  intro outcome _
  simp only [withoutSnippets, List.map_map, Function.comp_def, Finding.withoutSnippet_reportedBy]

end Outcome

/-! ## Registries -/

namespace Registry

/-- An analyzer that judges two sources alike leaves the same outcome, also when it is stopped. -/
theorem withoutSnippets_runOne {analyzer : Analyzer} {source other : Value}
    (h : Alike Outcome.withoutSnippets (analyzer.check source) (analyzer.check other)) :
    (runOne source analyzer).withoutSnippets = (runOne other analyzer).withoutSnippets := by
  unfold runOne
  rcases h.cases with ⟨fault, hfirst, hsecond⟩ | ⟨outcome, outcome', hfirst, hsecond, hview⟩
  · rw [hfirst, hsecond]
  · rw [hfirst, hsecond]
    exact hview

/-- What analyzers report on sources with the same code agrees up to snippets. -/
theorem map_withoutSnippet_reported_run {entries : List (BuiltIn × SettingsTable)}
    (notGas : ∀ entry ∈ entries, entry.1 ≠ .gas) {first second : String}
    (same : Comment.strip first.toList = Comment.strip second.toList) :
    (Outcome.reported ((ofEntries entries).run (.str first))).map Finding.withoutSnippet =
      (Outcome.reported ((ofEntries entries).run (.str second))).map Finding.withoutSnippet := by
  rw [Outcome.map_withoutSnippet_reported, Outcome.map_withoutSnippet_reported]
  congr 1
  simp only [run, ofEntries, List.map_map]
  apply List.map_congr_left
  intro entry hentry
  apply withoutSnippets_runOne
  exact BuiltIn.alike_check same (notGas entry hentry) entry.2

theorem countable_combined_nil (entries : List (BuiltIn × SettingsTable)) (source : String) :
    (Tally.combined ((ofEntries entries).run (.str source)) []).Countable := by
  intro finding hfinding
  rw [Tally.vulnerabilities_combined, Tally.mem_ranked, List.map_nil] at hfinding
  simp only [Tally.dropRepeated, List.append_nil] at hfinding
  exact Value.hashable_of_isText (isText_of_mem_reported ((Tally.unique_sublist _).subset hfinding))

/-- Comments cannot influence vulnerabilities. If two sources have the same code once their comments are stripped, then
each built-in analyzer but the one for gas stops with the same fault on both, or reports the same findings up to
snippets, in the same order. Registries of such analyzers therefore give the same counts and the same score on both. -/
theorem comments_without_influence (first second : String)
    (same : Comment.strip first.toList = Comment.strip second.toList) :
    (∀ (key : BuiltIn) (settings : SettingsTable), key ≠ .gas →
      Alike Outcome.withoutSnippets ((key.withWindows settings).check (.str first))
        ((key.withWindows settings).check (.str second))) ∧
    ∀ entries : List (BuiltIn × SettingsTable), (∀ entry ∈ entries, entry.1 ≠ .gas) →
      ∃ tally other,
        Tally.ofOutcomes (((ofEntries entries).run (.str first)).map .proper) [] = .ok tally ∧
        Tally.ofOutcomes (((ofEntries entries).run (.str second)).map .proper) [] = .ok other ∧
        tally.severityCounts = other.severityCounts ∧ tally.categoryCounts = other.categoryCounts ∧
        ∀ deductions,
          Score.ofFindings deductions tally.vulnerabilities = Score.ofFindings deductions other.vulnerabilities := by
  refine ⟨fun key settings notGas ↦ BuiltIn.alike_check same notGas settings, fun entries notGas ↦ ?_⟩
  refine ⟨_, _, Tally.ofOutcomes_of_countable (countable_combined_nil entries first),
    Tally.ofOutcomes_of_countable (countable_combined_nil entries second), ?_⟩
  have hreported : (Tally.combined ((ofEntries entries).run (.str first)) []).vulnerabilities.map
        Finding.withoutSnippet =
      (Tally.combined ((ofEntries entries).run (.str second)) []).vulnerabilities.map Finding.withoutSnippet := by
    simp only [Tally.combined, List.map_nil, List.append_nil]
    exact Tally.map_withoutSnippet_ranked_unique (map_withoutSnippet_reported_run notGas same)
  have hseverities := Tally.map_congr_withoutSnippet Finding.severity_withoutSnippet hreported
  have hcategories := Tally.map_congr_withoutSnippet Finding.category_withoutSnippet hreported
  refine ⟨Tally.countBySeverity_congr hseverities, ?_, fun deductions ↦ Score.ofFindings_congr hseverities deductions⟩
  exact congrArg (List.foldl Tally.addCategory []) hcategories

def annotatedCall : String := "a.call(b); // checked by the caller\nselfdestruct(owner);"

def blockedCall : String := "a.call(b); /* require(success) */\nselfdestruct(owner);"

theorem comments_without_influence_annotatedCall :
    Comment.strip annotatedCall.toList = Comment.strip blockedCall.toList ∧
    (∀ (key : BuiltIn) (settings : SettingsTable), key ≠ .gas →
      Alike Outcome.withoutSnippets ((key.withWindows settings).check (.str annotatedCall))
        ((key.withWindows settings).check (.str blockedCall))) ∧
    ∃ tally other,
      Tally.ofOutcomes (((ofEntries [(.uncheckedCall, []), (.selfDestruct, [])]).run (.str annotatedCall)).map .proper)
        [] = .ok tally ∧
      Tally.ofOutcomes (((ofEntries [(.uncheckedCall, []), (.selfDestruct, [])]).run (.str blockedCall)).map .proper)
        [] = .ok other ∧
      tally.severityCounts = other.severityCounts ∧ tally.categoryCounts = other.categoryCounts ∧
      ∀ deductions,
        Score.ofFindings deductions tally.vulnerabilities = Score.ofFindings deductions other.vulnerabilities := by
  have hsame : Comment.strip annotatedCall.toList = Comment.strip blockedCall.toList := by decide
  obtain ⟨hcheck, hregistry⟩ := comments_without_influence annotatedCall blockedCall hsame
  exact ⟨hsame, hcheck, hregistry _ (by decide)⟩

end Registry

end ContractAudit
