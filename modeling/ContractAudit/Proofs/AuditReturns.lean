import ContractAudit.Proofs.AuditSteps
import ContractAudit.Proofs.CatalogueLayout
import ContractAudit.Proofs.JsonRoundTrip

/-!
# When audits return

The built-in analyzers never stop an audit: what they report can be counted, shown and listed. The answer of a language
model can, in two ways. A score may be too large to compare, and a finding that was not reported before may have a
location, or a piece of code, that is present and no text. The main statement says that nothing else stops an audit with
the default registry, and that the result is marked as degraded exactly after an answer that could not be read. It
leaves out answers that escape half a character without the other half, and answers that are nested very deeply.
-/

namespace ContractAudit

/-! ## What a model answers -/

namespace Advisor

/-- The wording of a finding in an answer is always made of texts. -/
theorem isText_of_finding?_eq_some {value : Value} {finding : Finding} (h : finding? value = some finding) :
    finding.category.isText = true ∧ finding.description.isText = true ∧ finding.recommendation.isText = true := by
  cases value with
  | map entries =>
    rw [finding?] at h
    split at h
    · obtain ⟨severity, -, rfl⟩ := Option.map_eq_some_iff.mp h
      exact ⟨rfl, rfl, rfl⟩
    · cases h
  | _ => cases h

theorem Answer.findings_of_ofValue?_eq_some {value : Value} {answer : Answer}
    (h : Answer.ofValue? value = some answer) : ∃ items, answer.findings = List.filterMap finding? items := by
  rw [Answer.ofValue?.eq_def] at h
  split at h
  · split at h
    · next items _ =>
      cases h
      exact ⟨items, rfl⟩
    · cases h
  · cases h

/-- Every finding of an answer was made from a value in it. -/
theorem Answer.exists_of_mem_findings {text : List Char} {answer : Answer} (h : Answer.read text = .ok answer)
    {finding : Finding} (hfinding : finding ∈ answer.findings) : ∃ value, finding? value = some finding := by
  rw [Answer.read] at h
  split at h
  · cases h
  · cases h
    exact absurd hfinding List.not_mem_nil
  · next value _ =>
    cases h
    cases hvalue : Answer.ofValue? value with
    | none =>
      rw [hvalue] at hfinding
      exact absurd hfinding List.not_mem_nil
    | some answer =>
      rw [hvalue, Option.getD_some] at hfinding
      obtain ⟨items, hitems⟩ := Answer.findings_of_ofValue?_eq_some hvalue
      rw [hitems] at hfinding
      obtain ⟨item, -, hitem⟩ := List.mem_filterMap.mp hfinding
      exact ⟨item, hitem⟩

end Advisor

namespace ReportFormat

/-- Whether a finding of a model can be shown: its location everywhere but in JSON, its code in HTML. -/
theorem shows_fromModel_iff {value : Value} {finding : Finding} (h : Advisor.finding? value = some finding)
    (format : ReportFormat) :
    format.shows finding.fromModel = true ↔
      (format ≠ .json → finding.location.isTextIfPresent = true) ∧
        (format = .html → finding.snippet.isTextIfPresent = true) := by
  obtain ⟨hcategory, hdescription, hrecommendation⟩ := Advisor.isText_of_finding?_eq_some h
  cases format <;> simp [shows, Finding.fromModel, hcategory, hdescription, hrecommendation]

end ReportFormat

/-- Nothing can be said about a reported score exactly when it is too large. -/
theorem Score.pointsNotes_eq_none_iff {score : Score} {reported : Value} :
    score.pointsNotes reported = none ↔ readReported reported = .tooLarge := by
  rw [pointsNotes.eq_def]
  split
  · exact iff_of_false (by simp) (by simp [readReported, Value.integer?])
  · split
    · next h => simp [h]
    · next h => simp [h]
    · next h =>
      rw [h]
      split <;> simp

/-- Only a score that is too large keeps an answer from being compared. -/
theorem Auditor.returns_answerNotes {score : Score} {answer : Option Advisor.Answer} {degraded : Bool} :
    Returns (answerNotes score answer degraded) ↔
      (degraded = false → ∀ given ∈ answer, Score.readReported given.securityScore ≠ .tooLarge) := by
  cases degraded with
  | true => simp [answerNotes]
  | false =>
    cases answer with
    | none => simp [answerNotes]
    | some given =>
      simp only [answerNotes, Score.crossCheck, Option.mem_some_iff, forall_eq', true_implies, Ne,
        ← score.pointsNotes_eq_none_iff]
      cases score.pointsNotes given.securityScore <;> simp

/-! ## The whole audit -/

/-- What holds of the findings of both sides holds of their tally. -/
theorem Tally.forall_mem_combined_iff {outcomes : List Outcome} {model : List Finding} {holds : Finding → Prop} :
    (∀ finding ∈ (combined outcomes model).vulnerabilities, holds finding) ↔
      (∀ finding ∈ unique (Outcome.reported outcomes), holds finding) ∧
        ∀ finding ∈ dropRepeated ((Outcome.reported outcomes).map Finding.key) (model.map (·.fromModel)),
          holds finding := by
  simp only [vulnerabilities_combined, mem_ranked, List.forall_mem_append]

namespace Auditor

variable {auditor : Auditor} {source language : String}

/-- An audit returns exactly when its tally can be counted, the answer can be compared with the score, and every format
can show the tally. -/
theorem returns_audit_iff (name : String) {outcomes : List Outcome} {answer : Option Advisor.Answer} {degraded : Bool}
    {tally : Tally} (houtcomes : auditor.outcomes (.str source) (languageOr language) = .ok outcomes)
    (hconsultation : auditor.consultation (.str source) (.str language) = (answer, degraded))
    (htally : tally = Tally.combined outcomes ((answer.map (·.findings)).getD [])) :
    Returns (auditor.audit (.str source) (.str language) name) ↔
      tally.Countable ∧
        Returns (answerNotes (Score.ofFindings auditor.deductions tally.vulnerabilities) answer degraded) ∧
        ∀ format ∈ auditor.formats, (∀ finding ∈ tally.vulnerabilities, format.shows finding = true) ∧
          ∀ finding ∈ tally.optimizations, format.lists finding = true := by
  subst htally
  constructor
  · rintro ⟨result, haudit⟩
    obtain ⟨_, report, rendered, ⟨⟩, hreport, hrendered, -⟩ := audit_eq_ok_iff.mp haudit
    rw [hconsultation] at hreport
    obtain ⟨others, notes, text, hothers, hcountable, hnotes, ⟨⟩, rfl⟩ := analyze_eq_ok_iff.mp hreport
    cases houtcomes.symm.trans hothers
    exact ⟨hcountable, ⟨notes, hnotes⟩, returns_renderAll.mp ⟨rendered, hrendered⟩⟩
  · rintro ⟨hcountable, ⟨notes, hnotes⟩, hshown⟩
    have hreport : auditor.analyze (.str source) language answer name degraded =
        .ok (auditor.reportOn source (languageOr language) outcomes answer name degraded notes) :=
      analyze_eq_ok_iff.mpr ⟨outcomes, notes, source, houtcomes, hcountable, hnotes, rfl, rfl⟩
    obtain ⟨rendered, hrendered⟩ : Returns (renderAll (auditor.reportOn source (languageOr language) outcomes answer
        name degraded notes) auditor.formats) := returns_renderAll.mpr hshown
    refine ⟨_, audit_eq_ok_iff.mpr ⟨language, _, rendered, rfl, ?_, hrendered, rfl⟩⟩
    rw [hconsultation]
    exact hreport

/-- With built-in analyzers only the answer of the model matters. -/
theorem returns_audit_iff_of_ofEntries (name : String) {entries : List (BuiltIn × SettingsTable)}
    {answer : Option Advisor.Answer} {degraded : Bool}
    (houtcomes : auditor.outcomes (.str source) (languageOr language) =
      .ok ((Registry.ofEntries entries).run (.str source)))
    (hconsultation : auditor.consultation (.str source) (.str language) = (answer, degraded)) :
    Returns (auditor.audit (.str source) (.str language) name) ↔
      (degraded = false → ∀ given ∈ answer, Score.readReported given.securityScore ≠ .tooLarge) ∧
        ∀ finding ∈ Tally.dropRepeated
            ((Outcome.reported ((Registry.ofEntries entries).run (.str source))).map Finding.key)
            (((answer.map (·.findings)).getD []).map (·.fromModel)),
          finding.category.hashable = true ∧ ∀ format ∈ auditor.formats, format.shows finding = true := by
  rw [returns_audit_iff name houtcomes hconsultation rfl, returns_answerNotes, Tally.Countable,
    Tally.forall_mem_combined_iff]
  simp only [Tally.forall_mem_combined_iff]
  have hcountable : ∀ finding ∈ Tally.unique (Outcome.reported ((Registry.ofEntries entries).run (.str source))),
      finding.category.hashable = true := by
    intro finding hfinding
    exact Value.hashable_of_isText (Registry.isText_of_mem_reported ((Tally.unique_sublist _).subset hfinding))
  have hshown : ∀ format : ReportFormat,
      ∀ finding ∈ Tally.unique (Outcome.reported ((Registry.ofEntries entries).run (.str source))),
        format.shows finding = true := by
    intro format finding hfinding
    exact Registry.shows_of_mem_reported ((Tally.unique_sublist _).subset hfinding) format
  have hlisted : ∀ format : ReportFormat, ∀ finding ∈ (Tally.combined ((Registry.ofEntries entries).run (.str source))
      ((answer.map (·.findings)).getD [])).optimizations, format.lists finding = true := by
    intro format finding hfinding
    exact Registry.lists_of_mem_advised ((Tally.unique_sublist _).subset (Tally.mem_ranked.mp hfinding)) format
  constructor
  · rintro ⟨⟨-, hhashable⟩, hnotes, hformats⟩
    refine ⟨hnotes, fun finding hfinding ↦ ⟨hhashable finding hfinding, fun format hformat ↦ ?_⟩⟩
    exact (hformats format hformat).1.2 finding hfinding
  · rintro ⟨hnotes, hmodel⟩
    refine ⟨⟨hcountable, fun finding hfinding ↦ (hmodel finding hfinding).1⟩, hnotes, fun format hformat ↦ ?_⟩
    exact ⟨⟨hshown format, fun finding hfinding ↦ (hmodel finding hfinding).2 format hformat⟩, hlisted format⟩

/-- The default registry runs all built-in analyzers, or none in a language that they do not know. -/
theorem outcomes_default (hregistry : auditor.registry = .default) (hschedule : auditor.schedule = {}) :
    ∃ entries, auditor.outcomes (.str source) (languageOr language) =
        .ok ((Registry.ofEntries entries).run (.str source)) ∧
      Registry.default.findings (.str source) language =
        Outcome.reported ((Registry.ofEntries entries).run (.str source)) := by
  rw [outcomes, hregistry, hschedule, Registry.findings]
  have horDefault : Registry.default.orDefault = Registry.default := rfl
  rw [horDefault]
  by_cases hsupports : Registry.default.supports (languageOr language) = true
  · refine ⟨BuiltIn.all.map fun key ↦ (key, []), ?_, ?_⟩
    · rw [if_pos hsupports, ← Registry.default_eq_ofEntries]
      rfl
    · rw [if_pos hsupports, ← Registry.default_eq_ofEntries]
  · refine ⟨[], ?_, ?_⟩
    · rw [if_neg hsupports]
      rfl
    · rw [if_neg hsupports]
      rfl

end Auditor

/-! ## Audits with a model -/

/-- A model that answers every prompt with one text. -/
def Model.answering (text : String) : Model := ⟨fun _ ↦ .answered (.str text)⟩

namespace Auditor

variable {auditor : Auditor} {source language : String}

/-- An answer that cannot be read degrades the audit. -/
theorem consultation_of_unread {text : String} (hmodel : auditor.model = some (.answering text))
    (source language : Value)
    (h : ∀ answer, Advisor.Answer.read text.toList = .ok answer → answer.unreadable = true) :
    auditor.consultation source language = (none, true) := by
  rw [consultation, hmodel]
  dsimp only [Option.map_some, consult, Model.advisor, Model.answering, Advisor.Answer.readValue]
  cases hread : Advisor.Answer.read text.toList with
  | error fault => rfl
  | ok answer => exact if_pos (h answer hread)

/-- A readable answer is the outcome of asking the model, and the audit is not degraded. -/
theorem consultation_of_read {text : String} (hmodel : auditor.model = some (.answering text))
    (source language : Value) {answer : Advisor.Answer} (hread : Advisor.Answer.read text.toList = .ok answer)
    (hreadable : answer.unreadable = false) : auditor.consultation source language = (some answer, false) := by
  rw [consultation, hmodel]
  dsimp only [Option.map_some, consult, Model.advisor, Model.answering, Advisor.Answer.readValue]
  rw [hread]
  exact if_neg (Bool.eq_false_iff.mp hreadable)

/-- An answer that cannot be read stops no audit. -/
theorem returns_audit_of_unread {text : String} (hregistry : auditor.registry = .default)
    (hschedule : auditor.schedule = {}) (hmodel : auditor.model = some (.answering text)) (name : String)
    (h : ∀ answer, Advisor.Answer.read text.toList = .ok answer → answer.unreadable = true) :
    Returns (auditor.audit (.str source) (.str language) name) := by
  obtain ⟨entries, houtcomes, -⟩ := outcomes_default hregistry hschedule
  rw [returns_audit_iff_of_ofEntries name houtcomes (consultation_of_unread hmodel _ _ h)]
  exact ⟨nofun, fun _ hfinding ↦ absurd hfinding List.not_mem_nil⟩

/-- An answer that can be read stops the audit if its score is too large, or if one of its new findings cannot be
shown. -/
theorem returns_audit_iff_of_read {text : String} (hregistry : auditor.registry = .default)
    (hschedule : auditor.schedule = {}) (hmodel : auditor.model = some (.answering text)) (name : String)
    {answer : Advisor.Answer} (hread : Advisor.Answer.read text.toList = .ok answer)
    (hreadable : answer.unreadable = false) :
    Returns (auditor.audit (.str source) (.str language) name) ↔
      Score.readReported answer.securityScore ≠ .tooLarge ∧
        ∀ finding ∈ Tally.dropRepeated ((Registry.default.findings (.str source) language).map Finding.key)
            (answer.findings.map (·.fromModel)),
          ∀ format ∈ auditor.formats, (format ≠ .json → finding.location.isTextIfPresent = true) ∧
            (format = .html → finding.snippet.isTextIfPresent = true) := by
  obtain ⟨entries, houtcomes, hfindings⟩ := outcomes_default hregistry hschedule
  rw [returns_audit_iff_of_ofEntries name houtcomes (consultation_of_read hmodel _ _ hread hreadable), hfindings]
  refine and_congr (by simp) (forall₂_congr fun finding hfinding ↦ ?_)
  obtain ⟨original, horiginal, rfl⟩ := List.mem_map.mp ((Tally.dropRepeated_sublist _ _).subset hfinding)
  obtain ⟨value, hvalue⟩ := Advisor.Answer.exists_of_mem_findings hread horiginal
  have hhashable : original.fromModel.category.hashable = true :=
    Value.hashable_of_isText (Advisor.isText_of_finding?_eq_some hvalue).1
  rw [and_iff_right hhashable]
  exact forall₂_congr fun format _ ↦ ReportFormat.shows_fromModel_iff hvalue format

/-- The mark on a result says whether the advisor could not be had. -/
theorem degraded_of_audit_eq_ok {name : String} {result : AuditResult}
    (h : auditor.audit (.str source) (.str language) name = .ok result) :
    result.report.degraded = (auditor.consultation (.str source) (.str language)).2 := by
  obtain ⟨languageName, report, rendered, -, hreport, -, rfl⟩ := audit_eq_ok_iff.mp h
  obtain ⟨outcomes, notes, text, -, -, -, -, rfl⟩ := analyze_eq_ok_iff.mp hreport
  rfl

end Auditor

/-! ## Answers that are read as they stand -/

namespace Json

/-- The code units that a text spells, with its escapes. -/
def units : List Char → List Nat
  | '\\' :: 'u' :: a :: b :: c :: d :: rest =>
    [a, b, c, d].foldl (fun unit digit ↦ 16 * unit + (hexValue? digit).getD 0) 0 :: units rest
  | '\\' :: _ :: rest => 0 :: units rest
  | c :: rest => c.toNat :: units rest
  | [] => []

def isHighHalf (unit : Nat) : Bool := 0xD800 ≤ unit && unit < 0xDC00

def isLowHalf (unit : Nat) : Bool := 0xDC00 ≤ unit && unit < 0xE000

/-- Whether every half of a character comes with its other half. -/
def paired : List Nat → Bool
  | unit :: next :: rest =>
    if isHighHalf unit then isLowHalf next && paired rest else !isLowHalf unit && paired (next :: rest)
  | [unit] => !isHighHalf unit && !isLowHalf unit
  | [] => true

variable {shallow deep : List Char → Except Fault (Value × List Char)} {text : List Char}

/-- The second reader does what the first one does, wherever that one is not stopped by its depth. -/
def Extends (shallow deep : List Char → Except Fault (Value × List Char)) : Prop :=
  ∀ text, shallow text ≠ .error .tooDeep → deep text = shallow text

theorem Extends.readItems_eq (h : Extends shallow deep) {limit : Nat}
    (hread : readItems shallow limit text ≠ .error .tooDeep) :
    readItems deep limit text = readItems shallow limit text := by
  induction limit generalizing text with
  | zero => rfl
  | succ limit ih =>
    rw [readItems] at hread
    have hitem : deep text = shallow text := h text fun htoo ↦ hread (by rw [htoo]; rfl)
    rw [readItems, readItems, hitem]
    cases hfound : shallow text with
    | error fault => rfl
    | ok found =>
      rw [hfound] at hread
      simp only [bind, Except.bind] at hread ⊢
      split at hread
      · rfl
      · next rest _ =>
        rw [ih fun htoo ↦ hread (by rw [htoo])]
      · rfl

theorem Extends.readEntries_eq (h : Extends shallow deep) {limit : Nat} {entries : List (Value × Value)}
    (hread : readEntries shallow limit entries text ≠ .error .tooDeep) :
    readEntries deep limit entries text = readEntries shallow limit entries text := by
  induction limit generalizing entries text with
  | zero => rfl
  | succ limit ih =>
    by_cases hquote : ∃ rest, text = '"' :: rest
    · obtain ⟨rest, rfl⟩ := hquote
      rw [readEntries] at hread
      rw [readEntries, readEntries]
      cases hkey : readString rest with
      | error fault => rfl
      | ok found =>
        simp only [hkey, bind, Except.bind] at hread ⊢
        split at hread
        · next rest _ =>
          have hvalue : deep (skipSpace rest) = shallow (skipSpace rest) := h _ fun htoo ↦ hread (by rw [htoo])
          rw [hvalue]
          cases hfound : shallow (skipSpace rest) with
          | error fault => rfl
          | ok found =>
            simp only [hfound] at hread ⊢
            split at hread
            · rfl
            · exact ih hread
            · rfl
        · rfl
    · have hmalformed (read : List Char → Except Fault (Value × List Char)) :
          readEntries read (limit + 1) entries text = .error .malformed :=
        readEntries.eq_3 read entries text limit fun rest heq ↦ hquote ⟨rest, heq⟩
      rw [hmalformed, hmalformed]

theorem readValue_cases (text : List Char) :
    (∀ limit, readValue limit text = readScalar text) ∨
      (∃ rest, text = '[' :: rest) ∨ ∃ rest, text = '\x7b' :: rest := by
  cases text with
  | nil =>
    refine Or.inl fun limit ↦ ?_
    cases limit with
    | zero => rfl
    | succ limit => rfl
  | cons c rest =>
    by_cases hlist : c = '['
    · exact Or.inr (Or.inl ⟨rest, by rw [hlist]⟩)
    by_cases hobject : c = '\x7b'
    · exact Or.inr (Or.inr ⟨rest, by rw [hobject]⟩)
    exact Or.inl fun limit ↦ readValue_of_scalar hlist hobject limit rest

/-- A reader that may go deeper reads the same, unless the text is nested too deeply for the other one. -/
theorem extends_readValue {limit other : Nat} (hle : limit ≤ other) : Extends (readValue limit) (readValue other) := by
  induction limit generalizing other with
  | zero =>
    intro text hread
    rcases readValue_cases text with hscalar | ⟨rest, rfl⟩ | ⟨rest, rfl⟩
    · rw [hscalar, hscalar]
    · exact absurd rfl hread
    · exact absurd rfl hread
  | succ limit ih =>
    obtain ⟨other, rfl⟩ := Nat.exists_eq_succ_of_ne_zero (Nat.ne_of_gt (Nat.lt_of_lt_of_le limit.succ_pos hle))
    have hinner := ih (Nat.le_of_succ_le_succ hle)
    intro text hread
    rcases readValue_cases text with hscalar | ⟨rest, rfl⟩ | ⟨rest, rfl⟩
    · rw [hscalar, hscalar]
    · rw [readValue] at hread
      rw [readValue, readValue]
      split at hread
      · rfl
      · rw [hinner.readItems_eq fun htoo ↦ hread (by rw [htoo]; rfl)]
    · rw [readValue] at hread
      rw [readValue, readValue]
      split at hread
      · rfl
      · rw [hinner.readEntries_eq fun htoo ↦ hread (by rw [htoo]; rfl)]

/-- Reading the text comes upon no collection inside so many others. -/
def NestsWithin (limit : Nat) (text : List Char) : Prop := readValue limit (skipSpace text) ≠ .error .tooDeep

theorem NestsWithin.read_ne_tooDeep {limit : Nat} (h : NestsWithin limit text) (hle : limit ≤ maxDepth) :
    read text ≠ .error .tooDeep := by
  rw [read, extends_readValue hle _ h]
  cases hread : readValue limit (skipSpace text) with
  | error fault =>
    rintro ⟨⟩
    exact h hread
  | ok found =>
    simp only [bind, Except.bind]
    split
    · rintro ⟨⟩
    · rintro ⟨⟩

end Json

namespace Advisor

/-- Reading the text comes upon at most two hundred collections inside each other. Every half of a character that it
escapes comes with the other half; a single one is no character. -/
structure Legible (text : List Char) : Prop where
  paired : Json.paired (Json.units (unwrap text)) = true
  shallow : Json.NestsWithin 200 (unwrap text)

/-- A legible text is read, possibly as an answer that is unreadable. -/
theorem Legible.returns_read {text : List Char} (h : Legible text) : Returns (Answer.read text) := by
  have hread := h.shallow.read_ne_tooDeep (by decide)
  unfold Answer.read
  split
  · next htoo => exact absurd htoo hread
  · exact returns_ok _
  · exact returns_ok _

/-- An answer that stops no audit. Its score can be compared, and those of its findings that repeat no known key can be
shown: in every format but JSON their location is absent or a text, and in HTML so is their code. -/
structure Answer.Harmless (answer : Answer) (keys : List String) (formats : List ReportFormat) : Prop where
  score : Score.readReported answer.securityScore ≠ .tooLarge
  shown : ∀ finding ∈ Tally.dropRepeated keys (answer.findings.map (·.fromModel)), ∀ format ∈ formats,
    (format ≠ .json → finding.location.isTextIfPresent = true) ∧
      (format = .html → finding.snippet.isTextIfPresent = true)

end Advisor

namespace Auditor

/-- Which answers stop an audit with the default registry. A legible text is read as an answer. The audit returns
exactly if this answer is unreadable or harmless, and the result is marked as degraded exactly if it is unreadable. -/
theorem audit_returns_iff_answer_harmless (text source language name : String) (store : Option Store)
    (deductions : Deductions) (formats : List ReportFormat) (hlegible : Advisor.Legible text.toList) :
    ∃ answer, Advisor.Answer.read text.toList = .ok answer ∧
      ((∃ result, { model := some (.answering text), store, deductions, formats : Auditor }.audit (.str source)
          (.str language) name = .ok result) ↔
        answer.unreadable = true ∨
          answer.Harmless ((Registry.default.findings (.str source) language).map Finding.key) formats) ∧
      ∀ result, { model := some (.answering text), store, deductions, formats : Auditor }.audit (.str source)
          (.str language) name = .ok result → result.report.degraded = answer.unreadable := by
  obtain ⟨answer, hread⟩ := hlegible.returns_read
  refine ⟨answer, hread, ?_⟩
  cases hreadable : answer.unreadable with
  | true =>
    have hunread : ∀ other, Advisor.Answer.read text.toList = .ok other → other.unreadable = true := by
      intro other hother
      cases hread.symm.trans hother
      exact hreadable
    refine ⟨iff_of_true (returns_audit_of_unread rfl rfl rfl name hunread) (Or.inl rfl), fun result hresult ↦ ?_⟩
    rw [degraded_of_audit_eq_ok hresult, consultation_of_unread rfl _ _ hunread]
  | false =>
    refine ⟨?_, fun result hresult ↦ ?_⟩
    · rw [or_iff_right Bool.false_ne_true]
      apply (returns_audit_iff_of_read rfl rfl rfl name hread hreadable).trans
      exact ⟨fun h ↦ ⟨h.1, h.2⟩, fun h ↦ ⟨h.score, h.shown⟩⟩
    · rw [degraded_of_audit_eq_ok hresult, consultation_of_read rfl _ _ hread hreadable]

/-- An answer in prose is no JSON. The audit returns, and its report is degraded. -/
theorem audit_returns_iff_answer_harmless_prose :
    ∃ result, { model := some (.answering "No issues.") : Auditor }.audit (.str "contract C \x7b\x7d") (.str "solidity")
      "" = .ok result ∧ result.report.degraded = true := by
  have hlegible : Advisor.Legible "No issues.".toList := ⟨by decide +kernel, nofun⟩
  obtain ⟨answer, hread, hreturns, hdegraded⟩ := audit_returns_iff_answer_harmless "No issues." "contract C \x7b\x7d"
    "solidity" "" none [] [.json, .markdown] hlegible
  have hunread : Advisor.Answer.read "No issues.".toList = .ok .unread := rfl
  cases hread.symm.trans hunread
  obtain ⟨result, hresult⟩ := hreturns.mpr (Or.inl rfl)
  exact ⟨result, hresult, hdegraded result hresult⟩

def listedLocation : String :=
  "\x7b\"vulnerabilities\": [\x7b\"type\": \"Locked Ether\", \"severity\": \"LOW\", \"location\": [\"f\"]\x7d]\x7d"

/-- A model can make an audit fail: no result comes of an answer with a location that is a list. -/
theorem audit_stopped_by_listedLocation :
    ¬ ∃ result, { model := some (.answering listedLocation) : Auditor }.audit (.str "contract C \x7b\x7d")
      (.str "solidity") "" = .ok result := by
  intro hreturns
  let finding : Finding :=
    { category := .str "Locked Ether", severity := .low, description := .str "", origin := .ai,
      location := .list [.str "f"], named := rfl }
  have hread : Advisor.Answer.read listedLocation.toList = .ok { findings := [finding] } := rfl
  have hstatic : Registry.default.findings (.str "contract C \x7b\x7d") "solidity" = [] :=
    List.isEmpty_iff.mp (by decide +kernel)
  have hshown := ((returns_audit_iff_of_read rfl rfl rfl "" hread rfl).mp hreturns).2
  rw [hstatic] at hshown
  have hlocation := (hshown finding List.mem_cons_self .markdown (by decide)).1 (by decide)
  cases hlocation

end Auditor

end ContractAudit
