import ContractAudit.Advisor.Answer
import ContractAudit.Proofs.JsonData
import ContractAudit.Proofs.Positions
import Mathlib.Data.List.TakeWhile

/-!
# The findings in an answer

What a model answers is untrusted, and every entry of an answer is checked before it becomes a finding. The checks ask
for a category and for a severity, and for nothing else: an entry that has both becomes a finding, and what is unusable
in its other parts is dropped. Findings are made by a function with checks of its own. An entry that came through here
passes them all, so that no entry is lost there. Fences are removed before the answer is read, also where they stand in
a text, so an entry that quotes code is not reported as it was written.
-/

namespace ContractAudit

/-! ## Texts and numbers -/

namespace Text

/-- Nothing is left of a text exactly when it has only blanks. -/
theorem trim_eq_nil_iff {text : List Char} : trim text = [] ↔ ∀ c ∈ text, isBlank c = true := by
  constructor
  · intro hnil
    obtain ⟨before, after, htext, hblank⟩ := (trimmed_trim text).around
    rw [hnil, List.append_nil] at htext
    rwa [htext]
  · intro hall
    rw [trim, trimStart, List.dropWhile_eq_nil_iff.mpr hall]
    rfl

/-- Something is left of a text without the blanks around it exactly if it is not blank. -/
theorem strip_ne_empty_iff {text : String} : strip text ≠ "" ↔ ∃ c ∈ text.toList, isBlank c = false := by
  rw [strip, Ne, String.ofList_eq_empty_iff, trim_eq_nil_iff]
  simp

end Text

/-- The positive integers are line numbers, and nothing else is one. -/
theorem LineNumber.exists_mem_ofValue?_iff {value : Value} {n : Int} :
    (∃ number ∈ ofValue? value, (number.val : Int) = n) ↔ value = .int n ∧ 1 ≤ n := by
  constructor
  · rintro ⟨number, hnumber, rfl⟩
    have hpos : 1 ≤ (number.val : Int) := by exact_mod_cast number.property
    rw [ofValue?.eq_def] at hnumber
    split at hnumber
    · cases hnumber
      exact ⟨rfl, hpos⟩
    · cases hnumber
  · rintro ⟨rfl, hpos⟩
    obtain ⟨m, rfl⟩ : ∃ m : Nat, n = .ofNat (m + 1) := ⟨n.toNat - 1, by simp only [Int.ofNat_eq_natCast]; omega⟩
    exact ⟨_, rfl, rfl⟩

namespace Advisor

open Text

/-! ## What is asked of an entry -/

/-- The entry has a category: its type is present, and as a text it is not only blanks. -/
def HasCategory (entries : List (Value × Value)) : Prop :=
  (Value.field entries "type").truthy = true ∧ ∃ c ∈ (Value.field entries "type").text.toList, isBlank c = false

/-- The severity of the entry is a text that stands for the level, whatever its case and the blanks around it. -/
def NamesSeverity (entries : List (Value × Value)) (severity : Severity) : Prop :=
  ∃ name, Value.field entries "severity" = .str name ∧ (upper (strip name), severity) ∈ severityAliases

/-- The level that is read is the level that is named. -/
theorem severity?_eq_some_iff {entries : List (Value × Value)} {severity : Severity} :
    severity? (Value.field entries "severity") = some severity ↔ NamesSeverity entries severity := by
  have hdistinct : Json.DistinctKeys severityAliases := by decide
  rw [NamesSeverity]
  cases Value.field entries "severity" with
  | str name =>
    rw [severity?, hdistinct.lookup_eq_some_iff]
    simp
  | _ => simp [severity?]

theorem truthy_category_iff {entries : List (Value × Value)} :
    (Value.str (strip (textOf (Value.field entries "type")))).truthy = true ↔ HasCategory entries := by
  rw [Value.truthy, Bool.not_eq_true', String.isEmpty_eq_false_iff, strip_ne_empty_iff, HasCategory, textOf]
  split
  · next hpresent => simp [hpresent]
  · next habsent => simp [habsent]

/-! ## How an entry becomes a finding -/

def lineOf (entries : List (Value × Value)) : Value :=
  if (LineNumber.ofValue? (Value.field entries "line")).isSome then Value.field entries "line" else .null

/-- The parts from which the finding of an entry with a severity is made. -/
def entryParts (entries : List (Value × Value)) (severity : Severity) : FindingParts where
  category := .str (strip (textOf (Value.field entries "type")))
  severity := .str severity.label
  description := .str (textOf (Value.field entries "description"))
  recommendation := .str (textOf (Value.field entries "recommendation"))
  line := lineOf entries
  snippet := present (Value.field entries "code")
  origin := .str Origin.ai.label
  location := present (Value.field entries "location")

/-- An entry that has what is asked for becomes a finding with everything usable in it. -/
theorem finding?_map {entries : List (Value × Value)} (category : HasCategory entries) {severity : Severity}
    (names : NamesSeverity entries severity) :
    finding? (.map entries) = some
      { category := .str (strip (textOf (Value.field entries "type")))
        severity
        description := .str (textOf (Value.field entries "description"))
        recommendation := .str (textOf (Value.field entries "recommendation"))
        line := LineNumber.ofValue? (Value.field entries "line")
        snippet := present (Value.field entries "code")
        origin := .ai
        location := present (Value.field entries "location")
        named := truthy_category_iff.mpr category } := by
  rw [finding?, dif_pos (truthy_category_iff.mpr category), severity?_eq_some_iff.mpr names]
  rfl

/-- Every other entry is left out. -/
theorem exists_of_finding?_eq_some {raw : Value} {finding : Finding} (h : finding? raw = some finding) :
    ∃ entries severity, raw = .map entries ∧ HasCategory entries ∧ NamesSeverity entries severity := by
  cases raw with
  | map entries =>
    rw [finding?] at h
    split at h
    · next hnamed =>
      obtain ⟨severity, hseverity, rfl⟩ := Option.map_eq_some_iff.mp h
      exact ⟨entries, severity, rfl, truthy_category_iff.mp hnamed, severity?_eq_some_iff.mp hseverity⟩
    · cases h
  | _ => cases h

/-- The parts of an accepted entry pass every check that is made of the parts of a finding. -/
theorem make_entryParts {entries : List (Value × Value)} {finding : Finding}
    (h : finding? (.map entries) = some finding) :
    Finding.make (entryParts entries finding.severity) = .ok finding := by
  obtain ⟨_, severity, ⟨⟩, category, names⟩ := exists_of_finding?_eq_some h
  rw [finding?_map category names] at h
  cases h
  have hnamed := truthy_category_iff.mpr category
  have horigin : Origin.ofValue? (.str Origin.ai.label) = some .ai := rfl
  simp only [Finding.make, entryParts, dif_pos hnamed, Severity.ofValue?_label, horigin, lineOf]
  cases hline : LineNumber.ofValue? (Value.field entries "line") with
  | none => rfl
  | some number =>
    rw [Option.isSome_some, if_pos rfl]
    split
    · next hnull =>
      rw [hnull] at hline
      cases hline
    · rw [hline]

/-- The category is the type without the blanks around it. -/
theorem trimmed_category {entries : List (Value × Value)} (category : HasCategory entries) :
    strip (textOf (Value.field entries "type")) ≠ "" ∧
      Trimmed (Value.field entries "type").text.toList (strip (textOf (Value.field entries "type"))).toList := by
  have htext : textOf (Value.field entries "type") = (Value.field entries "type").text := if_pos category.1
  rw [htext, strip, String.toList_ofList]
  exact ⟨strip_ne_empty_iff.mpr category.2, trimmed_trim _⟩

/-! ## Answers -/

/-- A text without a fence is left as it is. -/
theorem removeFences_of_not_infix {text : List Char} (h : ¬ "```".toList <:+: text) :
    removeFences false text = text := by
  induction text with
  | nil => rfl
  | cons c rest ih =>
    have hrest : ¬ "```".toList <:+: rest := fun hpart ↦ h (hpart.trans (List.suffix_cons c rest).isInfix)
    have hstart (others : List Char) (hc : c = '`') : rest ≠ '`' :: '`' :: others := by
      rintro rfl
      rw [hc] at h
      exact h ⟨[], others, rfl⟩
    rw [removeFences.eq_3 _ _ _ (fun _ ↦ hstart _) hstart, Bool.false_and, if_neg Bool.false_ne_true, ih hrest]

/-- A text that is an object with a list of vulnerabilities, fences aside, is a readable answer. Its findings are those
of the entries of the list. -/
theorem exists_readValue_of_read {text : String} {entries : List (Value × Value)} {items : List Value}
    (hread : Json.read (unwrap text.toList) = .ok (.map entries))
    (hitems : Value.field entries "vulnerabilities" = .list items) :
    ∃ answer, Answer.readValue (.str text) = .ok answer ∧ answer.findings = items.filterMap finding? ∧
      answer.unreadable = false := by
  rw [Answer.readValue, Answer.read, hread]
  simp only [Answer.ofValue?, hitems]
  exact ⟨_, rfl, rfl, rfl⟩

/-- Entries are checked completely. A value becomes a finding exactly if it is an object with a category and a known
severity. The finding then has passed every check of findings. It comes from the model and from no analyzer, has the
category without the blanks around it, the severity that was named, and the given line if that is a line number. The
findings of an answer are those of its entries, in their order, and the entries that are no findings do not make the
answer unreadable. The answer is what is left of a text without its fences, which is the text itself if it has none. -/
theorem entries_checked_completely (raw : Value) (text : String) :
    ((∃ finding, finding? raw = some finding) ↔
      ∃ entries severity, raw = .map entries ∧ HasCategory entries ∧ NamesSeverity entries severity) ∧
    (∀ entries finding, raw = .map entries → finding? raw = some finding →
      Finding.make (entryParts entries finding.severity) = .ok finding ∧
      finding.origin = .ai ∧ finding.analyzer = .null ∧
      (∃ category, finding.category = .str category ∧ category ≠ "" ∧
        Trimmed (Value.field entries "type").text.toList category.toList) ∧
      NamesSeverity entries finding.severity ∧
      ∀ n : Int, (∃ number ∈ finding.line, (number.val : Int) = n) ↔ Value.field entries "line" = .int n ∧ 1 ≤ n) ∧
    ∀ entries items,
      Json.read (unwrap text.toList) = .ok (.map entries) ∨
        ¬ "```".toList <:+: text.toList ∧ Json.read (trim text.toList) = .ok (.map entries) →
      Value.field entries "vulnerabilities" = .list items →
        ∃ answer, Answer.readValue (.str text) = .ok answer ∧ answer.findings = items.filterMap finding? ∧
          answer.unreadable = false := by
  refine ⟨⟨?_, ?_⟩, ?_, ?_⟩
  · rintro ⟨finding, h⟩
    exact exists_of_finding?_eq_some h
  · rintro ⟨entries, severity, rfl, category, names⟩
    exact ⟨_, finding?_map category names⟩
  · rintro entries finding rfl h
    have hmake := make_entryParts h
    obtain ⟨_, severity, ⟨⟩, category, names⟩ := exists_of_finding?_eq_some h
    rw [finding?_map category names] at h
    cases h
    obtain ⟨hne, htrimmed⟩ := trimmed_category category
    exact ⟨hmake, rfl, rfl, ⟨_, rfl, hne, htrimmed⟩, names, fun n ↦ LineNumber.exists_mem_ofValue?_iff⟩
  · rintro entries items (hread | ⟨hfence, hread⟩)
    · exact exists_readValue_of_read hread
    · rw [← removeFences_of_not_infix hfence] at hread
      exact exists_readValue_of_read hread

def proxyEntry : List (Value × Value) :=
  [(.str "type", .str " Proxy "), (.str "severity", .str "note "), (.str "line", .int 3)]

def mixedEntries : String :=
  "\x7b\"vulnerabilities\": [7, \x7b\"type\": \" Proxy \", \"severity\": \"note \", \"line\": 3\x7d]\x7d"

/-- The first entry is left out, and the second one is reported at its line with a low severity. -/
theorem entries_checked_completely_mixedEntries :
    ∃ finding answer, finding? (.map proxyEntry) = some finding ∧
      Finding.make (entryParts proxyEntry .low) = .ok finding ∧ finding.line = some (.ofIndex 2) ∧
      Answer.readValue (.str mixedEntries) = .ok answer ∧ answer.findings = [finding] ∧ answer.unreadable = false := by
  have hread : Json.read (unwrap mixedEntries.toList) =
      .ok (.map [(.str "vulnerabilities", .list [.int 7, .map proxyEntry])]) := rfl
  have hcategory : HasCategory proxyEntry := ⟨rfl, 'P', by decide, rfl⟩
  have hseverity : NamesSeverity proxyEntry .low := ⟨"note ", rfl, by decide⟩
  obtain ⟨hexists, hparts, hanswers⟩ := entries_checked_completely (.map proxyEntry) mixedEntries
  obtain ⟨finding, hfinding⟩ := hexists.mpr ⟨proxyEntry, .low, rfl, hcategory, hseverity⟩
  obtain ⟨answer, hanswer, hfindings, hreadable⟩ := hanswers _ _ (Or.inl hread) rfl
  obtain ⟨hmake, -⟩ := hparts proxyEntry finding rfl hfinding
  cases (finding?_map hcategory hseverity).symm.trans hfinding
  refine ⟨_, answer, hfinding, hmake, rfl, hanswer, ?_, hreadable⟩
  rw [hfindings, List.filterMap_cons_none rfl, List.filterMap_cons_some hfinding, List.filterMap_nil]

def bareEntry (category : String) : List (Value × Value) :=
  [(.str "type", .str category), (.str "severity", .str "LOW")]

def quotingAnswer : String :=
  "\x7b\"vulnerabilities\": [\x7b\"type\": \"Unsafe ```f``` call\", \"severity\": \"LOW\"\x7d]\x7d"

/-- Fences are removed inside of texts as well, so the finding of an answer need not be that of its entry. -/
theorem quotation_not_kept :
    ∃ entries item finding answer, Json.read quotingAnswer.toList = .ok (.map entries) ∧
      Value.field entries "vulnerabilities" = .list [item] ∧ finding? item = some finding ∧
      Answer.readValue (.str quotingAnswer) = .ok answer ∧ answer.findings ≠ [finding] := by
  have hread : Json.read quotingAnswer.toList =
      .ok (.map [(.str "vulnerabilities", .list [.map (bareEntry "Unsafe ```f``` call")])]) := rfl
  have hunwrapped : Json.read (unwrap quotingAnswer.toList) =
      .ok (.map [(.str "vulnerabilities", .list [.map (bareEntry "Unsafe fcall")])]) := rfl
  have hseverity (category : String) : NamesSeverity (bareEntry category) .low := ⟨"LOW", rfl, by decide⟩
  have hquoting : HasCategory (bareEntry "Unsafe ```f``` call") := ⟨rfl, 'U', by decide, rfl⟩
  have hchanged : HasCategory (bareEntry "Unsafe fcall") := ⟨rfl, 'U', by decide, rfl⟩
  obtain ⟨answer, hanswer, hfindings, -⟩ := exists_readValue_of_read hunwrapped rfl
  refine ⟨_, _, _, answer, hread, rfl, finding?_map hquoting (hseverity _), hanswer, ?_⟩
  rw [hfindings, List.filterMap_cons_some (finding?_map hchanged (hseverity _)), List.filterMap_nil]
  intro h
  have hne : strip (textOf (.str "Unsafe fcall")) ≠ strip (textOf (.str "Unsafe ```f``` call")) := by decide
  exact hne (Value.str.inj (congrArg Finding.category (List.cons.inj h).1))

end Advisor

end ContractAudit
