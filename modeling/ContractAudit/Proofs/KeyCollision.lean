import ContractAudit.Proofs.FindingKey
import ContractAudit.Proofs.Merging
import ContractAudit.Proofs.Rendering

/-!
# Findings that share a key

A key joins its parts with hyphens and escapes nothing, so it does not always tell where its category ends. Two findings
share a key in two ways only: they agree in all three parts, or the category of one of them goes on after the category
and the place of the other and overruns them into its description. Merging keeps the first of them and loses the second,
also when they are distinct. Lines have at most 4300 digits, so that every finding has a key.
-/

namespace ContractAudit

/-- Texts that read the same are equal as values. -/
theorem Value.eq_of_text_eq {first second : Value} (hfirst : first.isText = true) (hsecond : second.isText = true)
    (h : first.text = second.text) : first = second := by
  cases first with
  | str text =>
    cases second with
    | str other => exact congrArg Value.str h
    | _ => cases hsecond
  | _ => cases hfirst

namespace Finding

def OfTexts (finding : Finding) : Prop := finding.category.isText = true ∧ finding.description.isText = true

/-- The findings have the same category, line and description. -/
structure Agrees (first second : Finding) : Prop where
  category : first.category = second.category
  line : first.line = second.line
  description : first.description = second.description

/-- The category of the first finding covers the category and the place of the second one, and `shared` of its
description; the rest of that description is the place and the description of the first. -/
def Overruns (longer shorter : Finding) : Prop :=
  ∃ shared : String,
    longer.category.text ++ "-" = shorter.category.text ++ "-" ++ shorter.place ++ "-" ++ shared ∧
      shorter.description.text = shared ++ longer.place ++ "-" ++ longer.description.text

/-- The ways in which two findings come to have one key. -/
def Confused (first second : Finding) : Prop :=
  first.Agrees second ∨ first.Overruns second ∨ second.Overruns first

/-! ## When keys agree -/

theorem Agrees.symm {first second : Finding} (h : first.Agrees second) : second.Agrees first :=
  ⟨h.category.symm, h.line.symm, h.description.symm⟩

theorem Agrees.key_eq {first second : Finding} (h : first.Agrees second) : first.key = second.key := by
  unfold key place
  rw [h.category, h.line, h.description]

/-- Findings of which one overruns the other share a key. -/
theorem Overruns.key_eq {longer shorter : Finding} (h : longer.Overruns shorter) : longer.key = shorter.key := by
  obtain ⟨shared, hcategory, hdescription⟩ := h
  calc
    longer.key = longer.category.text ++ "-" ++ (longer.place ++ "-" ++ longer.description.text) := by
      unfold key
      simp only [String.append_assoc]
    _ = shorter.category.text ++ "-" ++ shorter.place ++ "-" ++
        (shared ++ longer.place ++ "-" ++ longer.description.text) := by
      rw [hcategory]
      simp only [String.append_assoc]
    _ = shorter.key := by
      rw [← hdescription]
      rfl

/-- A hyphen between two texts, the first of which holds none, also stands in a text that starts the same way: either
right after the first text, or later. -/
theorem exists_of_append_hyphen {place rest before after : List Char} (hplace : '-' ∉ place)
    (h : place ++ '-' :: rest = before ++ '-' :: after) :
    ∃ shared, before ++ ['-'] = place ++ '-' :: shared ∧ rest = shared ++ after := by
  have hsplit : (place ++ ['-']) ++ rest = (before ++ ['-']) ++ after := by simpa using h
  rcases List.append_eq_append_iff.mp hsplit with ⟨shared, hbefore, hrest⟩ | ⟨shared, hlonger, hafter⟩
  · exact ⟨shared, by simpa using hbefore, hrest⟩
  · rcases List.eq_nil_or_concat shared with rfl | ⟨init, last, rfl⟩
    · exact ⟨[], by simpa using hlonger.symm, hafter.symm⟩
    · have hsame : place ++ ['-'] = (before ++ '-' :: init) ++ [last] := by simpa using hlonger
      have hinit : place = before ++ '-' :: init := (List.append_inj_left' hsame rfl)
      exact absurd (hinit ▸ List.mem_append_right before List.mem_cons_self) hplace

/-- The longer of two categories of findings that share a key either is no longer at all, or it overruns. -/
theorem agrees_or_overruns_of_append {shorter longer : Finding} (hshorter : shorter.OfTexts) (hlonger : longer.OfTexts)
    (hkey : shorter.key = longer.key) {rest : List Char}
    (hcategory : longer.category.text.toList = shorter.category.text.toList ++ rest) :
    shorter.Agrees longer ∨ longer.Overruns shorter := by
  cases rest with
  | nil =>
    have hsame : shorter.category.text = longer.category.text := String.toList_injective (by simpa using hcategory.symm)
    obtain ⟨-, hline, hdescription⟩ := parts_eq_of_key_eq (fun _ ↦ hsame) hkey
    exact Or.inl ⟨Value.eq_of_text_eq hshorter.1 hlonger.1 hsame, hline,
      Value.eq_of_text_eq hshorter.2 hlonger.2 hdescription⟩
  | cons c rest =>
    right
    have hlist := congrArg String.toList hkey
    rw [toList_key, toList_key, hcategory, List.append_assoc, List.cons_append] at hlist
    obtain ⟨rfl, hrest⟩ := List.cons.inj (List.append_cancel_left hlist)
    obtain ⟨shared, hplace, hdescription⟩ := exists_of_append_hyphen (hyphen_notMem_place shorter) hrest
    refine ⟨String.ofList shared, String.toList_injective ?_, String.toList_injective ?_⟩
    · simp [hcategory, hplace]
    · simp [hdescription]

/-- Findings share a key exactly when they agree or one of them overruns the other. -/
theorem key_eq_iff_confused {first second : Finding} (hfirst : first.OfTexts) (hsecond : second.OfTexts) :
    first.key = second.key ↔ first.Confused second := by
  constructor
  · intro hkey
    have hlist := congrArg String.toList hkey
    rw [toList_key, toList_key] at hlist
    rcases List.append_eq_append_iff.mp hlist with ⟨rest, hcategory, -⟩ | ⟨rest, hcategory, -⟩
    · exact (agrees_or_overruns_of_append hfirst hsecond hkey hcategory).imp_right Or.inr
    · exact (agrees_or_overruns_of_append hsecond hfirst hkey.symm hcategory).imp Agrees.symm Or.inl
  · rintro (hagrees | hoverruns | hoverruns)
    · exact hagrees.key_eq
    · exact hoverruns.key_eq
    · exact hoverruns.key_eq.symm

end Finding

/-! ## What merging loses -/

namespace Tally

/-- A finding is lost exactly if one before it has its key. -/
theorem unique_concat_eq_iff {earlier : List Finding} {finding : Finding} :
    unique (earlier ++ [finding]) = unique earlier ↔ ∃ other ∈ earlier, other.key = finding.key := by
  rw [unique_concat, List.append_right_eq_self, ← List.mem_map]
  by_cases hseen : finding.key ∈ earlier.map Finding.key
  · simp only [hseen, if_true]
  · simp [hseen]

/-- Two findings with texts for categories and descriptions are merged exactly when they agree in category, line and
description, or when the category of one overruns the category and the place of the other. So a finding is dropped from
a list exactly when it is confused with an earlier one. -/
theorem merged_iff_confused (findings : List Finding) (texts : ∀ finding ∈ findings, finding.OfTexts) :
    (∀ first ∈ findings, ∀ second ∈ findings, first.key = second.key ↔ first.Confused second) ∧
      ∀ earlier finding later, findings = earlier ++ finding :: later →
        (unique (earlier ++ [finding]) = unique earlier ↔ ∃ other ∈ earlier, other.Confused finding) := by
  constructor
  · intro first hfirst second hsecond
    exact Finding.key_eq_iff_confused (texts first hfirst) (texts second hsecond)
  · rintro earlier finding later rfl
    rw [unique_concat_eq_iff]
    refine exists_congr fun other ↦ and_congr_right fun hother ↦ ?_
    have hotherTexts : other.OfTexts := texts other (List.mem_append_left _ hother)
    have htexts : finding.OfTexts := texts finding (List.mem_append_right _ List.mem_cons_self)
    exact Finding.key_eq_iff_confused hotherTexts htexts

def slotFinding : Finding where
  category := .str "Proxy"
  severity := .high
  description := .str "slot-2-clash"
  line := some (.ofIndex 0)
  named := rfl

def clashFinding : Finding where
  category := .str "Proxy-1-slot"
  severity := .high
  description := .str "clash"
  line := some (.ofIndex 1)
  named := rfl

theorem ofTexts_of_mem_clash : ∀ finding ∈ [slotFinding, clashFinding], finding.OfTexts :=
  List.forall_mem_cons.mpr ⟨⟨rfl, rfl⟩, List.forall_mem_cons.mpr ⟨⟨rfl, rfl⟩, List.forall_mem_nil _⟩⟩

theorem merged_iff_confused_clash :
    (∀ finding ∈ [slotFinding, clashFinding], finding.OfTexts) ∧
      (∀ first ∈ [slotFinding, clashFinding], ∀ second ∈ [slotFinding, clashFinding],
        first.key = second.key ↔ first.Confused second) ∧
      ∀ earlier finding later, [slotFinding, clashFinding] = earlier ++ finding :: later →
        (unique (earlier ++ [finding]) = unique earlier ↔ ∃ other ∈ earlier, other.Confused finding) :=
  ⟨ofTexts_of_mem_clash, merged_iff_confused _ ofTexts_of_mem_clash⟩

/-- Findings that are merged need not agree: `clashFinding` is dropped after `slotFinding`, which has another category,
another line and another description. -/
theorem merging_loses_clash :
    unique [slotFinding, clashFinding] = [slotFinding] ∧
      ¬ ∀ findings : List Finding, (∀ finding ∈ findings, finding.OfTexts) →
        ∀ first ∈ findings, ∀ second ∈ findings, first.key = second.key → first.Agrees second := by
  have hkey : clashFinding.key = slotFinding.key :=
    Finding.Overruns.key_eq ⟨"slot-", by decide +kernel, by decide +kernel⟩
  constructor
  · have hdropped : unique ([slotFinding] ++ [clashFinding]) = unique [slotFinding] :=
      unique_concat_eq_iff.mpr ⟨slotFinding, List.mem_singleton_self _, hkey.symm⟩
    exact hdropped
  · intro h
    have hagrees := h _ ofTexts_of_mem_clash slotFinding (by simp) clashFinding (by simp) hkey.symm
    have hline : slotFinding.line.map Subtype.val = clashFinding.line.map Subtype.val := by rw [hagrees.line]
    exact absurd hline (by decide)

end Tally

end ContractAudit
