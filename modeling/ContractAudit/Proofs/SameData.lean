import ContractAudit.Proofs.SettingsChecks
import Mathlib.Data.List.Forall2
import Mathlib.Data.List.Perm.Basic

/-!
# The same data

Mappings and sets are written in the order of their keys, so what is read back may have another order. Two values are
the same data if they differ in nothing else. Values that contain themselves are no data and are the same as nothing,
not even as themselves. What is the same data has the same members, and a check of settings tells the two apart only
where it looks at the order, which it never does.
-/

namespace ContractAudit

namespace Value

mutual

/-- Whether two values are the same data, whatever the order of the entries of mappings and of the members of sets. -/
def sameData : Value → Value → Bool
  | null, null => true
  | bool b, bool c => b == c
  | int n, int m => n == m
  | float x, float y => decide (x = y)
  | str s, str t => s == t
  | list items, list others => sameItems items others
  | map entries, map others => sameEntries entries others
  | date day, date other => day == other
  | moment point, moment other => point == other
  | bytes content, bytes other => content == other
  | tuple items, tuple others => sameItems items others
  | set members, set others => sameMembers members others
  | _, _ => false
termination_by structural value => value

def sameItems : List Value → List Value → Bool
  | [], [] => true
  | item :: rest, other :: others => sameData item other && sameItems rest others
  | _, _ => false
termination_by structural items => items

/-- Every entry is taken together with the first of the others that has its key. -/
def sameEntries : List (Value × Value) → List (Value × Value) → Bool
  | [], others => others.isEmpty
  | (key, item) :: rest, others =>
    match others.find? fun other ↦ sameData key other.1 with
    | some other => sameData item other.2 && sameEntries rest (others.eraseP fun other ↦ sameData key other.1)
    | none => false
termination_by structural entries => entries

def sameMembers : List Value → List Value → Bool
  | [], others => others.isEmpty
  | member :: rest, others =>
    match others.find? fun other ↦ sameData member other with
    | some _ => sameMembers rest (others.eraseP fun other ↦ sameData member other)
    | none => false
termination_by structural members => members

end

def isCollection : Value → Bool
  | list _ | map _ | tuple _ | set _ => true
  | _ => false

variable {value other : Value}

/-- Only collections can be the same data without being equal. -/
theorem eq_of_sameData (hplain : value.isCollection = false) (h : value.sameData other = true) : other = value := by
  cases value <;> cases other <;> simp_all [sameData, isCollection]

/-! ## Entries and members in another order -/

/-- What is found first can be moved to the front. -/
theorem perm_cons_eraseP {α : Type} {test : α → Bool} {items : List α} {found : α} (h : items.find? test = some found) :
    items.Perm (found :: items.eraseP test) := by
  obtain ⟨hfound, before, after, rfl, hbefore⟩ := List.find?_eq_some_iff_append.mp h
  rw [List.eraseP_append_right _ fun item hitem ↦ by simpa using hbefore item hitem, List.eraseP_cons_of_pos hfound]
  exact List.perm_middle

def SameEntry (entry other : Value × Value) : Prop :=
  entry.1.sameData other.1 = true ∧ entry.2.sameData other.2 = true

theorem exists_of_sameEntries_cons {entry : Value × Value} {rest others : List (Value × Value)}
    (h : sameEntries (entry :: rest) others = true) :
    ∃ other left, others.Perm (other :: left) ∧ SameEntry entry other ∧ sameEntries rest left = true := by
  rw [sameEntries] at h
  cases hfind : others.find? fun other ↦ entry.1.sameData other.1 with
  | none => simp [hfind] at h
  | some other =>
    simp only [hfind, Bool.and_eq_true] at h
    have hkey := List.find?_some hfind
    exact ⟨other, _, perm_cons_eraseP hfind, ⟨hkey, h.1⟩, h.2⟩

theorem exists_of_sameMembers_cons {member : Value} {rest others : List Value}
    (h : sameMembers (member :: rest) others = true) :
    ∃ other left, others.Perm (other :: left) ∧ member.sameData other = true ∧ sameMembers rest left = true := by
  rw [sameMembers] at h
  cases hfind : others.find? fun other ↦ member.sameData other with
  | none => simp [hfind] at h
  | some other =>
    simp only [hfind] at h
    exact ⟨other, _, perm_cons_eraseP hfind, List.find?_some hfind, h⟩

/-- The others, in some order, are the same entries one by one. -/
theorem exists_perm_of_sameEntries {entries others : List (Value × Value)} (h : sameEntries entries others = true) :
    ∃ matched, others.Perm matched ∧ List.Forall₂ SameEntry entries matched := by
  induction entries generalizing others with
  | nil =>
    rw [sameEntries, List.isEmpty_iff] at h
    exact ⟨[], by rw [h], .nil⟩
  | cons entry rest ih =>
    obtain ⟨other, left, hperm, hentry, hrest⟩ := exists_of_sameEntries_cons h
    obtain ⟨matched, hmatched, hsame⟩ := ih hrest
    exact ⟨other :: matched, hperm.trans (hmatched.cons other), .cons hentry hsame⟩

/-! ## Data does not contain itself -/

theorem cyclicEntries_eq_any (entries : List (Value × Value)) :
    cyclicEntries entries = entries.any fun entry ↦ entry.2.isCyclic := by
  induction entries with
  | nil => rfl
  | cons entry rest ih => rw [cyclicEntries, ih, List.any_cons]

mutual

/-- Data that are compared contain themselves on neither side. -/
theorem isCyclic_of_sameData (value other : Value) (h : value.sameData other = true) :
    value.isCyclic = false ∧ other.isCyclic = false := by
  cases value with
  | list items =>
    cases other with
    | list others => exact cyclicItems_of_sameItems items others h
    | _ => cases h
  | tuple items =>
    cases other with
    | tuple others => exact cyclicItems_of_sameItems items others h
    | _ => cases h
  | map entries =>
    cases other with
    | map others => exact cyclicEntries_of_sameEntries entries others h
    | _ => cases h
  | set members =>
    cases other with
    | set others => exact ⟨rfl, rfl⟩
    | _ => cases h
  | enclosing level isMap => cases other <;> cases h
  | _ =>
    obtain rfl := eq_of_sameData rfl h
    exact ⟨rfl, rfl⟩

theorem cyclicItems_of_sameItems (items others : List Value) (h : sameItems items others = true) :
    cyclicItems items = false ∧ cyclicItems others = false := by
  cases items with
  | nil =>
    cases others with
    | nil => exact ⟨rfl, rfl⟩
    | cons other others => cases h
  | cons item rest =>
    cases others with
    | nil => cases h
    | cons other others =>
      obtain ⟨hitem, hrest⟩ := Bool.and_eq_true_iff.mp h
      obtain ⟨hitem, hother⟩ := isCyclic_of_sameData item other hitem
      obtain ⟨hrest, hothers⟩ := cyclicItems_of_sameItems rest others hrest
      simp [cyclicItems, hitem, hother, hrest, hothers]

theorem cyclicEntries_of_sameEntries (entries others : List (Value × Value)) (h : sameEntries entries others = true) :
    cyclicEntries entries = false ∧ cyclicEntries others = false := by
  cases entries with
  | nil =>
    rw [sameEntries, List.isEmpty_iff] at h
    rw [h]
    exact ⟨rfl, rfl⟩
  | cons entry rest =>
    obtain ⟨key, item⟩ := entry
    obtain ⟨other, left, hperm, hentry, hrest⟩ := exists_of_sameEntries_cons h
    obtain ⟨hitem, hother⟩ := isCyclic_of_sameData item other.2 hentry.2
    obtain ⟨hrest, hleft⟩ := cyclicEntries_of_sameEntries rest left hrest
    rw [cyclicEntries_eq_any] at hleft
    rw [cyclicEntries, hitem, hrest, cyclicEntries_eq_any, hperm.any_eq, List.any_cons, hother, hleft]
    exact ⟨rfl, rfl⟩

end

mutual

/-- Where nothing refers to a collection around it, there is nothing to unfold. -/
theorem unfold_of_isCyclic_eq_false (whole : Value) (level : Nat) (value : Value) (h : value.isCyclic = false) :
    unfold whole level value = value := by
  cases value with
  | list items => exact congrArg list (unfoldItems_of_cyclicItems_eq_false whole (level + 1) items h)
  | tuple items => exact congrArg tuple (unfoldItems_of_cyclicItems_eq_false whole (level + 1) items h)
  | map entries => exact congrArg map (unfoldEntries_of_cyclicEntries_eq_false whole (level + 1) entries h)
  | enclosing up isMap => cases h
  | _ => rfl

theorem unfoldItems_of_cyclicItems_eq_false (whole : Value) (level : Nat) (items : List Value)
    (h : cyclicItems items = false) : unfoldItems whole level items = items := by
  cases items with
  | nil => rfl
  | cons item rest =>
    obtain ⟨hitem, hrest⟩ := Bool.or_eq_false_iff.mp h
    rw [unfoldItems, unfold_of_isCyclic_eq_false whole level item hitem,
      unfoldItems_of_cyclicItems_eq_false whole level rest hrest]

theorem unfoldEntries_of_cyclicEntries_eq_false (whole : Value) (level : Nat) (entries : List (Value × Value))
    (h : cyclicEntries entries = false) : unfoldEntries whole level entries = entries := by
  cases entries with
  | nil => rfl
  | cons entry rest =>
    obtain ⟨key, item⟩ := entry
    obtain ⟨hitem, hrest⟩ := Bool.or_eq_false_iff.mp h
    rw [unfoldEntries, unfold_of_isCyclic_eq_false whole level item hitem,
      unfoldEntries_of_cyclicEntries_eq_false whole level rest hrest]

end

/-! ## Members -/

theorem eq_of_sameItems {items others : List Value} (hplain : ∀ item ∈ items, item.isCollection = false)
    (h : sameItems items others = true) : others = items := by
  induction items generalizing others with
  | nil =>
    cases others with
    | nil => rfl
    | cons other others => cases h
  | cons item rest ih =>
    cases others with
    | nil => cases h
    | cons other others =>
      obtain ⟨hitem, hrest⟩ := List.forall_mem_cons.mp hplain
      obtain ⟨hsame, hothers⟩ := Bool.and_eq_true_iff.mp h
      rw [eq_of_sameData hitem hsame, ih hrest hothers]

/-- Sets without collections in them have the same members. -/
theorem perm_of_sameMembers {members others : List Value} (hplain : ∀ member ∈ members, member.isCollection = false)
    (h : sameMembers members others = true) : others.Perm members := by
  induction members generalizing others with
  | nil => rw [List.isEmpty_iff.mp h]
  | cons member rest ih =>
    obtain ⟨hmember, hrest⟩ := List.forall_mem_cons.mp hplain
    obtain ⟨other, left, hperm, hsame, hleft⟩ := exists_of_sameMembers_cons h
    rw [eq_of_sameData hmember hsame] at hperm
    exact hperm.trans ((ih hrest hleft).cons member)

theorem keys_perm_of_sameEntries {entries others : List (Value × Value)}
    (hplain : ∀ key ∈ entries.map (·.1), key.isCollection = false) (h : sameEntries entries others = true) :
    (others.map (·.1)).Perm (entries.map (·.1)) := by
  induction entries generalizing others with
  | nil => rw [List.isEmpty_iff.mp h]
  | cons entry rest ih =>
    obtain ⟨hkey, hrest⟩ := List.forall_mem_cons.mp hplain
    obtain ⟨other, left, hperm, hsame, hleft⟩ := exists_of_sameEntries_cons h
    have hkeys := hperm.map (·.1)
    rw [List.map_cons, eq_of_sameData hkey hsame.1] at hkeys
    exact hkeys.trans ((ih hrest hleft).cons entry.1)

/-- The same data has the same members in some order, if they are no collections. -/
theorem exists_members?_perm {names : List Value} (h : value.sameData other = true)
    (hnames : Settings.members? value = some names) (hplain : ∀ name ∈ names, name.isCollection = false) :
    ∃ others, Settings.members? other = some others ∧ others.Perm names := by
  cases value with
  | list items =>
    cases other with
    | list others =>
      obtain rfl : items = names := Option.some.inj hnames
      exact ⟨others, rfl, .of_eq (eq_of_sameItems hplain h)⟩
    | _ => cases h
  | tuple items =>
    cases other with
    | tuple others =>
      obtain rfl : items = names := Option.some.inj hnames
      exact ⟨others, rfl, .of_eq (eq_of_sameItems hplain h)⟩
    | _ => cases h
  | set members =>
    cases other with
    | set others =>
      obtain rfl : members = names := Option.some.inj hnames
      exact ⟨others, rfl, perm_of_sameMembers hplain h⟩
    | _ => cases h
  | map entries =>
    cases other with
    | map others =>
      obtain rfl : entries.map (·.1) = names := Option.some.inj hnames
      exact ⟨others.map (·.1), rfl, keys_perm_of_sameEntries hplain h⟩
    | _ => cases h
  | _ =>
    obtain rfl := eq_of_sameData rfl h
    exact ⟨names, hnames, .refl names⟩

/-! ## Collections name no format -/

theorem mem_trim {c : Char} {text : List Char} (hblank : Text.isBlank c = false) (h : c ∈ text) :
    c ∈ Text.trim text := by
  have hdrop (text : List Char) (hmem : c ∈ text) : c ∈ text.dropWhile Text.isBlank := by
    rw [← List.takeWhile_append_dropWhile (p := Text.isBlank) (l := text), List.mem_append] at hmem
    refine hmem.resolve_left fun htaken ↦ ?_
    rw [List.all_eq_true.mp List.all_takeWhile c htaken] at hblank
    cases hblank
  unfold Text.trim Text.trimEnd Text.trimStart
  rw [List.mem_reverse]
  exact hdrop _ (List.mem_reverse.mpr (hdrop text h))

theorem mem_lowerAfter {c : Char} {text : List Char} (hsmall : Text.small c = [c]) (hsigma : c ≠ Text.capitalSigma)
    (h : c ∈ text) (before : List Char) : c ∈ Text.lowerAfter before text := by
  induction text generalizing before with
  | nil => cases h
  | cons first rest ih =>
    rw [Text.lowerAfter, List.mem_append]
    rcases List.mem_cons.mp h with rfl | hrest
    · rw [if_neg hsigma, hsmall]
      exact Or.inl List.mem_cons_self
    · exact Or.inr (ih hrest (first :: before))

def brackets : List Char := ['[', '(', '\x7b']

theorem exists_bracket_of_isCollection (h : value.isCollection = true) :
    ∃ c ∈ brackets, c ∈ value.text.toList := by
  have hshown (c : Char) (rest : List Char) (hc : c ∈ brackets) (htext : value.text = String.ofList (c :: rest)) :
      ∃ c ∈ brackets, c ∈ value.text.toList := by
    rw [htext, String.toList_ofList]
    exact ⟨c, hc, List.mem_cons_self⟩
  cases value with
  | list items => exact hshown '[' _ (by decide) rfl
  | map entries => exact hshown '\x7b' _ (by decide) rfl
  | tuple items =>
    rcases items with _ | ⟨item, _ | ⟨next, rest⟩⟩
    · exact hshown '(' _ (by decide) rfl
    · exact hshown '(' _ (by decide) rfl
    · exact hshown '(' _ (by decide) rfl
  | set members =>
    cases members with
    | nil => exact ⟨'(', by decide, by decide⟩
    | cons member rest => exact hshown '\x7b' _ (by decide) rfl
  | _ => cases h

/-- Brackets are neither trimmed nor changed by case, and no format has one in its name. -/
theorem kept_of_mem_brackets {c : Char} (h : c ∈ brackets) :
    Text.isBlank c = false ∧ Text.small c = [c] ∧ c ≠ Text.capitalSigma ∧
      ∀ format : ReportFormat, c ∉ format.label.toList := by
  simp only [brackets, List.mem_cons, List.not_mem_nil, or_false] at h
  rcases h with rfl | rfl | rfl
  all_goals exact ⟨by decide, by decide, by decide, fun format ↦ by cases format <;> decide⟩

theorem isCollection_of_ofValue_eq_ok {format : ReportFormat} (h : ReportFormat.ofValue value = .ok format) :
    value.isCollection = false := by
  rw [Bool.eq_false_iff]
  intro hcollection
  obtain ⟨c, hbracket, htext⟩ := exists_bracket_of_isCollection hcollection
  obtain ⟨hblank, hsmall, hsigma, hlabels⟩ := kept_of_mem_brackets hbracket
  have hlower : c ∈ (Text.lower (Text.strip value.text)).toList := by
    rw [Text.lower, Text.strip, String.toList_ofList, String.toList_ofList]
    exact mem_lowerAfter hsmall hsigma (mem_trim hblank htext) []
  unfold ReportFormat.ofValue at h
  cases hfind : ReportFormat.all.find? (·.label == Text.lower (Text.strip value.text)) with
  | none => simp [hfind] at h
  | some found =>
    have hlabel := List.find?_some hfind
    rw [← beq_iff_eq.mp hlabel] at hlower
    exact hlabels found hlower

end Value

namespace Settings

/-! ## Settings with the same data -/

/-- Every setting has the same data in both. -/
def SameData (settings other : Settings) : Prop :=
  ∀ setting, (settings.value setting).sameData (other.value setting) = true

namespace SameData

variable {settings other : Settings}

theorem value_eq (h : settings.SameData other) (setting : Setting)
    (hplain : (settings.value setting).isCollection = false) : other.value setting = settings.value setting :=
  Value.eq_of_sameData hplain (h setting)

/-- Settings in normal form are restored in normal form. -/
theorem normal (h : settings.SameData other) (hnormal : settings.Normal) : other.Normal := by
  obtain ⟨level, hlevel, hlogLevel⟩ := hnormal.logLevel
  refine ⟨⟨level, hlevel, ?_⟩, ?_⟩
  · exact (h.value_eq .logLevel (by rw [value, hlogLevel]; rfl)).trans hlogLevel
  · rcases hnormal.failOn with hnull | ⟨severity, hfailOn⟩
    · exact Or.inl ((h.value_eq .failOn (by rw [value, hnull]; rfl)).trans hnull)
    · exact Or.inr ⟨severity, (h.value_eq .failOn (by rw [value, hfailOn]; rfl)).trans hfailOn⟩

theorem knownAnalyzers (h : settings.SameData other) (hknown : settings.KnownAnalyzers) : other.KnownAnalyzers := by
  obtain ⟨names, hnames, hbuiltIn⟩ := hknown
  have hplain : ∀ name ∈ names, name.isCollection = false := by
    intro name hname
    obtain ⟨key, rfl⟩ := hbuiltIn name hname
    rfl
  obtain ⟨others, hothers, hperm⟩ := Value.exists_members?_perm (h .enabledAnalyzers) hnames hplain
  exact ⟨others, hothers, fun name hname ↦ hbuiltIn name (hperm.mem_iff.mp hname)⟩

theorem mappedWindows (h : settings.SameData other) (hmapped : settings.MappedWindows) : other.MappedWindows := by
  obtain ⟨entries, hentries⟩ := hmapped
  have hsame : (Value.map entries).sameData other.windows = true := hentries ▸ h .windows
  unfold MappedWindows
  cases hwindows : other.windows with
  | map others => exact ⟨others, rfl⟩
  | _ =>
    rw [hwindows] at hsame
    cases hsame

theorem knownFormat (h : settings.SameData other) (hknown : settings.KnownFormat) : other.KnownFormat := by
  obtain ⟨format, hformat⟩ := hknown.2
  have hequal : other.defaultFormat = settings.defaultFormat :=
    h.value_eq .defaultFormat (Value.isCollection_of_ofValue_eq_ok hformat)
  unfold KnownFormat
  rw [hequal]
  exact hknown

theorem positiveWorkers (h : settings.SameData other) (hpositive : settings.PositiveWorkers) :
    other.PositiveWorkers := by
  have hplain : settings.maxWorkers.isCollection = false := by
    rcases hpositive with hnull | ⟨count, hcount, -⟩
    · rw [hnull]
      rfl
    · cases hworkers : settings.maxWorkers <;> simp_all [Value.integer?, Value.isCollection]
  have hequal : other.maxWorkers = settings.maxWorkers := h.value_eq .maxWorkers hplain
  unfold PositiveWorkers
  rw [hequal]
  exact hpositive

theorem positiveTimeout (h : settings.SameData other) (hpositive : settings.PositiveTimeout) :
    other.PositiveTimeout := by
  have hplain : settings.aiTimeout.isCollection = false := by
    unfold PositiveTimeout at hpositive
    cases htimeout : settings.aiTimeout <;> simp_all [isTimeout, Value.isCollection]
  have hequal : other.aiTimeout = settings.aiTimeout := h.value_eq .aiTimeout hplain
  unfold PositiveTimeout
  rw [hequal]
  exact hpositive

/-- Acceptable settings in normal form stay acceptable. -/
theorem acceptable (h : settings.SameData other) (hnormal : settings.Normal) (haccept : settings.Acceptable) :
    other.Acceptable where
  analyzers := h.knownAnalyzers haccept.analyzers
  windows := h.mappedWindows haccept.windows
  logLevel := (h.normal hnormal).knownLogLevel
  format := h.knownFormat haccept.format
  failOn := (h.normal hnormal).knownFailOn
  workers := h.positiveWorkers haccept.workers
  timeout := h.positiveTimeout haccept.timeout

end SameData

end Settings

end ContractAudit
