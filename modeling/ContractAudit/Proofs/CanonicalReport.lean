import ContractAudit.Proofs.ConsistentReport
import ContractAudit.Proofs.JsonRoundTrip

/-!
# Canonical reports

The text of a report that is hashed and signed says exactly what the report says: it can be read back, and so can the
text that is laid out for readers. Two reports have the same canonical text exactly if they say the same, in whatever
order their mappings came to have their entries.
-/

namespace ContractAudit

open Json

theorem Value.plain_of_isText {value : Value} (h : value.isText = true) (depth : Nat) : Plain depth value := by
  cases value with
  | str text => exact .str text
  | _ => cases h

theorem Value.plain_of_isTextOrNull {value : Value} (h : value.isTextOrNull = true) (depth : Nat) :
    Plain depth value := by
  cases value with
  | null => exact .null
  | str text => exact .str text
  | _ => cases h

theorem Value.plain_texts (items : List String) (depth : Nat) : Plain (depth + 1) (.list (items.map .str)) := by
  apply Plain.list
  intro item hitem
  obtain ⟨text, -, rfl⟩ := List.mem_map.mp hitem
  exact .str text

/-- A mapping from texts to whatever is plain. -/
theorem Value.plain_mapping {α : Type} {entries : List (String × α)} (distinct : DistinctKeys entries)
    {value : α → Value} {depth : Nat} (plain : ∀ item, Plain depth (value item)) :
    Plain (depth + 1) (.object (entries.map fun entry ↦ (entry.1, value entry.2))) := by
  apply Plain.object (distinct.map_values _)
  intro entry hentry
  obtain ⟨original, -, rfl⟩ := List.mem_map.mp hentry
  exact plain original.2

/-- An entry that may be left out. -/
theorem Value.plain_unless {absent : Prop} [Decidable absent] {entry : String × Value} {depth : Nat}
    (plain : Plain depth entry.2) : ∀ present ∈ (if absent then [] else [entry]), Plain depth present.2 := by
  split_ifs with habsent
  · exact List.forall_mem_nil _
  · exact List.forall_mem_singleton.mpr plain

namespace Finding

/-- No name comes twice in a finding. Only absent parts are missing from the full list of names. -/
theorem distinctKeys_toEntries (finding : Finding) : DistinctKeys finding.toEntries := by
  have hnames : ["type", "severity", "description", "recommendation", "source", "line", "snippet", "analyzer",
      "location", "details", "estimatedSavings"].Nodup := by decide
  exact ((List.filter_sublist.append_left _).map Prod.fst).nodup hnames

theorem plain_toValue {finding : Finding} (h : finding.Typed) (depth : Nat) : Plain (depth + 1) finding.toValue := by
  apply Plain.object finding.distinctKeys_toEntries
  unfold toEntries
  rw [List.forall_mem_append]
  constructor
  · simp only [List.forall_mem_cons]
    exact ⟨Value.plain_of_isText h.category depth, .str _, Value.plain_of_isText h.description depth,
      Value.plain_of_isText h.recommendation depth, .str _, List.forall_mem_nil _⟩
  · rw [List.forall_mem_filter]
    simp only [List.forall_mem_cons]
    refine ⟨fun _ ↦ ?_, fun _ ↦ Value.plain_of_isTextOrNull h.snippet depth,
      fun _ ↦ Value.plain_of_isTextOrNull h.analyzer depth, fun _ ↦ Value.plain_of_isTextOrNull h.location depth,
      fun _ ↦ Value.plain_of_isTextOrNull h.details depth, fun _ ↦ Value.plain_of_isTextOrNull h.savings depth,
      List.forall_mem_nil _⟩
    cases finding.line with
    | none => exact .null
    | some number => exact .int number.val

theorem plain_toValues {findings : List Finding} (h : ∀ finding ∈ findings, finding.Typed) (depth : Nat) :
    Plain (depth + 2) (.list (findings.map toValue)) := by
  apply Plain.list
  intro item hitem
  obtain ⟨finding, hfinding, rfl⟩ := List.mem_map.mp hitem
  exact plain_toValue (h finding hfinding) depth

end Finding

namespace Metadata

theorem distinctKeys_toEntries (metadata : Metadata) : DistinctKeys metadata.toEntries := by
  have hnames : ["language", "version", "contractCount", "functionCount", "modifierCount", "eventCount", "structCount",
      "imports", "hasInheritance", "pragmas", "name"].Nodup := by decide
  unfold DistinctKeys toEntries
  split_ifs with hname
  · exact (List.sublist_append_left _ ["name"]).nodup hnames
  · exact hnames

theorem plain_toValue {metadata : Metadata} (distinct : DistinctKeys metadata.pragmas) (depth : Nat) :
    Plain (depth + 2) metadata.toValue := by
  have hpragmas : Plain (depth + 1) (.object (metadata.pragmas.map fun entry ↦ (entry.1, .str entry.2))) :=
    Value.plain_mapping distinct fun _ ↦ .str _
  apply Plain.object metadata.distinctKeys_toEntries
  unfold toEntries
  rw [List.forall_mem_append]
  refine ⟨?_, Value.plain_unless (.str _)⟩
  simp only [List.forall_mem_cons]
  exact ⟨.str _, .str _, .int _, .int _, .int _, .int _, .int _, .int _, .bool _, hpragmas, List.forall_mem_nil _⟩

end Metadata

namespace Report

/-- The report has a value of its declared type in every field: texts where texts are declared, mappings without a key
twice, and no integer with more digits than can be written. -/
structure Declared (report : Report) : Prop extends report.Typed where
  severityCounts : DistinctKeys report.tally.severityCounts
  categoryCounts : ∃ counts : List (String × Int), DistinctKeys counts ∧
    report.tally.categoryCounts = counts.map fun entry ↦ (.str entry.1, entry.2)
  pragmas : ∀ metadata ∈ report.metadata, DistinctKeys metadata.pragmas
  writable : report.toValue.isWritable = true

theorem Declared.plain_tally {report : Report} (h : report.Declared) (depth : Nat) :
    ∀ entry ∈ report.tally.toEntries, Plain (depth + 2) entry.2 := by
  have hseverities :
      Plain (depth + 2) (.object (report.tally.severityCounts.map fun entry ↦ (entry.1, .int entry.2))) :=
    Value.plain_mapping h.severityCounts fun _ ↦ .int _
  have hcategories :
      Plain (depth + 2) (.map (report.tally.categoryCounts.map fun entry ↦ (entry.1, .int entry.2))) := by
    obtain ⟨counts, hdistinct, hcounts⟩ := h.categoryCounts
    have hplain : Plain (depth + 2) (.object (counts.map fun entry ↦ (entry.1, .int entry.2))) :=
      Value.plain_mapping hdistinct fun _ ↦ .int _
    rw [hcounts, List.map_map]
    rwa [Value.object, List.map_map] at hplain
  unfold Tally.toEntries
  simp only [List.forall_mem_cons]
  exact ⟨Finding.plain_toValues h.vulnerabilities depth, hseverities, hcategories,
    Finding.plain_toValues h.optimizations depth, List.forall_mem_nil _⟩

/-- A report of the declared types is plain data, at most three collections deep. -/
theorem Declared.plain {report : Report} (h : report.Declared) (depth : Nat) : Plain (depth + 3) report.toValue := by
  have hscore : ∀ entry ∈ report.score.toEntries, Plain (depth + 2) entry.2 := by
    unfold Score.toEntries
    simp only [List.forall_mem_cons]
    exact ⟨.int _, .str _, List.forall_mem_nil _⟩
  apply Plain.object report.nodup_names_toEntries
  unfold toEntries
  simp only [List.forall_mem_append, List.forall_mem_cons]
  refine ⟨⟨⟨⟨⟨⟨hscore, .int _, h.plain_tally depth⟩, .bool _, Value.plain_texts _ _, List.forall_mem_nil _⟩, ?_⟩,
    Value.plain_unless (.str _)⟩, Value.plain_unless (.str _)⟩, Value.plain_unless (Value.plain_texts _ _)⟩
  cases hpresent : report.metadata with
  | none => exact List.forall_mem_nil _
  | some metadata => exact List.forall_mem_singleton.mpr (Metadata.plain_toValue (h.pragmas metadata hpresent) depth)

/-- Reports are nested less deeply than the reader allows. -/
theorem Declared.plain_maxDepth {report : Report} (h : report.Declared) : Plain maxDepth report.toValue :=
  h.plain (maxDepth - 3)

/-- A report of the declared types is read back as what it says, in both layouts. -/
theorem Declared.read_write {report : Report} (h : report.Declared) (layout : Json.Layout) :
    (Json.read (Json.write layout report.toValue).toList).map Value.datum = .ok report.toValue.datum := by
  rw [Json.write, String.toList_ofList]
  exact h.plain_maxDepth.read_writeValue h.writable layout

/-- Both JSON texts of a report are read back as what the report says, and the canonical text is the same for two
reports exactly if they say the same. -/
theorem canonicalJson_faithful {report : Report} (h : report.Declared) :
    (Json.read report.canonicalJson.toList).map Value.datum = .ok report.toValue.datum ∧
      (∃ text, report.render .json = .ok text ∧
        (Json.read text.toList).map Value.datum = .ok report.toValue.datum) ∧
      ∀ other : Report, other.Declared →
        (report.canonicalJson = other.canonicalJson ↔ report.toValue.datum = other.toValue.datum) := by
  refine ⟨h.read_write .compact, ⟨report.renderJson, rfl, h.read_write .indented⟩, ?_⟩
  intro other hother
  exact h.plain_maxDepth.write_eq_iff h.writable hother.plain_maxDepth hother.writable .compact

def quotedFinding : Finding where
  category := "\"call\" \\ transfer"
  severity := .high
  description := "first line\n\tsecond line\x01\x7f"
  recommendation := "prüfe \u2028 😀"
  snippet := "a.call(\"\");\r"
  named := rfl

def quotedReport (severityCounts : List (String × Int)) : Report where
  tally :=
    { vulnerabilities := [quotedFinding]
      severityCounts
      categoryCounts := [("\"call\" \\ transfer", 1)] }
  score := { points := 85, risk := .high }
  notes := ["", "\x0c\x08"]

theorem declared_quotedReport {severityCounts : List (String × Int)} (distinct : DistinctKeys severityCounts)
    (writable : (quotedReport severityCounts).toValue.isWritable = true) : (quotedReport severityCounts).Declared where
  vulnerabilities := List.forall_mem_singleton.mpr ⟨rfl, rfl, rfl, rfl, rfl, rfl, rfl, rfl⟩
  optimizations := List.forall_mem_nil _
  severityCounts := distinct
  categoryCounts := ⟨[("\"call\" \\ transfer", 1)], List.nodup_singleton _, rfl⟩
  pragmas := nofun
  writable

/-- The order in which levels were counted says nothing. -/
theorem datum_quotedReport {counts others : List (String × Int)} (distinct : DistinctKeys counts)
    (perm : counts.Perm others) : (quotedReport counts).toValue.datum = (quotedReport others).toValue.datum := by
  have hcounts : (Value.object (counts.map fun entry ↦ (entry.1, .int entry.2))).datum =
      (Value.object (others.map fun entry ↦ (entry.1, .int entry.2))).datum :=
    datum_object_eq_of_perm (distinct.map_values _) (perm.map _)
  have hmeanings : Value.meanings (quotedReport counts).toEntries = Value.meanings (quotedReport others).toEntries := by
    simp [Value.meanings, toEntries, Tally.toEntries, Tally.total, quotedReport, hcounts]
  rw [toValue, toValue, Value.datum_object, Value.datum_object, hmeanings]

theorem canonicalJson_faithful_quotedReport :
    (quotedReport [("HIGH", 1), ("LOW", 0)]).Declared ∧ (quotedReport [("LOW", 0), ("HIGH", 1)]).Declared ∧
      (Json.read (quotedReport [("HIGH", 1), ("LOW", 0)]).canonicalJson.toList).map Value.datum =
        .ok (quotedReport [("HIGH", 1), ("LOW", 0)]).toValue.datum ∧
      (quotedReport [("HIGH", 1), ("LOW", 0)]).canonicalJson =
        (quotedReport [("LOW", 0), ("HIGH", 1)]).canonicalJson := by
  have hfirst : (quotedReport [("HIGH", 1), ("LOW", 0)]).Declared :=
    declared_quotedReport (by decide) (by decide +kernel)
  have hsecond : (quotedReport [("LOW", 0), ("HIGH", 1)]).Declared :=
    declared_quotedReport (by decide) (by decide +kernel)
  have hsame := datum_quotedReport hfirst.severityCounts (List.Perm.swap _ _ _)
  have hfaithful := canonicalJson_faithful hfirst
  exact ⟨hfirst, hsecond, hfaithful.1, (hfaithful.2.2 _ hsecond).mpr hsame⟩

end Report

end ContractAudit
