import ContractAudit.Proofs.Rendering
import ContractAudit.Proofs.Tags
import Mathlib.Data.List.Forall2

/-!
# The markup of reports

The tags of a report in HTML, with all their attributes, are decided by its shape: how many findings, recommendations
and notes it has, how severe the vulnerabilities are, and which parts are there at all. The texts in it, whatever
characters they hold, decide nothing, and neither do the score and the counts.

Two reports are rendered side by side. Each section is put together in the same way for both, and the parts that differ
are escaped texts and numbers.
-/

namespace ContractAudit

/-! ## Shapes -/

/-- The findings are equally severe and have the same parts. -/
structure Finding.SameShape (first second : Finding) : Prop where
  severity : first.severity = second.severity
  line : first.line.isSome = second.line.isSome
  location : first.location.truthy = second.location.truthy
  snippet : first.snippet.truthy = second.snippet.truthy
  savings : first.savings.truthy = second.savings.truthy

/-- The reports have findings of the same shapes, equally many notes and recommendations, and the same other parts. -/
structure Report.SameShape (first second : Report) : Prop where
  vulnerabilities : List.Forall₂ Finding.SameShape first.tally.vulnerabilities second.tally.vulnerabilities
  optimizations : List.Forall₂ Finding.SameShape first.tally.optimizations second.tally.optimizations
  names : first.metadata.map (·.name.isEmpty) = second.metadata.map (·.name.isEmpty)
  fingerprint : first.fingerprint.isEmpty = second.fingerprint.isEmpty
  summary : first.summary.isEmpty = second.summary.isEmpty
  degraded : first.degraded = second.degraded
  recommendations : first.recommendations.length = second.recommendations.length
  notes : first.notes.length = second.notes.length

namespace Report.Html

/-! ## Parts -/

theorem sameTags_escape (first second : String) : SameTags (escape first) (escape second) :=
  .of_tagFree (tagFree_escape first) (tagFree_escape second)

theorem sameTags_toString (first second : Int) : SameTags (toString first) (toString second) :=
  .of_tagFree (tagFree_toString_int first) (tagFree_toString_int second)

theorem sameTags_labelled {label : String} (hlabel : TagFree label) {first second : String}
    (h : SameTags first second) : SameTags (labelled label first) (labelled label second) := by
  unfold labelled
  refine .append (.append (.append (.append ?_ ?_) ?_) h) ?_
  · exact .literal rfl
  · exact .of_tagFree hlabel hlabel
  · exact .literal rfl
  · exact .literal rfl

theorem sameTags_item {indent : String} (hindent : TagFree indent) {first second : String}
    (h : SameTags first second) : SameTags (item indent first) (item indent second) := by
  unfold item
  refine .append (.append (.append ?_ ?_) h) ?_
  · exact .of_tagFree hindent hindent
  · exact .literal rfl
  · exact .literal rfl

/-- A part that is left out of both texts or of neither. -/
theorem sameTags_unless {first second : String} {absent absent' : Bool} (habsent : absent = absent')
    (h : SameTags first second) :
    SameTags (if absent then "" else first) (if absent' then "" else second) := by
  subst habsent
  split
  · exact .literal rfl
  · exact h

/-- Sections have the same tags if their items do. -/
theorem sameTags_listSection {title : String} (htitle : TagFree title) {items items' : List String}
    (h : List.Forall₂ SameTags items items') : SameTags (listSection title items) (listSection title items') := by
  have hempty : items.isEmpty = items'.isEmpty := by cases h <;> rfl
  have hitems : SameTags (String.join (items.map (item "    "))) (String.join (items'.map (item "    "))) := by
    apply SameTags.join
    rw [List.forall₂_map_left_iff, List.forall₂_map_right_iff]
    exact h.imp fun _ _ hitem ↦ sameTags_item (tagFree_ofList (by decide)) hitem
  unfold listSection
  apply sameTags_unless hempty
  refine .append (.append (.append (.append ?_ ?_) ?_) hitems) ?_
  · exact .literal rfl
  · exact .of_tagFree htitle htitle
  · exact .literal rfl
  · exact .literal rfl

/-- A badge is closed as a whole. Its tag is put together from the colour of the level. -/
theorem sameTags_badge (severity : Severity) : SameTags (badge severity) (badge severity) := by
  have hopening : SameTags ("<span class=\"severity\" style=\"background: " ++ color severity ++ "\">")
      ("<span class=\"severity\" style=\"background: " ++ color severity ++ "\">") := by
    cases severity <;> exact .refl (closed_ofList_append rfl)
  unfold badge
  refine .append (.append hopening ?_) ?_
  · exact sameTags_escape _ _
  · exact .literal rfl

/-! ## Texts of findings -/

theorem bothReturn_escapeValue {value value' : Value} (h : value.isText = true) (h' : value'.isText = true) :
    BothReturn SameTags (escapeValue value) (escapeValue value') := by
  cases value with
  | str text =>
    cases value' with
    | str text' => exact ⟨_, _, rfl, rfl, sameTags_escape text text'⟩
    | _ => cases h'
  | _ => cases h

theorem bothReturn_escapePresent {value value' : Value} (h : value.isTextOrNull = true)
    (h' : value'.isTextOrNull = true) (same : value.truthy = value'.truthy) :
    BothReturn (Option.Rel SameTags) (escapePresent value) (escapePresent value') := by
  have htext := Value.isTextIfPresent_of_isTextOrNull h
  have htext' := Value.isTextIfPresent_of_isTextOrNull h'
  unfold escapePresent
  by_cases hpresent : value.truthy = true
  · rw [if_pos hpresent, if_pos (same ▸ hpresent)]
    rw [Value.isTextIfPresent_of_present hpresent] at htext
    rw [Value.isTextIfPresent_of_present (same ▸ hpresent)] at htext'
    obtain ⟨text, text', hescaped, hescaped', hsame⟩ := bothReturn_escapeValue htext htext'
    rw [hescaped, hescaped']
    exact ⟨_, _, rfl, rfl, .some hsame⟩
  · rw [if_neg hpresent, if_neg (same ▸ hpresent)]
    exact ⟨none, none, rfl, rfl, .none⟩

/-- Where a finding is shown to be depends on whether it has a location or a line. -/
theorem exists_locationText {finding : Finding} (h : finding.location.isTextOrNull = true) :
    ∃ text, finding.locationText = .ok text ∧
      text.isEmpty = !(finding.location.truthy || finding.line.isSome) := by
  unfold Finding.locationText Finding.lineText
  cases hlocation : finding.location with
  | null => cases finding.line <;> simp [Value.truthy]
  | str location =>
    by_cases hempty : location = ""
    · cases finding.line <;> simp [Value.truthy, hempty]
    · cases finding.line <;> simp [Value.truthy, hempty]
  | _ =>
    rw [hlocation] at h
    cases h

/-- Places of the same shape are both empty or both not. -/
theorem bothReturn_locationText {first second : Finding} (h : first.location.isTextOrNull = true)
    (h' : second.location.isTextOrNull = true) (same : first.SameShape second) :
    BothReturn (fun place place' ↦ place.isEmpty = place'.isEmpty) first.locationText second.locationText := by
  obtain ⟨text, htext, hempty⟩ := exists_locationText h
  obtain ⟨text', htext', hempty'⟩ := exists_locationText h'
  refine ⟨text, text', htext, htext', ?_⟩
  dsimp only
  rw [hempty, hempty', same.location, same.line]

/-- An optional part that is put between fixed ones. -/
theorem sameTags_optional {wrap : String → String} {part part' : Option String}
    (hwrap : ∀ {text text'}, SameTags text text' → SameTags (wrap text) (wrap text'))
    (h : Option.Rel SameTags part part') : SameTags ((part.map wrap).getD "") ((part'.map wrap).getD "") := by
  cases h with
  | some hpart => exact hwrap hpart
  | none => exact .literal rfl

/-- The fixed parts of a finding are the same on both sides, and the parts that differ come in one order. -/
theorem bothReturn_vulnerability {first second : Finding} (h : first.Typed) (h' : second.Typed)
    (same : first.SameShape second) (number : Nat) :
    BothReturn SameTags (vulnerability (first, number)) (vulnerability (second, number)) := by
  apply (bothReturn_locationText h.location h'.location same).bind
  intro place place' hplace
  apply (bothReturn_escapePresent h.snippet h'.snippet same.snippet).bind
  intro snippet snippet' hsnippet
  apply (bothReturn_escapeValue h.category h'.category).bind
  intro category category' hcategory
  apply (bothReturn_escapeValue h.description h'.description).bind
  intro description description' hdescription
  apply (bothReturn_escapeValue h.recommendation h'.recommendation).bind
  intro recommendation recommendation' hrecommendation
  apply BothReturn.pure
  rw [same.severity]
  repeat' with_reducible apply SameTags.append
  any_goals exact .literal rfl
  · exact .of_tagFree (tagFree_toString_nat number) (tagFree_toString_nat number)
  · exact hcategory
  · exact sameTags_badge second.severity
  · exact sameTags_labelled (tagFree_ofList (by decide)) hdescription
  · exact sameTags_unless hplace (sameTags_labelled (tagFree_ofList (by decide)) (sameTags_escape place place'))
  · apply sameTags_optional _ hsnippet
    intro text text' htext
    exact .append (.append (.literal rfl) htext) (.literal rfl)
  · exact sameTags_labelled (tagFree_ofList (by decide)) hrecommendation

/-- The line of an optimization is shown if there is one. -/
theorem sameTags_line {first second : Finding} (same : first.SameShape second) :
    SameTags ((first.lineText.map fun text ↦ " (" ++ text ++ ")").getD "")
      ((second.lineText.map fun text ↦ " (" ++ text ++ ")").getD "") := by
  have hrel : Option.Rel SameTags first.lineText second.lineText := by
    have hline := same.line
    unfold Finding.lineText
    cases hfirst : first.line with
    | none =>
      rw [hfirst, Option.isSome_none, eq_comm, Option.isSome_eq_false_iff, Option.isNone_iff_eq_none] at hline
      rw [hline]
      exact .none
    | some number =>
      rw [hfirst, Option.isSome_some, eq_comm, Option.isSome_iff_exists] at hline
      obtain ⟨number', hsecond⟩ := hline
      rw [hsecond]
      have hnumbers : SameTags (toString number.val) (toString number'.val) :=
        .of_tagFree (tagFree_toString_nat _) (tagFree_toString_nat _)
      exact .some (.append (.literal rfl) hnumbers)
  apply sameTags_optional _ hrel
  intro text text' htext
  exact .append (.append (.literal rfl) htext) (.literal rfl)

theorem bothReturn_optimization {first second : Finding} (h : first.Typed) (h' : second.Typed)
    (same : first.SameShape second) : BothReturn SameTags (optimization first) (optimization second) := by
  apply (bothReturn_escapePresent h.savings h'.savings same.savings).bind
  intro savings savings' hsavings
  apply (bothReturn_escapeValue h.category h'.category).bind
  intro category category' hcategory
  apply (bothReturn_escapeValue h.description h'.description).bind
  intro description description' hdescription
  apply BothReturn.pure
  repeat' with_reducible apply SameTags.append
  any_goals exact .literal rfl
  · exact hcategory
  · exact sameTags_line same
  · exact hdescription
  · apply sameTags_optional _ hsavings
    intro text text' htext
    exact .append (.literal rfl) htext

/-! ## Sections -/

theorem sameTags_header : SameTags header header := by
  unfold header style
  repeat' with_reducible apply SameTags.append
  all_goals exact .literal (by decide +kernel)

theorem sameTags_metadataRows {first second : Metadata} (h : first.name.isEmpty = second.name.isEmpty) :
    List.Forall₂ SameTags (metadataRows first) (metadataRows second) := by
  have hrow {label : String} (hlabel : TagFree label) (text text' : String) :
      SameTags (labelled label (escape text)) (labelled label (escape text')) :=
    sameTags_labelled hlabel (sameTags_escape text text')
  unfold metadataRows
  apply List.rel_append
  · rw [h]
    split
    · exact .nil
    · exact .cons (hrow (tagFree_ofList (by decide)) _ _) .nil
  · exact .cons (hrow (tagFree_ofList (by decide)) _ _) (.cons (hrow (tagFree_ofList (by decide)) _ _)
      (.cons (hrow (tagFree_ofList (by decide)) _ _) .nil))

theorem sameTags_fingerprintRows {first second : String} (h : first.isEmpty = second.isEmpty) :
    List.Forall₂ SameTags (fingerprintRows first) (fingerprintRows second) := by
  unfold fingerprintRows
  rw [h]
  split
  · exact .nil
  · refine .cons (sameTags_labelled (tagFree_ofList (by decide)) ?_) .nil
    exact .append (.append (.literal rfl) (sameTags_escape first second)) (.literal rfl)

theorem sameTags_contractSection {first second : Report} (same : first.SameShape second) :
    SameTags (contractSection first) (contractSection second) := by
  have hnone : first.metadata.isNone = second.metadata.isNone := by
    rw [← Option.isNone_map, same.names, Option.isNone_map]
  have hrows : List.Forall₂ SameTags ((first.metadata.map metadataRows).getD [])
      ((second.metadata.map metadataRows).getD []) := by
    have hnames := same.names
    cases hfirst : first.metadata with
    | none =>
      rw [hfirst, Option.map_none, eq_comm, Option.map_eq_none_iff] at hnames
      rw [hnames]
      exact .nil
    | some metadata =>
      rw [hfirst, Option.map_some, eq_comm, Option.map_eq_some_iff] at hnames
      obtain ⟨metadata', hsecond, hname⟩ := hnames
      rw [hsecond]
      exact sameTags_metadataRows hname.symm
  unfold contractSection
  rw [hnone, same.fingerprint]
  apply sameTags_unless rfl
  refine .append (.append (.literal rfl) (.join ?_)) (.literal rfl)
  rw [List.forall₂_map_left_iff, List.forall₂_map_right_iff]
  apply (List.rel_append hrows (sameTags_fingerprintRows same.fingerprint)).imp
  intro row row' hrow
  exact .append (.append (.literal rfl) hrow) (.literal rfl)

theorem sameTags_count {label : String} (hlabel : TagFree label) (count count' : Int) :
    SameTags (item "      " (label ++ toString count)) (item "      " (label ++ toString count')) :=
  sameTags_item (tagFree_ofList (by decide)) (.append (.of_tagFree hlabel hlabel) (sameTags_toString count count'))

theorem sameTags_summarySection {first second : Report} (same : first.SameShape second) :
    SameTags (summarySection first) (summarySection second) := by
  unfold summarySection
  rw [same.degraded]
  dsimp only
  repeat' with_reducible apply SameTags.append
  any_goals exact .literal rfl
  · exact sameTags_labelled (tagFree_ofList (by decide)) (.append (sameTags_toString _ _) (.literal rfl))
  · exact sameTags_labelled (tagFree_ofList (by decide)) (sameTags_escape _ _)
  · exact sameTags_labelled (tagFree_ofList (by decide))
      (.of_tagFree (tagFree_toString_nat _) (tagFree_toString_nat _))
  · exact sameTags_count (tagFree_ofList (by decide)) _ _
  · exact sameTags_count (tagFree_ofList (by decide)) _ _
  · exact sameTags_count (tagFree_ofList (by decide)) _ _
  · exact sameTags_count (tagFree_ofList (by decide)) _ _
  · exact sameTags_unless same.summary (.append (.append (.literal rfl) (sameTags_escape _ _)) (.literal rfl))
  · split
    · exact .literal (by decide +kernel)
    · exact .literal rfl

/-! ## Reports -/

theorem forall₂_escape {texts texts' : List String} (h : texts.length = texts'.length) :
    List.Forall₂ SameTags (texts.map escape) (texts'.map escape) := by
  rw [List.forall₂_map_left_iff, List.forall₂_map_right_iff, List.forall₂_iff_zip]
  exact ⟨h, fun _ ↦ sameTags_escape _ _⟩

theorem forall₂_vulnerability {findings findings' : List Finding}
    (same : List.Forall₂ Finding.SameShape findings findings') (h : ∀ finding ∈ findings, finding.Typed)
    (h' : ∀ finding ∈ findings', finding.Typed) (start : Nat) :
    List.Forall₂ (fun entry entry' ↦ BothReturn SameTags (vulnerability entry) (vulnerability entry'))
      (findings.zipIdx start) (findings'.zipIdx start) := by
  induction same generalizing start with
  | nil => exact .nil
  | cons hsame _ ih =>
    rw [List.forall_mem_cons] at h h'
    rw [List.zipIdx_cons, List.zipIdx_cons]
    exact .cons (bothReturn_vulnerability h.1 h'.1 hsame start) (ih h.2 h'.2 (start + 1))

theorem forall₂_optimization {findings findings' : List Finding}
    (same : List.Forall₂ Finding.SameShape findings findings') (h : ∀ finding ∈ findings, finding.Typed)
    (h' : ∀ finding ∈ findings', finding.Typed) :
    List.Forall₂ (fun finding finding' ↦ BothReturn SameTags (optimization finding) (optimization finding'))
      findings findings' := by
  induction same with
  | nil => exact .nil
  | cons hsame _ ih =>
    rw [List.forall_mem_cons] at h h'
    exact .cons (bothReturn_optimization h.1 h'.1 hsame) (ih h.2 h'.2)

/-- Reports of one shape are both rendered, with the same tags. -/
theorem bothReturn_render {first second : Report} (h : first.Typed) (h' : second.Typed)
    (same : first.SameShape second) : BothReturn SameTags (render first) (render second) := by
  apply (BothReturn.mapM (forall₂_vulnerability same.vulnerabilities h.vulnerabilities h'.vulnerabilities 1)).bind
  intro vulnerabilities vulnerabilities' hvulnerabilities
  apply (BothReturn.mapM (forall₂_optimization same.optimizations h.optimizations h'.optimizations)).bind
  intro optimizations optimizations' hoptimizations
  apply BothReturn.pure
  repeat' with_reducible apply SameTags.append
  · exact sameTags_header
  · exact sameTags_contractSection same
  · exact sameTags_summarySection same
  · exact .literal rfl
  · exact .join hvulnerabilities
  · exact sameTags_listSection (tagFree_ofList (by decide)) hoptimizations
  · exact sameTags_listSection (tagFree_ofList (by decide)) (forall₂_escape same.recommendations)
  · exact sameTags_listSection (tagFree_ofList (by decide)) (forall₂_escape same.notes)
  · exact .literal rfl

/-- Nothing can be injected into a report in HTML. Two reports whose findings are typed and that have the same shape
are both rendered, and they have the same tags in the same order, whatever texts and numbers they hold. -/
theorem tags_determined_by_shape (first second : Report) (typed : first.Typed) (typed' : second.Typed)
    (same : first.SameShape second) :
    ∃ html html', first.render .html = .ok html ∧ second.render .html = .ok html' ∧ tags html = tags html' := by
  obtain ⟨html, html', hrender, hrender', hsame⟩ := bothReturn_render typed typed' same
  exact ⟨html, html', hrender, hrender', hsame.tags_eq⟩

def hostile : Report where
  tally :=
    { vulnerabilities := [{ category := .str "</h3><script>alert(1)</script>", severity := .high
                            description := .str "\" onload=\"x", snippet := .str "</pre>", location := .str "<b"
                            named := rfl }]
      severityCounts := [("HIGH", 1)]
      categoryCounts := [(.str "</h3><script>alert(1)</script>", 1)]
      optimizations := [{ category := .str "<!--", severity := .low, description := .str "-->", savings := .str "<i>"
                          named := rfl }] }
  score := ⟨85, .high⟩
  metadata := some { language := "<svg>", contracts := ["A<", ">B"] }
  notes := ["</body>"]

def harmless : Report where
  tally :=
    { vulnerabilities := [{ category := .str "Open Withdrawal", severity := .high, description := .str ""
                            snippet := .str "x", location := .str "f", named := rfl }]
      severityCounts := []
      categoryCounts := []
      optimizations := [{ category := .str "Packing", severity := .low, description := .str "", savings := .str "1"
                          named := rfl }] }
  score := ⟨0, .low⟩
  metadata := some { language := "solidity" }
  notes := ["None"]

theorem tags_determined_by_shape_hostile :
    ∃ html html', hostile.render .html = .ok html ∧ harmless.render .html = .ok html' ∧ tags html = tags html' := by
  apply tags_determined_by_shape hostile harmless
  · exact ⟨List.forall_mem_singleton.mpr ⟨rfl, rfl, rfl, rfl, rfl, rfl, rfl, rfl⟩,
      List.forall_mem_singleton.mpr ⟨rfl, rfl, rfl, rfl, rfl, rfl, rfl, rfl⟩⟩
  · exact ⟨List.forall_mem_singleton.mpr ⟨rfl, rfl, rfl, rfl, rfl, rfl, rfl, rfl⟩,
      List.forall_mem_singleton.mpr ⟨rfl, rfl, rfl, rfl, rfl, rfl, rfl, rfl⟩⟩
  · exact
      { vulnerabilities := .cons ⟨rfl, rfl, rfl, rfl, rfl⟩ .nil
        optimizations := .cons ⟨rfl, rfl, rfl, rfl, rfl⟩ .nil
        names := rfl
        fingerprint := rfl
        summary := rfl
        degraded := rfl
        recommendations := rfl
        notes := rfl }

end Report.Html

end ContractAudit
