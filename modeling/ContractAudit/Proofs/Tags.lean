import ContractAudit.Proofs.FindingKey
import ContractAudit.Report.Html

/-!
# Tags

A tag is what stands from an opening angle bracket to the next closing one. The tags of a text that is put together from
parts are those of the parts, provided that no part ends inside a tag. So two texts that are put together alike have the
same tags if each part of one has the same tags as its counterpart. Escaped texts and numbers have none.
-/

namespace ContractAudit.Report.Html

/-! ## Scanning for tags -/

/-- A scan for tags: those that were found, and the beginning of one that is still open. -/
structure TagScan where
  found : List (List Char)
  opened : Option (List Char)

def TagScan.read (scan : TagScan) (c : Char) : TagScan :=
  match scan.opened with
  | none => if c = '<' then { scan with opened := some [c] } else scan
  | some tag =>
    if c = '>' then { found := scan.found ++ [tag ++ [c]], opened := none }
    else { scan with opened := some (tag ++ [c]) }

def scanTags (text : String) : TagScan := text.toList.foldl TagScan.read ⟨[], none⟩

def tags (text : String) : List (List Char) := (scanTags text).found

/-- The text does not end inside a tag. -/
def Closed (text : String) : Prop := (scanTags text).opened = none

/-- A scan only adds to the tags that were found before. -/
theorem foldl_read (found : List (List Char)) (opened : Option (List Char)) (text : List Char) :
    text.foldl TagScan.read ⟨found, opened⟩ =
      ⟨found ++ (text.foldl TagScan.read ⟨[], opened⟩).found, (text.foldl TagScan.read ⟨[], opened⟩).opened⟩ := by
  induction text generalizing found opened with
  | nil => simp
  | cons c rest ih =>
    rw [List.foldl_cons, List.foldl_cons]
    cases opened with
    | none =>
      by_cases hopens : c = '<'
      · simp only [TagScan.read, if_pos hopens]
        exact ih found (some [c])
      · simp only [TagScan.read, if_neg hopens]
        exact ih found none
    | some tag =>
      by_cases hcloses : c = '>'
      · simp only [TagScan.read, if_pos hcloses, List.nil_append]
        rw [ih, ih [tag ++ [c]], List.append_assoc]
      · simp only [TagScan.read, if_neg hcloses]
        exact ih found (some (tag ++ [c]))

/-- Behind a text that ends outside of tags, the scan starts anew. -/
theorem scanTags_append {first : String} (closed : Closed first) (second : String) :
    scanTags (first ++ second) = ⟨tags first ++ tags second, (scanTags second).opened⟩ := by
  have hfirst : first.toList.foldl TagScan.read ⟨[], none⟩ = ⟨tags first, none⟩ := by
    calc
      scanTags first = ⟨tags first, (scanTags first).opened⟩ := rfl
      _ = ⟨tags first, none⟩ := by rw [closed]
  unfold scanTags
  rw [String.toList_append, List.foldl_append, hfirst, foldl_read]
  rfl

/-- A tag may be spelled in three parts. -/
theorem closed_ofList_append {first second third : List Char}
    (h : ((first ++ second ++ third).foldl TagScan.read ⟨[], none⟩).opened = none) :
    Closed (String.ofList first ++ String.ofList second ++ String.ofList third) := by
  simp only [Closed, scanTags, String.toList_append, String.toList_ofList]
  exact h

/-! ## Texts without tags -/

/-- The text opens no tag. -/
def TagFree (text : String) : Prop := '<' ∉ text.toList

theorem TagFree.scanTags_eq {text : String} (h : TagFree text) : scanTags text = ⟨[], none⟩ := by
  unfold TagFree at h
  unfold scanTags
  generalize text.toList = characters at h
  induction characters with
  | nil => rfl
  | cons c rest ih =>
    rw [List.mem_cons, not_or] at h
    rw [List.foldl_cons]
    simp only [TagScan.read, if_neg (Ne.symm h.1)]
    exact ih h.2

theorem tagFree_ofList {characters : List Char} (h : '<' ∉ characters) : TagFree (String.ofList characters) := by
  rwa [TagFree, String.toList_ofList]

theorem TagFree.append {first second : String} (h : TagFree first) (h' : TagFree second) :
    TagFree (first ++ second) := by
  unfold TagFree at h h' ⊢
  rw [String.toList_append, List.mem_append, not_or]
  exact ⟨h, h'⟩

theorem notMem_escapeCharacter (c : Char) : '<' ∉ escapeCharacter c := by
  unfold escapeCharacter
  split_ifs with hamp hopens
  · decide
  · decide
  · decide
  · decide
  · decide
  · intro hmem
    exact hopens (List.mem_singleton.mp hmem).symm

/-- Whatever a text holds, its escaped form opens no tag. -/
theorem tagFree_escape (text : String) : TagFree (escape text) := by
  unfold TagFree escape
  rw [String.toList_ofList, List.mem_flatMap]
  rintro ⟨c, -, hc⟩
  exact notMem_escapeCharacter c hc

theorem tagFree_toString_nat (n : Nat) : TagFree (toString n) := by
  have htext : (toString n).toList = Nat.toDigits 10 n := String.toList_ofList
  unfold TagFree
  rw [htext]
  exact Finding.notMem_toDigits rfl n

theorem tagFree_toString_int (n : Int) : TagFree (toString n) := by
  cases n with
  | ofNat n => exact tagFree_toString_nat n
  | negSucc n => exact TagFree.append (tagFree_ofList (by decide)) (tagFree_toString_nat (n + 1))

/-! ## Texts with the same tags -/

/-- Two parts that can stand in for each other in a larger text without changing its tags. -/
structure SameTags (first second : String) : Prop where
  closed : Closed first
  closed' : Closed second
  tags_eq : tags first = tags second

namespace SameTags

theorem refl {text : String} (closed : Closed text) : SameTags text text := ⟨closed, closed, rfl⟩

/-- A fixed part of both texts, spelled out, that does not end inside a tag. -/
theorem literal {characters : List Char} (h : (characters.foldl TagScan.read ⟨[], none⟩).opened = none) :
    SameTags (String.ofList characters) (String.ofList characters) := by
  apply refl
  rwa [Closed, scanTags, String.toList_ofList]

theorem of_tagFree {first second : String} (h : TagFree first) (h' : TagFree second) : SameTags first second := by
  have hfirst := h.scanTags_eq
  have hsecond := h'.scanTags_eq
  constructor
  · rw [Closed, hfirst]
  · rw [Closed, hsecond]
  · rw [tags, tags, hfirst, hsecond]

/-- Parts with the same tags can be put together. -/
theorem append {first first' second second' : String} (h : SameTags first first') (h' : SameTags second second') :
    SameTags (first ++ second) (first' ++ second') := by
  have hscan := scanTags_append h.closed second
  have hscan' := scanTags_append h.closed' second'
  constructor
  · rw [Closed, hscan]
    exact h'.closed
  · rw [Closed, hscan']
    exact h'.closed'
  · rw [tags, tags, hscan, hscan', h.tags_eq, h'.tags_eq]

theorem join {parts parts' : List String} (h : List.Forall₂ SameTags parts parts') :
    SameTags (String.join parts) (String.join parts') := by
  induction h with
  | nil => exact literal rfl
  | cons hpart _ ih =>
    rw [String.join_cons, String.join_cons]
    exact hpart.append ih

end SameTags

end ContractAudit.Report.Html
