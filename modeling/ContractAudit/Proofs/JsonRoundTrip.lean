import ContractAudit.Proofs.JsonData
import ContractAudit.Proofs.JsonTokens

/-!
# Reading back what was written

Plain data that was written, in either layout, is read back as data that says the same. The reader is given the text of
a value with more text behind it, as it stands inside a list or an object, and has to stop at its end; what may stand
behind a value is a comma, a closing bracket, a line break or nothing.
-/

namespace ContractAudit.Json

/-! ## Blanks -/

def gap (layout : Layout) (level : Nat) : List Char :=
  match layout with
  | .compact => []
  | .indented => lineBreak level

theorem isSpace_of_mem_gap (layout : Layout) (level : Nat) : ∀ c ∈ gap layout level, isSpace c = true := by
  intro c hc
  cases layout with
  | compact => cases hc
  | indented =>
    rcases List.mem_cons.mp hc with rfl | hblank
    · rfl
    · rw [List.eq_of_mem_replicate hblank]
      rfl

theorem skipSpace_cons {c : Char} (h : isSpace c = false) (rest : List Char) : skipSpace (c :: rest) = c :: rest :=
  List.dropWhile_cons_of_neg (by simp [h])

/-- The text starts with a character that is neither a blank nor a closing bracket. -/
def Solid (text : List Char) : Prop := ∃ c rest, text = c :: rest ∧ isSpace c = false ∧ c ≠ ']'

theorem Solid.skipSpace_append {text : List Char} (h : Solid text) {blanks : List Char}
    (hblanks : ∀ c ∈ blanks, isSpace c = true) (rest : List Char) :
    skipSpace (blanks ++ (text ++ rest)) = text ++ rest := by
  obtain ⟨c, more, rfl, hspace, -⟩ := h
  rw [skipSpace, List.dropWhile_append_of_pos hblanks]
  exact skipSpace_cons hspace (more ++ rest)

theorem Solid.append {text : List Char} (h : Solid text) (rest : List Char) : Solid (text ++ rest) := by
  obtain ⟨c, more, rfl, hspace, hend⟩ := h
  exact ⟨c, more ++ rest, rfl, hspace, hend⟩

/-! ## Brackets -/

/-- What stands behind the first item up to the closing bracket. -/
def remainder (layout : Layout) (level : Nat) (right : Char) : List (List Char) → List Char
  | [] => gap layout level ++ [right]
  | item :: rest => ',' :: (gap layout (level + 1) ++ item ++ remainder layout level right rest)

theorem enclose_cons (layout : Layout) (level : Nat) (left right : Char) (item : List Char) (rest : List (List Char)) :
    enclose layout level left right (item :: rest) =
      left :: (gap layout (level + 1) ++ (item ++ remainder layout level right rest)) := by
  have hfold : remainder layout level right rest =
      rest.foldr (fun item rest ↦ ',' :: gap layout (level + 1) ++ item ++ rest) [] ++
        (gap layout level ++ [right]) := by
    induction rest with
    | nil => rfl
    | cons next rest ih => simp [remainder, ih]
  cases layout <;> simp [enclose, hfold, gap]

theorem length_lt_remainder {α : Type} (layout : Layout) (level : Nat) (right : Char) (write : α → List Char)
    (items : List α) (text rest : List Char) :
    items.length < (text ++ (remainder layout level right (items.map write) ++ rest)).length := by
  have hremainder : items.length < (remainder layout level right (items.map write)).length := by
    induction items with
    | nil => simp [remainder]
    | cons item items ih =>
      simp only [List.map_cons, remainder, List.length_cons, List.length_append]
      omega
  simp only [List.length_append]
  omega

/-- Behind an item comes nothing with which a number goes on. -/
theorem delimited_remainder (layout : Layout) (level : Nat) {right : Char} (h : right = ']' ∨ right = '\x7d')
    (items : List (List Char)) (rest : List Char) : Delimited (remainder layout level right items ++ rest) := by
  intro c hc
  cases items with
  | nil =>
    cases layout with
    | compact =>
      cases hc
      exact Or.inr (h.imp id Or.inl)
    | indented =>
      cases hc
      exact Or.inr (Or.inr (Or.inr rfl))
  | cons item items =>
    cases hc
    exact Or.inl rfl

theorem skipSpace_remainder_nil (layout : Layout) (level : Nat) {right : Char} (h : isSpace right = false)
    (rest : List Char) : skipSpace (remainder layout level right [] ++ rest) = right :: rest := by
  rw [remainder, List.append_assoc, skipSpace, List.dropWhile_append_of_pos (isSpace_of_mem_gap layout level)]
  exact skipSpace_cons h rest

theorem skipSpace_remainder_cons (layout : Layout) (level : Nat) (right : Char) (item : List Char)
    (items : List (List Char)) (rest : List Char) :
    skipSpace (remainder layout level right (item :: items) ++ rest) =
      ',' :: (gap layout (level + 1) ++ (item ++ (remainder layout level right items ++ rest))) := by
  rw [remainder, List.cons_append, skipSpace_cons rfl, List.append_assoc, List.append_assoc]

/-! ## Lists -/

section Items

variable {read : List Char → Except Fault (Value × List Char)}

theorem readItems_last {text rest after : List Char} {value : Value} (hread : read text = .ok (value, rest))
    (hend : skipSpace rest = ']' :: after) (limit : Nat) :
    readItems read (limit + 1) text = .ok ([value], after) := by
  simp only [readItems, hread, bind, Except.bind, hend]
  rfl

theorem readItems_more {text rest next after : List Char} {value : Value} {found : List Value} {limit : Nat}
    (hread : read text = .ok (value, rest)) (hcomma : skipSpace rest = ',' :: next)
    (hrest : readItems read limit (skipSpace next) = .ok (found, after)) :
    readItems read (limit + 1) text = .ok (value :: found, after) := by
  simp only [readItems, hread, bind, Except.bind, hcomma, hrest]
  rfl

/-- Wherever a value may stand, the text is read up to its end, as a value of the given meaning. -/
structure Writes (read : List Char → Except Fault (Value × List Char)) (text : List Char) (meaning : Datum) : Prop where
  solid : Solid text
  reads : ∀ rest, Delimited rest → ∃ value, read (text ++ rest) = .ok (value, rest) ∧ value.datum = meaning

/-- If every item is read back, so are items behind each other. -/
theorem readItems_remainder {write : Value → List Char} (layout : Layout) (level : Nat) (item : Value)
    (items : List Value) (h : ∀ member ∈ item :: items, Writes read (write member) member.datum)
    {limit : Nat} (hlimit : items.length < limit) (after : List Char) :
    ∃ found, readItems read limit (write item ++ (remainder layout level ']' (items.map write) ++ after)) =
        .ok (found, after) ∧ found.map Value.datum = (item :: items).map Value.datum := by
  induction items generalizing item limit with
  | nil =>
    cases limit with
    | zero => exact absurd hlimit (Nat.not_lt_zero _)
    | succ limit =>
      have hdelimited := delimited_remainder layout level (Or.inl rfl) [] after
      obtain ⟨value, hread, hmeaning⟩ := (h item List.mem_cons_self).reads _ hdelimited
      have hend : skipSpace (remainder layout level ']' [] ++ after) = ']' :: after :=
        skipSpace_remainder_nil layout level rfl after
      refine ⟨[value], readItems_last hread hend limit, ?_⟩
      rw [List.map_singleton, List.map_singleton, hmeaning]
  | cons next items ih =>
    cases limit with
    | zero => exact absurd hlimit (Nat.not_lt_zero _)
    | succ limit =>
      have hdelimited := delimited_remainder layout level (Or.inl rfl) ((next :: items).map write) after
      obtain ⟨value, hread, hmeaning⟩ := (h item List.mem_cons_self).reads _ hdelimited
      obtain ⟨found, hfound, hmeanings⟩ := ih next (fun member hmember ↦ h member (List.mem_cons_of_mem item hmember))
        (Nat.lt_of_succ_lt_succ hlimit)
      have hsolid := (h next (List.mem_cons_of_mem item List.mem_cons_self)).solid
      have hcomma := skipSpace_remainder_cons layout level ']' (write next) (items.map write) after
      rw [← hsolid.skipSpace_append (isSpace_of_mem_gap layout (level + 1))] at hfound
      refine ⟨value :: found, readItems_more hread hcomma hfound, ?_⟩
      rw [List.map_cons, hmeaning, hmeanings, List.map_cons (a := item)]

theorem readValue_nil (depth : Nat) (after : List Char) :
    readValue (depth + 1) ('[' :: ']' :: after) = .ok (.list [], after) := rfl

theorem readValue_items {depth : Nat} {text body after : List Char} {found : List Value}
    (hskip : skipSpace text = body) (hsolid : Solid body)
    (hfound : readItems (readValue depth) body.length body = .ok (found, after)) :
    readValue (depth + 1) ('[' :: text) = .ok (.list found, after) := by
  obtain ⟨c, rest, rfl, -, hc⟩ := hsolid
  rw [readValue, hskip]
  split
  · rename_i heq
    exact absurd (List.cons.inj heq).1 hc
  · rw [hfound]
    rfl

end Items

/-! ## Objects -/

section Entries

variable {read : List Char → Except Fault (Value × List Char)}

def keyed (entries : List (String × Value)) : List (Value × Value) := entries.map fun entry ↦ (.str entry.1, entry.2)

/-- A new key comes last. -/
theorem setKey_keyed {known : List (String × Value)} {key : String} (h : key ∉ known.map Prod.fst) (value : Value) :
    setKey (keyed known) key value = keyed (known ++ [(key, value)]) := by
  have hnone : ((keyed known).any fun entry ↦ entry.1.sameKey (.str key)) = false := by
    rw [keyed, List.any_map, List.any_eq_false]
    intro entry hentry hsame
    have hkey : entry.1 = key := beq_iff_eq.mp hsame
    exact h (hkey ▸ List.mem_map_of_mem hentry)
  rw [setKey, hnone, keyed, keyed, List.map_append]
  rfl

def entryText (layout : Layout) (write : Value → List Char) (entry : String × Value) : List Char :=
  writeEntry layout (entry.1, write entry.2)

/-- A written entry has its key between quotes, and its value after a colon. -/
theorem entryText_append (layout : Layout) (write : Value → List Char) (entry : String × Value) (rest : List Char) :
    ∃ blanks, (∀ c ∈ blanks, isSpace c = true) ∧ entryText layout write entry ++ rest =
      '"' :: (entry.1.toList.flatMap escapeCharacter ++ '"' :: ':' :: (blanks ++ (write entry.2 ++ rest))) := by
  cases layout with
  | compact => exact ⟨[], List.forall_mem_nil _, by simp [entryText, writeEntry, writeString]⟩
  | indented => exact ⟨[' '], List.forall_mem_singleton.mpr rfl, by simp [entryText, writeEntry, writeString]⟩

theorem solid_entryText (layout : Layout) (write : Value → List Char) (entry : String × Value) :
    Solid (entryText layout write entry) :=
  ⟨'"', _, rfl, rfl, by decide⟩

/-- What becomes of a written entry with a new key, by the text behind it. -/
theorem readEntries_entryText (layout : Layout) {write : Value → List Char} {known : List (String × Value)}
    {entry : String × Value} (hnew : entry.1 ∉ known.map Prod.fst) (solid : Solid (write entry.2)) {rest : List Char}
    {value : Value} (hread : read (write entry.2 ++ rest) = .ok (value, rest)) (limit : Nat) :
    readEntries read (limit + 1) (keyed known) (entryText layout write entry ++ rest) =
      match skipSpace rest with
      | '\x7d' :: after => .ok (keyed (known ++ [(entry.1, value)]), after)
      | ',' :: next => readEntries read limit (keyed (known ++ [(entry.1, value)])) (skipSpace next)
      | _ => .error .malformed := by
  obtain ⟨blanks, hblanks, htext⟩ := entryText_append layout write entry rest
  have hcolon := skipSpace_cons (c := ':') rfl (blanks ++ (write entry.2 ++ rest))
  rw [htext, readEntries, readString_flatMap_escapeCharacter, String.ofList_toList]
  simp only [bind, Except.bind, hcolon, solid.skipSpace_append hblanks, hread, setKey_keyed hnew]
  rfl

/-- If the value of every entry is read back, so are entries behind each other. The entries that were read before stay
in front of them. -/
theorem readEntries_remainder {write : Value → List Char} (layout : Layout) (level : Nat)
    (known : List (String × Value)) (entry : String × Value) (entries : List (String × Value))
    (h : ∀ member ∈ entry :: entries, Writes read (write member.2) member.2.datum)
    (distinct : DistinctKeys (known ++ entry :: entries)) {limit : Nat} (hlimit : entries.length < limit)
    (after : List Char) :
    ∃ found, readEntries read limit (keyed known) (entryText layout write entry ++
          (remainder layout level '\x7d' (entries.map (entryText layout write)) ++ after)) =
        .ok (keyed (known ++ found), after) ∧
      Value.meanings found = Value.meanings (entry :: entries) := by
  have hwrites := h entry List.mem_cons_self
  have hnew : entry.1 ∉ known.map Prod.fst := distinct.notMem_of_append
  induction entries generalizing known entry limit with
  | nil =>
    cases limit with
    | zero => exact absurd hlimit (Nat.not_lt_zero _)
    | succ limit =>
      obtain ⟨value, hread, hmeaning⟩ := hwrites.reads _ (delimited_remainder layout level (Or.inr rfl) [] after)
      have hread' := readEntries_entryText layout hnew hwrites.solid hread limit
      rw [skipSpace_remainder_nil layout level rfl] at hread'
      refine ⟨[(entry.1, value)], hread', ?_⟩
      rw [Value.meanings, Value.meanings, List.map_singleton, List.map_singleton, hmeaning]
  | cons next entries ih =>
    cases limit with
    | zero => exact absurd hlimit (Nat.not_lt_zero _)
    | succ limit =>
      have hdelimited := delimited_remainder layout level (Or.inr rfl)
        ((next :: entries).map (entryText layout write)) after
      obtain ⟨value, hread, hmeaning⟩ := hwrites.reads _ hdelimited
      have hread' := readEntries_entryText layout hnew hwrites.solid hread limit
      rw [List.map_cons, skipSpace_remainder_cons] at hread'
      have hskip := (solid_entryText layout write next).skipSpace_append (isSpace_of_mem_gap layout (level + 1))
        (remainder layout level '\x7d' (entries.map (entryText layout write)) ++ after)
      have hdistinct : DistinctKeys (known ++ [(entry.1, value)] ++ next :: entries) := by
        unfold DistinctKeys at distinct ⊢
        simpa using distinct
      obtain ⟨found, hfound, hmeanings⟩ := ih (known ++ [(entry.1, value)]) next
        (fun member hmember ↦ h member (List.mem_cons_of_mem entry hmember)) hdistinct (Nat.lt_of_succ_lt_succ hlimit)
        (h next (List.mem_cons_of_mem entry List.mem_cons_self)) hdistinct.notMem_of_append
      rw [← hskip, List.append_assoc] at hfound
      refine ⟨(entry.1, value) :: found, hread'.trans hfound, ?_⟩
      rw [Value.meanings, List.map_cons, hmeaning]
      exact congrArg ((entry.1, entry.2.datum) :: ·) hmeanings

theorem readValue_empty (depth : Nat) (after : List Char) :
    readValue (depth + 1) ('\x7b' :: '\x7d' :: after) = .ok (.object [], after) := rfl

theorem readValue_entries {depth : Nat} {text body after : List Char} {found : List (String × Value)}
    (hskip : skipSpace text = '"' :: body)
    (hfound : readEntries (readValue depth) ('"' :: body).length [] ('"' :: body) = .ok (keyed found, after)) :
    readValue (depth + 1) ('\x7b' :: text) = .ok (.object found, after) := by
  rw [readValue, hskip]
  change (readEntries (readValue depth) ('"' :: body).length [] ('"' :: body)).map _ = _
  rw [hfound]
  rfl

end Entries

/-! ## Values -/

theorem readValue_of_scalar {c : Char} (hlist : c ≠ '[') (hobject : c ≠ '\x7b') (depth : Nat) (rest : List Char) :
    readValue depth (c :: rest) = readScalar (c :: rest) := by
  rw [readValue.eq_5]
  · rintro _ - ⟨⟩
    exact hlist rfl
  · rintro _ - ⟨⟩
    exact hobject rfl
  · rintro _ _ - ⟨⟩
    exact hlist rfl
  · rintro _ _ - ⟨⟩
    exact hobject rfl

/-- A text that is read as a scalar writes what is read. -/
theorem writes_scalar {c : Char} {more : List Char} {value : Value} (hspace : isSpace c = false) (hend : c ≠ ']')
    (hlist : c ≠ '[') (hobject : c ≠ '\x7b')
    (hread : ∀ rest, Delimited rest → readScalar (c :: more ++ rest) = .ok (value, rest)) (depth : Nat) :
    Writes (readValue depth) (c :: more) value.datum where
  solid := ⟨c, more, rfl, hspace, hend⟩
  reads rest hrest := by
    refine ⟨value, ?_, rfl⟩
    rw [List.cons_append, readValue_of_scalar hlist hobject]
    exact hread rest hrest

/-- An integer that can be written can be read: both stop at the same number of digits. -/
theorem writes_int {n : Int} (writable : (Value.int n).isWritable = true) (depth : Nat) :
    Writes (readValue depth) (Number.writeInt n) (.int n) := by
  have hlimit : Number.digitLimit = maxDigits := rfl
  rw [Value.isWritable_int, hlimit] at writable
  have hread := fun rest (hrest : Delimited rest) ↦ hrest.readScalar_writeInt writable
  obtain ⟨c, more, htext, hc⟩ := exists_writeInt_eq_cons n
  rw [htext] at hread ⊢
  have hne : ∀ other : Char, other.isDigit = false → other ≠ '-' → c ≠ other := by
    rintro _ hdigit hminus rfl
    rcases hc with rfl | hc
    · exact hminus rfl
    · rw [hc] at hdigit
      cases hdigit
  have hspace : isSpace c = false := by
    simp [isSpace, hne ' ' rfl (by decide), hne '\t' rfl (by decide), hne '\n' rfl (by decide),
      hne '\r' rfl (by decide)]
  exact writes_scalar hspace (hne _ rfl (by decide)) (hne _ rfl (by decide)) (hne _ rfl (by decide)) hread depth

/-- A list is read back if its items are. -/
theorem writes_list {depth : Nat} {write : Value → List Char} (layout : Layout) (level : Nat) {items : List Value}
    (h : ∀ item ∈ items, Writes (readValue depth) (write item) item.datum) :
    Writes (readValue (depth + 1)) (enclose layout level '[' ']' (items.map write)) (Value.list items).datum := by
  cases items with
  | nil =>
    constructor
    · exact ⟨'[', [']'], rfl, rfl, by decide⟩
    · intro rest _
      exact ⟨.list [], readValue_nil depth rest, rfl⟩
  | cons item items =>
    rw [List.map_cons, enclose_cons]
    constructor
    · exact ⟨'[', _, rfl, rfl, by decide⟩
    · intro rest _
      have hsolid := (h item List.mem_cons_self).solid
      have hskip := hsolid.skipSpace_append (isSpace_of_mem_gap layout (level + 1))
        (remainder layout level ']' (items.map write) ++ rest)
      have hlimit := length_lt_remainder layout level ']' write items (write item) rest
      obtain ⟨found, hfound, hmeanings⟩ := readItems_remainder layout level item items h hlimit rest
      refine ⟨.list found, ?_, ?_⟩
      · simp only [List.cons_append, List.append_assoc]
        exact readValue_items hskip (hsolid.append _) hfound
      · rw [Value.datum_list, Value.datum_list, hmeanings]

/-- An object is read back if its values are and no key comes twice. -/
theorem writes_object {depth : Nat} {write : Value → List Char} (layout : Layout) (level : Nat)
    {entries : List (String × Value)} (distinct : DistinctKeys entries)
    (h : ∀ entry ∈ entries, Writes (readValue depth) (write entry.2) entry.2.datum) :
    Writes (readValue (depth + 1)) (enclose layout level '\x7b' '\x7d' (entries.map (entryText layout write)))
      (Value.object entries).datum := by
  cases entries with
  | nil =>
    constructor
    · exact ⟨'\x7b', ['\x7d'], rfl, rfl, by decide⟩
    · intro rest _
      exact ⟨.object [], readValue_empty depth rest, rfl⟩
  | cons entry entries =>
    rw [List.map_cons, enclose_cons]
    constructor
    · exact ⟨'\x7b', _, rfl, rfl, by decide⟩
    · intro rest _
      have hskip := (solid_entryText layout write entry).skipSpace_append (isSpace_of_mem_gap layout (level + 1))
        (remainder layout level '\x7d' (entries.map (entryText layout write)) ++ rest)
      have hlimit := length_lt_remainder layout level '\x7d' (entryText layout write) entries
        (entryText layout write entry) rest
      obtain ⟨found, hfound, hmeanings⟩ := readEntries_remainder layout level [] entry entries h distinct hlimit rest
      refine ⟨.object found, ?_, ?_⟩
      · simp only [List.cons_append, List.append_assoc]
        exact readValue_entries hskip hfound
      · rw [Value.datum_object, Value.datum_object, hmeanings]

/-- Plain data is read back with its meaning, in whatever layout and on whatever level it was written. -/
theorem Plain.writes {depth : Nat} {value : Value} (h : Plain depth value) (writable : value.isWritable = true)
    (layout : Layout) (level : Nat) : Writes (readValue depth) (writeValue layout level value) value.datum := by
  induction h generalizing level with
  | null => exact writes_scalar rfl (by decide) (by decide) (by decide) (fun _ _ ↦ rfl) _
  | bool b =>
    cases b with
    | true => exact writes_scalar rfl (by decide) (by decide) (by decide) (fun _ _ ↦ rfl) _
    | false => exact writes_scalar rfl (by decide) (by decide) (by decide) (fun _ _ ↦ rfl) _
  | int n => exact writes_int writable _
  | str s =>
    apply writes_scalar rfl (by decide) (by decide) (by decide)
    intro rest _
    have hread := readScalar_writeString s.toList rest
    rwa [String.ofList_toList] at hread
  | @list depth items plain ih =>
    rw [Value.isWritable_list] at writable
    rw [writeValue_list]
    exact writes_list layout level fun item hitem ↦ ih item hitem (writable item hitem) (level + 1)
  | @object depth entries distinct plain ih =>
    rw [Value.isWritable_object] at writable
    obtain ⟨sorted, hperm, hsorted⟩ := exists_sortEntries_written layout (level + 1) entries
    have hdistinct : DistinctKeys sorted := distinct.of_perm hperm.symm
    have hwrites := writes_object layout level hdistinct fun entry hentry ↦
      ih entry (hperm.mem_iff.mp hentry) (writable entry (hperm.mem_iff.mp hentry)) (level + 1)
    rw [writeValue_object, hsorted, written, List.map_map, ← datum_object_eq_of_perm hdistinct hperm]
    exact hwrites

/-- Written plain data is read back with its meaning. -/
theorem Plain.read_writeValue {value : Value} (h : Plain maxDepth value) (writable : value.isWritable = true)
    (layout : Layout) : (read (writeValue layout 0 value)).map Value.datum = .ok value.datum := by
  have hwrites := h.writes writable layout 0
  obtain ⟨found, hread, hmeaning⟩ := hwrites.reads [] (fun _ hc ↦ nomatch hc)
  have hskip := hwrites.solid.skipSpace_append (List.forall_mem_nil _) []
  rw [List.nil_append, List.append_nil] at hskip
  rw [List.append_nil] at hread
  rw [read, hskip, hread]
  exact congrArg Except.ok hmeaning

/-- Plain data is written the same exactly if it says the same. -/
theorem Plain.write_eq_iff {value other : Value} (h : Plain maxDepth value) (writable : value.isWritable = true)
    (h' : Plain maxDepth other) (writable' : other.isWritable = true) (layout : Layout) :
    write layout value = write layout other ↔ value.datum = other.datum := by
  constructor
  · intro hwrite
    have htext : writeValue layout 0 value = writeValue layout 0 other := String.ofList_injective hwrite
    have hread := h.read_writeValue writable layout
    rw [htext, h'.read_writeValue writable' layout] at hread
    exact (Except.ok.inj hread).symm
  · intro hsame
    rw [write, write, h.writeValue_eq h' hsame 0]

end ContractAudit.Json
