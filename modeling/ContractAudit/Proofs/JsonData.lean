import ContractAudit.Finding
import ContractAudit.Json.Writer
import Mathlib.Data.List.Nodup
import Mathlib.Data.List.Perm.Basic

/-!
# JSON data

Two values say the same as JSON if they differ at most in the order in which their mappings have their entries. This
module gives values a meaning that forgets that order, and shows that the written form of plain data depends on its
meaning alone, because entries are written in the order of their keys.
-/

namespace ContractAudit

/-- What a value says as JSON. An object is what it has under each key, so the order of its entries says nothing. -/
inductive Datum where
  | null
  | bool (b : Bool)
  | int (n : Int)
  | str (s : String)
  | list (items : List Datum)
  | object (fields : String → Option Datum)
  /-- A value of any other type stands for itself. -/
  | other (value : Value)

namespace Value

mutual

def datum : Value → Datum
  | .null => .null
  | .bool b => .bool b
  | .int n => .int n
  | .str s => .str s
  | .list items => .list (datumItems items)
  | .map entries => .object (datumFields entries)
  | value => .other value

def datumItems : List Value → List Datum
  | [] => []
  | item :: rest => datum item :: datumItems rest

def datumFields : List (Value × Value) → String → Option Datum
  | [], _ => none
  | (key, item) :: rest, name => if key.sameKey (.str name) then some (datum item) else datumFields rest name

end

theorem datum_list (items : List Value) : (list items).datum = .list (items.map datum) := by
  have hitems : datumItems items = items.map datum := by
    induction items with
    | nil => rfl
    | cons item rest ih => rw [datumItems, ih, List.map_cons]
  rw [datum, hitems]

def meanings (entries : List (String × Value)) : List (String × Datum) :=
  entries.map fun entry ↦ (entry.1, entry.2.datum)

/-- An object says what it has under each key. -/
theorem datum_object (entries : List (String × Value)) :
    (object entries).datum = .object fun name ↦ (meanings entries).lookup name := by
  have hfields : ∀ name,
      datumFields (entries.map fun entry ↦ (str entry.1, entry.2)) name = (meanings entries).lookup name := by
    intro name
    induction entries with
    | nil => rfl
    | cons entry rest ih =>
      rw [List.map_cons, datumFields, ih]
      simp only [sameKey, meanings, List.map_cons, List.lookup_cons]
      by_cases hname : entry.1 = name
      · simp [hname]
      · have htest : (name == entry.1) = false := beq_eq_false_iff_ne.mpr (Ne.symm hname)
        simp [hname, htest]
  rw [object, datum, funext hfields]

/-- An integer can be written up to a number of digits. -/
theorem isWritable_int (n : Int) : (int n).isWritable = true ↔ n.natAbs < Nat.pow 10 Number.digitLimit := by
  rw [isWritable, decide_eq_true_iff]

theorem isWritable_list (items : List Value) :
    (list items).isWritable = true ↔ ∀ item ∈ items, item.isWritable = true := by
  rw [isWritable]
  induction items with
  | nil => simp [writableItems]
  | cons item rest ih => simp [writableItems, ih]

theorem isWritable_object (entries : List (String × Value)) :
    (object entries).isWritable = true ↔ ∀ entry ∈ entries, entry.2.isWritable = true := by
  rw [object, isWritable]
  induction entries with
  | nil => simp [writableEntries]
  | cons entry rest ih =>
    rw [List.map_cons, writableEntries, Bool.and_eq_true, Bool.and_eq_true, ih]
    simp [isWritable]

end Value

namespace Json

/-! ## Entries with distinct keys -/

def DistinctKeys {α : Type} (entries : List (String × α)) : Prop := (entries.map Prod.fst).Nodup

instance {α : Type} (entries : List (String × α)) : Decidable (DistinctKeys entries) :=
  inferInstanceAs (Decidable (entries.map Prod.fst).Nodup)

namespace DistinctKeys

variable {α β : Type}

theorem map_values {entries : List (String × α)} (h : DistinctKeys entries) (f : String × α → β) :
    DistinctKeys (entries.map fun entry ↦ (entry.1, f entry)) := by
  unfold DistinctKeys at h ⊢
  rwa [List.map_map]

theorem nodup {entries : List (String × α)} (h : DistinctKeys entries) : entries.Nodup := List.Nodup.of_map _ h

theorem eq_of_mem {entries : List (String × α)} (h : DistinctKeys entries) {first second : String × α}
    (hfirst : first ∈ entries) (hsecond : second ∈ entries) (hkey : first.1 = second.1) : first = second :=
  List.inj_on_of_nodup_map h hfirst hsecond hkey

theorem of_perm {first second : List (String × α)} (h : DistinctKeys first) (perm : first.Perm second) :
    DistinctKeys second :=
  (perm.map Prod.fst).nodup_iff.mp h

theorem notMem_of_append {known rest : List (String × α)} {entry : String × α}
    (h : DistinctKeys (known ++ entry :: rest)) : entry.1 ∉ known.map Prod.fst := by
  unfold DistinctKeys at h
  rw [List.map_append, List.map_cons, List.nodup_middle, List.nodup_cons, List.mem_append, not_or] at h
  exact h.1.1

/-- Where no key comes twice, every entry is found. -/
theorem lookup_eq_some_iff {entries : List (String × α)} (h : DistinctKeys entries) {name : String} {item : α} :
    entries.lookup name = some item ↔ (name, item) ∈ entries := by
  constructor
  · intro hlookup
    obtain ⟨front, back, rfl, -⟩ := List.lookup_eq_some_iff.mp hlookup
    exact List.mem_append_right front List.mem_cons_self
  · intro hmem
    have hpresent : (entries.lookup name).isSome := by
      rw [List.lookup_isSome_iff]
      exact ⟨(name, item), hmem, beq_self_eq_true name⟩
    obtain ⟨found, hfound⟩ := Option.isSome_iff_exists.mp hpresent
    obtain ⟨front, back, hsplit, -⟩ := List.lookup_eq_some_iff.mp hfound
    have hfoundMem : (name, found) ∈ entries := hsplit ▸ List.mem_append_right front List.mem_cons_self
    have hsame := h.eq_of_mem hmem hfoundMem rfl
    rw [hfound, (Prod.mk.inj hsame).2]

end DistinctKeys

/-- The order of entries says nothing. -/
theorem datum_object_eq_of_perm {entries others : List (String × Value)} (distinct : DistinctKeys entries)
    (perm : entries.Perm others) : (Value.object entries).datum = (Value.object others).datum := by
  have hmeanings : (Value.meanings entries).Perm (Value.meanings others) := perm.map _
  have hentries : DistinctKeys (Value.meanings entries) := distinct.map_values _
  have hothers : DistinctKeys (Value.meanings others) := hentries.of_perm hmeanings
  rw [Value.datum_object, Value.datum_object]
  congr 1
  funext name
  apply Option.ext
  intro meaning
  rw [hentries.lookup_eq_some_iff, hothers.lookup_eq_some_iff]
  exact hmeanings.mem_iff

/-! ## The order of written entries -/

def keyLE {α : Type} (first second : String × α) : Bool := !decide (second.1 < first.1)

theorem keyLE_iff {α : Type} {first second : String × α} : keyLE first second = true ↔ first.1 ≤ second.1 := by
  rw [keyLE, Bool.not_eq_true', decide_eq_false_iff_not, String.not_lt]

theorem sortEntries_pairwise (entries : List (String × List Char)) :
    (sortEntries entries).Pairwise fun first second ↦ keyLE first second = true := by
  apply List.pairwise_mergeSort
  · intro first second third h h'
    exact keyLE_iff.mpr (String.le_trans (keyLE_iff.mp h) (keyLE_iff.mp h'))
  · intro first second
    rw [Bool.or_eq_true]
    exact (String.le_total first.1 second.1).imp keyLE_iff.mpr keyLE_iff.mpr

/-- Entries with distinct keys have only one order. -/
theorem sortEntries_eq_of_perm {first second : List (String × List Char)} (distinct : DistinctKeys first)
    (perm : first.Perm second) : sortEntries first = sortEntries second := by
  have hfirst : (sortEntries first).Perm first := List.mergeSort_perm first _
  have hsecond : (sortEntries second).Perm second := List.mergeSort_perm second _
  have hperm : (sortEntries first).Perm (sortEntries second) := (hfirst.trans perm).trans hsecond.symm
  apply hperm.eq_of_pairwise ?_ (sortEntries_pairwise first) (sortEntries_pairwise second)
  intro entry other hentry hother hle hge
  have hkey : entry.1 = other.1 := String.le_antisymm (keyLE_iff.mp hle) (keyLE_iff.mp hge)
  have hotherFirst : other ∈ first := perm.mem_iff.mpr (hsecond.mem_iff.mp hother)
  exact distinct.eq_of_mem (hfirst.mem_iff.mp hentry) hotherFirst hkey

/-! ## Plain data -/

/-- Data without floating-point numbers: texts, integers, and lists and objects of such data, nested at most so deeply,
with no key twice. -/
inductive Plain : (depth : Nat) → Value → Prop where
  | null {depth : Nat} : Plain depth .null
  | bool {depth : Nat} (b : Bool) : Plain depth (.bool b)
  | int {depth : Nat} (n : Int) : Plain depth (.int n)
  | str {depth : Nat} (s : String) : Plain depth (.str s)
  | list {depth : Nat} {items : List Value} (plain : ∀ item ∈ items, Plain depth item) :
      Plain (depth + 1) (.list items)
  | object {depth : Nat} {entries : List (String × Value)} (distinct : DistinctKeys entries)
      (plain : ∀ entry ∈ entries, Plain depth entry.2) : Plain (depth + 1) (.object entries)

theorem writeValue_list (layout : Layout) (level : Nat) (items : List Value) :
    writeValue layout level (.list items) =
      enclose layout level '[' ']' (items.map (writeValue layout (level + 1))) := by
  have hitems : writeItems layout (level + 1) items = items.map (writeValue layout (level + 1)) := by
    induction items with
    | nil => rfl
    | cons item rest ih => exact congrArg (writeValue layout (level + 1) item :: ·) ih
  exact congrArg (enclose layout level '[' ']') hitems

def written (layout : Layout) (level : Nat) (entries : List (String × Value)) : List (String × List Char) :=
  entries.map fun entry ↦ (entry.1, writeValue layout level entry.2)

theorem writeValue_object (layout : Layout) (level : Nat) (entries : List (String × Value)) :
    writeValue layout level (.object entries) =
      enclose layout level '\x7b' '\x7d'
        ((sortEntries (written layout (level + 1) entries)).map (writeEntry layout)) := by
  have hentries : writeEntries layout (level + 1) (entries.map fun entry ↦ (.str entry.1, entry.2)) =
      written layout (level + 1) entries := by
    induction entries with
    | nil => rfl
    | cons entry rest ih => exact congrArg ((entry.1, writeValue layout (level + 1) entry.2) :: ·) ih
  exact congrArg (fun texts ↦ enclose layout level '\x7b' '\x7d' ((sortEntries texts).map (writeEntry layout))) hentries

/-- The order of entries looks at keys only, which writing the values leaves as they are. -/
theorem exists_sortEntries_written (layout : Layout) (level : Nat) (entries : List (String × Value)) :
    ∃ sorted, sorted.Perm entries ∧ sortEntries (written layout level entries) = written layout level sorted := by
  refine ⟨entries.mergeSort keyLE, List.mergeSort_perm entries _, ?_⟩
  have hmap : (entries.mergeSort keyLE).map (fun entry ↦ (entry.1, writeValue layout level entry.2)) =
      (entries.map fun entry ↦ (entry.1, writeValue layout level entry.2)).mergeSort keyLE :=
    List.map_mergeSort fun _ _ _ _ ↦ rfl
  exact hmap.symm

/-- An entry of one object has a counterpart in every object that says the same. -/
theorem exists_counterpart {entries others : List (String × Value)} (distinct : DistinctKeys entries)
    (distinct' : DistinctKeys others) (same : (Value.object entries).datum = (Value.object others).datum)
    {entry : String × Value} (hentry : entry ∈ entries) :
    ∃ other ∈ others, other.1 = entry.1 ∧ other.2.datum = entry.2.datum := by
  rw [Value.datum_object, Value.datum_object, Datum.object.injEq] at same
  have hmeanings : (entry.1, entry.2.datum) ∈ Value.meanings entries := List.mem_map_of_mem hentry
  have hlookup := (distinct.map_values fun entry ↦ entry.2.datum).lookup_eq_some_iff.mpr hmeanings
  have hother := (distinct'.map_values fun entry ↦ entry.2.datum).lookup_eq_some_iff.mp
    ((congrFun same entry.1).symm.trans hlookup)
  obtain ⟨other, hmem, hsame⟩ := List.mem_map.mp hother
  exact ⟨other, hmem, (Prod.mk.inj hsame).1, (Prod.mk.inj hsame).2⟩

/-- Lists that agree in one way agree in every way that this way decides for their members. -/
theorem map_eq_map_of_map_eq {α β γ : Type} {f : α → β} {g : α → γ} {first second : List α}
    (decides : ∀ a ∈ first, ∀ b ∈ second, f a = f b → g a = g b) (same : first.map f = second.map f) :
    first.map g = second.map g := by
  induction first generalizing second with
  | nil => rw [List.map_eq_nil_iff.mp same.symm]
  | cons a rest ih =>
    obtain ⟨b, rest', rfl, hhead, htail⟩ := List.map_eq_cons_iff.mp same.symm
    have hrest := ih (fun a ha b hb ↦ decides a (List.mem_cons_of_mem _ ha) b (List.mem_cons_of_mem _ hb)) htail.symm
    rw [List.map_cons, List.map_cons, decides a List.mem_cons_self b List.mem_cons_self hhead.symm, hrest]

/-- Objects that say the same have the same written entries, if values that say the same are written the same. -/
theorem written_perm {layout : Layout} {level : Nat} {entries others : List (String × Value)}
    (distinct : DistinctKeys entries) (distinct' : DistinctKeys others)
    (same : (Value.object entries).datum = (Value.object others).datum)
    (decides : ∀ entry ∈ entries, ∀ other ∈ others, entry.2.datum = other.2.datum →
      writeValue layout level entry.2 = writeValue layout level other.2) :
    (written layout level entries).Perm (written layout level others) := by
  apply (List.perm_ext_iff_of_nodup (distinct.map_values _).nodup (distinct'.map_values _).nodup).mpr
  intro pair
  constructor
  · intro hpair
    obtain ⟨entry, hentry, rfl⟩ := List.mem_map.mp hpair
    obtain ⟨other, hother, hkey, hdatum⟩ := exists_counterpart distinct distinct' same hentry
    rw [← hkey, decides entry hentry other hother hdatum.symm]
    exact List.mem_map_of_mem hother
  · intro hpair
    obtain ⟨other, hother, rfl⟩ := List.mem_map.mp hpair
    obtain ⟨entry, hentry, hkey, hdatum⟩ := exists_counterpart distinct' distinct same.symm hother
    rw [← hkey, ← decides entry hentry other hother hdatum]
    exact List.mem_map_of_mem hentry

/-- Plain data that says the same is written the same. -/
theorem Plain.writeValue_eq {layout : Layout} {depth : Nat} {value : Value} (h : Plain depth value)
    {depth' : Nat} {other : Value} (h' : Plain depth' other) (same : value.datum = other.datum) (level : Nat) :
    writeValue layout level value = writeValue layout level other := by
  induction h generalizing depth' other level with
  | null =>
    cases h' with
    | null => rfl
    | _ => cases same
  | bool b =>
    cases h' with
    | bool b' =>
      cases same
      rfl
    | _ => cases same
  | int n =>
    cases h' with
    | int n' =>
      cases same
      rfl
    | _ => cases same
  | str s =>
    cases h' with
    | str s' =>
      cases same
      rfl
    | _ => cases same
  | list plain ih =>
    cases h' with
    | list plain' =>
      rw [Value.datum_list, Value.datum_list, Datum.list.injEq] at same
      have hitems := map_eq_map_of_map_eq
        (fun item hitem other hother hsame ↦ ih item hitem (plain' other hother) hsame (level + 1)) same
      rw [writeValue_list, writeValue_list, hitems]
    | _ => cases same
  | object distinct plain ih =>
    cases h' with
    | object distinct' plain' =>
      have hperm := written_perm distinct distinct' same fun entry hentry other hother hsame ↦
        ih entry hentry (plain' other hother) hsame (level + 1)
      have hsorted := sortEntries_eq_of_perm (distinct.map_values _) hperm
      rw [writeValue_object, writeValue_object]
      exact congrArg (fun texts ↦ enclose layout level '\x7b' '\x7d' (texts.map (writeEntry layout))) hsorted
    | _ => cases same

end Json

end ContractAudit
