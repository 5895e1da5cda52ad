import ContractAudit.Disk
import ContractAudit.Proofs.Returns

/-!
# Files that are written

A file that was written is found where it was written: the new entry hides no directory that leads to it.
-/

namespace ContractAudit

namespace Disk

variable {disk : Disk} {here parts : List String} {node : Node}

/-! ## Directories that lead to a new entry -/

theorem node?_put (disk : Disk) (parts : List String) (node : Node) :
    (disk.put parts node).node? parts = some node := by
  simp [node?, put]

theorem lookup_put_of_ne (hne : here ≠ parts) : (disk.put parts node).lookup here = disk.lookup here := by
  have hhead : (here == parts) = false := beq_eq_false_iff_ne.mpr hne
  rw [put, List.lookup_cons, hhead]
  induction disk with
  | nil => rfl
  | cons entry rest ih =>
    by_cases hentry : entry.1 = parts
    · have hskipped : (here == entry.1) = false := by rw [hentry, hhead]
      rw [List.filter_cons_of_neg (by simpa using hentry), List.lookup_cons, hskipped]
      exact ih
    · rw [List.filter_cons_of_pos (by simpa using hentry), List.lookup_cons, List.lookup_cons]
      cases here == entry.1 with
      | true => rfl
      | false => exact ih

theorem any_leadsTo_put (h : disk.any (leadsTo here ·.1) = true) :
    (disk.put parts node).any (leadsTo here ·.1) = true := by
  obtain ⟨entry, hentry, hleads⟩ := List.any_eq_true.mp h
  rw [put, List.any_cons, Bool.or_eq_true]
  by_cases hparts : entry.1 = parts
  · exact Or.inl (hparts ▸ hleads)
  · exact Or.inr (List.any_eq_true.mpr ⟨entry, List.mem_filter.mpr ⟨hentry, by simpa using hparts⟩, hleads⟩)

/-- A directory elsewhere stays one, whether it has an entry of its own or only leads to one. -/
theorem node?_put_of_directory (hne : here ≠ parts) (h : disk.node? here = some .directory) :
    (disk.put parts node).node? here = some .directory := by
  unfold node? at h ⊢
  rw [lookup_put_of_ne hne]
  cases hentry : disk.lookup here with
  | some found =>
    rw [hentry] at h
    exact h
  | none =>
    rw [hentry] at h
    dsimp only at h ⊢
    split at h
    · rename_i hleads
      rcases Bool.or_eq_true_iff.mp hleads with hempty | hany
      · rw [hempty, Bool.true_or, if_pos rfl]
      · rw [any_leadsTo_put hany, Bool.or_true, if_pos rfl]
    · cases h

/-! ## Following the path of a new entry -/

/-- A part is followed only from a directory, and that is none that the new entry replaces. -/
theorem step_put (hnew : disk.node? parts ≠ some .directory) {part : String} {next : List String}
    (h : disk.step here part = .ok next) : (disk.put parts node).step here part = .ok next := by
  unfold step at h ⊢
  cases hhere : disk.node? here with
  | none => simp [hhere] at h
  | some found =>
    cases found with
    | file bytes => simp [hhere] at h
    | locked => simp [hhere] at h
    | directory =>
      have hne : here ≠ parts := fun heq ↦ hnew (heq ▸ hhere)
      rw [node?_put_of_directory hne hhere]
      rw [hhere] at h
      exact h

/-- A path that led to a place still leads there with one more entry, unless a directory was replaced. -/
theorem foldlM_step_put (hnew : disk.node? parts ≠ some .directory) {path : List String} {place : List String}
    (h : path.foldlM disk.step here = .ok place) : path.foldlM (disk.put parts node).step here = .ok place := by
  induction path generalizing here with
  | nil => exact h
  | cons part rest ih =>
    obtain ⟨next, hstep, hrest⟩ := bind_eq_ok_iff.mp h
    exact bind_eq_ok_iff.mpr ⟨next, step_put hnew hstep, ih hrest⟩

theorem place_put (hnew : disk.node? parts ≠ some .directory) {working path : Path}
    (h : disk.place working path = .ok parts) : (disk.put parts node).place working path = .ok parts := by
  unfold place at h ⊢
  dsimp only at h ⊢
  split at h
  · cases h
  · rename_i hnull
    rw [if_neg hnull]
    split at h
    · cases h
    · rename_i hlong
      rw [if_neg hlong]
      exact foldlM_step_put hnew h

/-- What stands at the place of a path is found. -/
theorem look_of_place {working path : Path} (hplace : disk.place working path = .ok parts)
    (hnode : disk.node? parts = some node) : disk.look working path = .ok (some node) := by
  have hfind : disk.find working path = .ok node := bind_eq_ok_iff.mpr ⟨parts, hplace, by simp only [hnode]⟩
  unfold look
  rw [hfind]

/-- What was written is found. -/
theorem look_writeFile {working path : Path} {text : String} {written : Disk}
    (h : disk.writeFile working path text = .ok written) :
    written.look working path = .ok (some (.file text.toUTF8.toList)) := by
  obtain ⟨made, -, hput⟩ := bind_eq_ok_iff.mp h
  cases hplace : made.place working path with
  | error fault => simp [hplace] at hput
  | ok parts =>
    simp only [hplace] at hput
    obtain ⟨bytes, hopened, hwritten⟩ := bind_eq_ok_iff.mp hput
    have hnew : made.node? parts ≠ some .directory := by
      intro hdirectory
      rw [hdirectory] at hopened
      cases hopened
    cases hwritten
    exact look_of_place (place_put hnew hplace) (node?_put made parts _)

end Disk

end ContractAudit
