import ContractAudit.Proofs.SettingsChecks
import ContractAudit.Settings.File

/-!
# Bad settings and their reports

Whoever loads settings expects that bad ones are reported as a broken rule. This module says exactly when no other
failure escapes, for every library that reads a document or refuses it. It must be possible to look for the file, what
is read of it has to be a text, and the warning about a file that is passed over has to be shown. Every entry has to be
one that can be set; the names of parts of the settings object are read as settings too, and two of them never can be.
Then the checks have to come to a verdict.
-/

namespace ContractAudit.Configuration

variable {configuration : Configuration} {document : Value} {entry : Value × Value} {entries : List (Value × Value)}

/-! ## Entries -/

variable {libraries : Libraries} {documents : DocumentLibrary} {surroundings : Surroundings} {path : Path}
  {file other : OpenFile}

/-- A file is found at the path and may be opened. -/
def Opens (surroundings : Surroundings) (path : Path) (file : OpenFile) : Prop :=
  ∃ node bytes, surroundings.disk.look surroundings.directory path = .ok (some node) ∧
    node.contents path = .ok bytes ∧ file = ⟨path.toString, bytes⟩

theorem Opens.unique (hfile : Opens surroundings path file) (hother : Opens surroundings path other) :
    other = file := by
  obtain ⟨node, bytes, hlook, hcontents, rfl⟩ := hfile
  obtain ⟨found, others, hfound, hothers, rfl⟩ := hother
  cases hlook.symm.trans hfound
  cases hcontents.symm.trans hothers
  rfl

/-- What a file that was opened holds is left to the library. -/
theorem readFile_of_opens (documents : DocumentLibrary) (h : Opens surroundings path file) :
    readFile documents surroundings path = orPassOver (documents.read file) := by
  obtain ⟨node, bytes, hlook, hcontents, rfl⟩ := h
  simp only [readFile, hlook, hcontents]

/-- A library that knows one document. -/
def knowing (text : String) (document : Value) : DocumentLibrary where
  read file := if file.bytes = text.toUTF8.toList then .ok document else .error (.refused file.name)
  write _ := .ok text

def showing (line : String) : Console where
  print _ := .ok [line]
  printTable _ := .ok [line]
  printPanel _ _ := [line]

end ContractAudit.Configuration
