import ContractAudit.Value

/-!
# Libraries

Documents are read and written, and styled texts are shown, by libraries that are no part of the program. Whoever runs
it hands them in. Nothing is said here about how they work: a statement about the program holds with all libraries, or
with those that have the properties it names.
-/

namespace ContractAudit

/-- An error of a library that the program does not expect, by its kind. -/
structure LibraryError where
  kind : String
deriving DecidableEq, Repr

/-- A file that is open for reading. Its bytes are decoded piece by piece, as far as they are read. -/
structure OpenFile where
  name : String
  bytes : List UInt8

inductive ReadFault where
  /-- The document breaks a rule of its language, or the file could not be read on. -/
  | refused (message : String)
  /-- The bytes are no text. -/
  | undecodable
  | unexpected (error : LibraryError)

structure DocumentLibrary where
  read : OpenFile → Except ReadFault Value
  write : Value → Except LibraryError String

namespace Console

inductive Alignment where
  | left
  | right
deriving DecidableEq, Repr

structure Column where
  header : String
  alignment : Alignment := .left

structure Table where
  title : String
  columns : List Column
  /-- The rows, each with one cell for every column. -/
  rows : List (List String)

end Console

/-- A console: the lines in which it shows styled texts, tables of them, and panels of plain texts with a title. -/
structure Console where
  print : String → Except LibraryError (List String)
  printTable : Console.Table → Except LibraryError (List String)
  printPanel : String → List String → List String

structure Libraries where
  documents : DocumentLibrary
  console : Console

end ContractAudit
