import ContractAudit.Audit
import ContractAudit.Settings

/-!
# Sessions

A session is one run of the program: it prints lines and changes a disk. A session that crashes keeps what it printed
and wrote before.
-/

namespace ContractAudit.CommandLine

inductive Crash where
  | settings (failure : SettingsFailure)
  | audit (error : AuditError)
  /-- A text cannot be shown. -/
  | console (error : LibraryError)
  /-- A file cannot be looked for. -/
  | disk (error : DiskError)
  /-- A cell of a table is no text. -/
  | notPrintable

structure Session where
  disk : Disk
  /-- The lines printed so far, the last one first. -/
  printed : List String := []

abbrev SessionM := ReaderT Libraries (ExceptT Crash (StateM Session))

def printLines (lines : List String) : SessionM Unit :=
  modify fun session ↦ { session with printed := lines.reverse ++ session.printed }

/-- Prints what the console makes of something, if it can be shown. -/
def printShown (shown : Except LibraryError (List String)) : SessionM Unit :=
  match shown with
  | .ok lines => printLines lines
  | .error error => throw (.console error)

def printStyled (text : String) : SessionM Unit := do printShown ((← read).console.print text)

def printTable (table : Console.Table) : SessionM Unit := do printShown ((← read).console.printTable table)

def printPanel (title : String) (texts : List String) : SessionM Unit := do
  printLines ((← read).console.printPanel title texts)

/-- Everything printed, each line with its end. -/
def Session.output (session : Session) : String :=
  String.join (session.printed.reverse.map (· ++ "\n"))

end ContractAudit.CommandLine
