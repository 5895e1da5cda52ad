import ContractAudit.Path
import ContractAudit.Text.Quoted

/-!
# Disks

A disk holds files and directories at absolute paths. Operations take the path as the user gave it together with the
working directory, because their errors show it as it was given. A path is followed part by part: every part but the
last has to be a directory, double dots lead to the directory above, and names and paths have a greatest length.
-/

namespace ContractAudit

inductive Node where
  | file (bytes : List UInt8)
  /-- A file that may not be opened. -/
  | locked
  | directory
deriving DecidableEq

/-- The entries of a disk by the parts of their paths; an earlier entry hides a later one. -/
abbrev Disk := List (List String × Node)

inductive DiskFault where
  | missing
  | alreadyThere
  | notDirectory
  | isDirectory
  | forbidden
  | nameTooLong
  /-- Links lead in a circle. -/
  | circle
  /-- A path with a null character is no path. -/
  | nullCharacter
deriving DecidableEq, Repr

structure DiskError where
  fault : DiskFault
  path : Path
deriving DecidableEq, Repr

def DiskError.message (error : DiskError) : String :=
  let numbered (number words : String) : String :=
    "[Errno " ++ number ++ "] " ++ words ++ ": " ++ String.ofList (Text.quoted error.path.toString.toList)
  match error.fault with
  | .missing => numbered "2" "No such file or directory"
  | .forbidden => numbered "13" "Permission denied"
  | .alreadyThere => numbered "17" "File exists"
  | .notDirectory => numbered "20" "Not a directory"
  | .isDirectory => numbered "21" "Is a directory"
  | .nameTooLong => numbered "36" "File name too long"
  | .circle => "Symlink loop from " ++ String.ofList (Text.quoted error.path.toString.toList)
  | .nullCharacter => "embedded null byte"

/-- The bytes that are read when a file at a path is opened. -/
def Node.contents (path : Path) : Node → Except DiskError (List UInt8)
  | file bytes => .ok bytes
  | locked => .error ⟨.forbidden, path⟩
  | directory => .error ⟨.isDirectory, path⟩

namespace Disk

/-- Whether a list of parts leads to another one, possibly through none. -/
def leadsTo : List String → List String → Bool
  | [], _ => true
  | _ :: _, [] => false
  | part :: parts, other :: others => part == other && leadsTo parts others

/-- What stands at a path. Every path that leads to an entry is a directory. -/
def node? (disk : Disk) (parts : List String) : Option Node :=
  match disk.lookup parts with
  | some node => some node
  | none => if parts.isEmpty || disk.any (leadsTo parts ·.1) then some .directory else none

def put (disk : Disk) (parts : List String) (node : Node) : Disk :=
  (parts, node) :: disk.filter (·.1 != parts)

/-- The paths that lead to a path, without the path itself. -/
def ancestors (parts : List String) : List (List String) := (List.range parts.length).map parts.take

/-! ## Following paths -/

/-- The most bytes that a name may have. -/
def nameLimit : Nat := 255

/-- The first number of bytes that a path may not have. -/
def pathLimit : Nat := 4096

def step (disk : Disk) (here : List String) (part : String) : Except DiskFault (List String) :=
  match disk.node? here with
  | none => .error .missing
  | some (.file _) => .error .notDirectory
  | some .locked => .error .notDirectory
  | some .directory =>
    if part = ".." then .ok here.dropLast
    else if nameLimit < part.utf8ByteSize then .error .nameTooLong
    else .ok (here ++ [part])

/-- The place that a path leads to, whether or not something stands there. -/
def place (disk : Disk) (working path : Path) : Except DiskFault (List String) :=
  let text := path.toString
  if text.toList.contains '\x00' then .error .nullCharacter
  else if pathLimit ≤ text.utf8ByteSize then .error .nameTooLong
  else path.parts.foldlM disk.step (if path.absolute then [] else working.parts)

def find (disk : Disk) (working path : Path) : Except DiskFault Node := do
  match disk.node? (← disk.place working path) with
  | some node => .ok node
  | none => .error .missing

/-- What stands where a path leads, if anything. A path that leads nowhere is no error, except for a name that is too
long. -/
def look (disk : Disk) (working path : Path) : Except DiskError (Option Node) :=
  match disk.find working path with
  | .ok node => .ok (some node)
  | .error .nameTooLong => .error ⟨.nameTooLong, path⟩
  | .error _ => .ok none

def isDirectory (disk : Disk) (working path : Path) : Bool :=
  match disk.find working path with
  | .ok .directory => true
  | _ => false

/-! ## Changes -/

def makeOne (disk : Disk) (working path : Path) : Except DiskFault Disk := do
  let parts ← disk.place working path
  if path.parts.isEmpty || (disk.node? parts).isSome then .error .alreadyThere
  else .ok (disk.put parts .directory)

/-- A directory that is there already is as good as a new one. -/
def orThere (disk : Disk) (working path : Path) (made : Except DiskFault Disk) : Except DiskError Disk :=
  match made with
  | .ok disk => .ok disk
  | .error fault =>
    if fault != .nullCharacter && disk.isDirectory working path then .ok disk else .error ⟨fault, path⟩

/-- Makes a directory and all that lead to it; a directory that is there already stays. The fuel bounds how many are
made. -/
def makeFrom : (fuel : Nat) → Disk → (working path : Path) → Except DiskError Disk
  | 0, disk, working, path => disk.orThere working path (disk.makeOne working path)
  | fuel + 1, disk, working, path =>
    match disk.makeOne working path with
    | .error .missing => do
      let disk ← makeFrom fuel disk working path.parent
      disk.orThere working path (disk.makeOne working path)
    | made => disk.orThere working path made

def makeDirectory (disk : Disk) (working path : Path) : Except DiskError Disk :=
  makeFrom path.parts.length disk working path

/-- Writes a file, making its directory first. -/
def writeFile (disk : Disk) (working path : Path) (text : String) : Except DiskError Disk := do
  let disk ← disk.makeDirectory working path.parent
  match disk.place working path with
  | .error fault => .error ⟨fault, path⟩
  | .ok parts => do
    let _ ← ((disk.node? parts).getD (.file [])).contents path
    pure (disk.put parts (.file text.toUTF8.toList))

end Disk

/-- What a command runs in. -/
structure Surroundings where
  /-- The working directory. -/
  directory : Path
  /-- The home directory of the user, where no variable names another one. -/
  home : Path
  /-- The home directories of other accounts. -/
  accounts : List (String × Path) := [("root", { absolute := true, parts := ["root"] })]
  environment : List (String × String) := []
  disk : Disk := []
  /-- The absolute path without links and double dots that a path stands for, as the system finds it. It fails where
  links lead in a circle and, for a relative path, where the working directory is gone. -/
  resolve : Path → Except DiskError Path := fun path ↦ .ok (directory.resolve path)

namespace Surroundings

def withoutSlashes (text : String) : String := String.ofList (text.toList.reverse.dropWhile (· = '/')).reverse

/-- The home directory that a first part with a tilde names, if it is known. -/
def home? (surroundings : Surroundings) (part : String) : Option Path :=
  if part = "~" then
    match surroundings.environment.lookup "HOME" with
    | some text =>
      let text := withoutSlashes text
      if text.startsWith "~" then none
      else some (Path.ofString (if text.isEmpty then "/" else text))
    | none => some surroundings.home
  else surroundings.accounts.lookup (String.ofList (part.toList.drop 1))

/-- The path with a tilde in front replaced by a home directory; nothing when that one is not known. -/
def expandHome? (surroundings : Surroundings) (path : Path) : Option Path :=
  if path.startsAtHome then
    (surroundings.home? (path.parts.headD "")).map (·.join { parts := path.parts.drop 1 })
  else some path

end Surroundings

end ContractAudit
