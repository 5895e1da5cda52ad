import ContractAudit.CommandLine.Run
import ContractAudit.Library.Standard

/-!
# The program

Takes a picture of the files that a run looks at, runs on the picture, and puts the changes back.
-/

namespace ContractAudit.CommandLine

/-- The paths that a run looks at, as far as the picture of the disk tells. -/
def touched (surroundings : Surroundings) (words : List String) : List Path :=
  match readArguments words with
  | .error _ => []
  | .ok arguments =>
    match surroundings.expandHome? (Path.ofString (arguments.settingsFile.getD defaultSettingsFile)) with
    | none => []
    | some settingsFile =>
      match arguments.command, (Configuration.load .standard surroundings settingsFile).result with
      | some (.analyze analyze), .ok configuration =>
        let source := Path.ofString analyze.file
        let reports := ReportFormat.all.filterMap fun format ↦
          (reportFile surroundings configuration.settings analyze source format).toOption
        settingsFile :: source :: reports
      | _, _ => [settingsFile]

def absolute (parts : List String) : String := { absolute := true, parts : Path }.toString

/-- Adds what stands at a path, and at the paths that lead to it, to a picture. -/
def photograph (disk : Disk) (parts : List String) : IO Disk := do
  let current ← IO.currentDir
  (Disk.ancestors parts ++ [parts]).foldlM (fun disk parts ↦ do
    let place := current / absolute parts
    if ← place.isDir then return disk.put parts .directory
    else if ← place.pathExists then
      try return disk.put parts (.file (← IO.FS.readBinFile place).toList)
      catch _ => return disk.put parts .locked
    else return disk) disk

/-- Adds everything that a run looks at to a picture. -/
def photographAll (surroundings : Surroundings) (words : List String) : IO Surroundings := do
  let disk ← (touched surroundings words).foldlM (fun disk path ↦
    (List.range (path.parts.length + 1)).foldlM (fun disk count ↦
      photograph disk (surroundings.directory.resolve { path with parts := path.parts.take count }).parts) disk)
    surroundings.disk
  return { surroundings with disk }

def develop (before after : Disk) : IO Unit := do
  let current ← IO.currentDir
  for (parts, node) in after do
    match node with
    | .file bytes =>
      if before.lookup parts != some node then
        IO.FS.createDirAll (current / absolute parts.dropLast)
        IO.FS.writeBinFile (current / absolute parts) ⟨bytes.toArray⟩
    | _ => pure ()

/-- The surroundings of this process, with an empty picture of the disk. -/
def here : IO Surroundings := do
  let directory := Path.ofString (← IO.currentDir).toString
  let home := Path.ofString "/"
  let environment ← ("HOME" :: Configuration.overriding.map (·.1)).filterMapM fun name ↦ do
    return (← IO.getEnv name).map (name, ·)
  return { directory, home, environment }

end ContractAudit.CommandLine

open ContractAudit.CommandLine in
def main (words : List String) : IO UInt32 := do
  let surroundings ← photographAll (← photographAll (← here) words) words
  let outcome := run .standard surroundings words
  develop surroundings.disk outcome.disk
  IO.print (if outcome.help then usage else outcome.output)
  match outcome.status with
  | .ok status =>
    if status == unusable && outcome.output.isEmpty && !outcome.help then IO.eprint usage
    return UInt32.ofNat status
  | .error _ =>
    IO.eprintln "The settings hold a value that the program cannot use."
    return 1
