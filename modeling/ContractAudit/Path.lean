/-!
# Paths

A path is absolute or relative and has parts. Empty parts and single dots are dropped when it is read, so two spellings
of the same parts are one path; double dots stay until the path is resolved. Of the slashes in front of an absolute
path, exactly two are kept as two, and any other number counts as one.
-/

namespace ContractAudit

structure Path where
  absolute : Bool := false
  /-- Whether an absolute path starts with two slashes. -/
  doubled : Bool := false
  parts : List String
deriving DecidableEq, Repr

namespace Path

def ofString (text : String) : Path where
  absolute := text.toList.head? = some '/'
  doubled := (text.toList.takeWhile (· = '/')).length = 2
  parts := (text.splitOn "/").filter fun part ↦ part != "" && part != "."

/-- The path as text; the relative path without parts is a dot. -/
def toString (path : Path) : String :=
  let joined := "/".intercalate path.parts
  if path.absolute then (if path.doubled then "//" else "/") ++ joined
  else if path.parts.isEmpty then "." else joined

/-- The path without its last part; a path without parts is its own parent. -/
def parent (path : Path) : Path := { path with parts := path.parts.dropLast }

/-- The other path, seen from this one. -/
def join (path other : Path) : Path :=
  if other.absolute then other else { path with parts := path.parts ++ other.parts }

/-- The last part, or the empty text. -/
def name (path : Path) : String := path.parts.getLast?.getD ""

/-- A name cut before its last dot. A dot at either end of the name does not count. -/
def cut (name : List Char) : List Char × List Char :=
  let after := (name.reverse.takeWhile (· != '.')).length
  let dot := name.length - after - 1
  if after < name.length ∧ 0 < dot ∧ 0 < after then (name.take dot, name.drop dot) else (name, [])

/-- The last part without its extension. -/
def stem (path : Path) : String := String.ofList (cut path.name.toList).1

def extension (path : Path) : String := String.ofList (cut path.name.toList).2

/-- Whether the path starts with the home directory of somebody. -/
def startsAtHome (path : Path) : Bool := !path.absolute && path.parts.head?.any (·.startsWith "~")

/-- Removes double dots together with the part before them. -/
def collapse : (seen : List String) → List String → List String
  | seen, [] => seen.reverse
  | seen, part :: rest => if part = ".." then collapse (seen.drop 1) rest else collapse (part :: seen) rest

/-- The absolute path without double dots that a path stands for in a working directory, where no part is a link. -/
def resolve (directory path : Path) : Path :=
  { absolute := true, parts := collapse [] (directory.join path).parts }

end Path

end ContractAudit
