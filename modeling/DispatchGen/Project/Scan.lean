/-
DispatchGen/Project/Scan.lean

The source files of a target, in the order they are read.

The scan goes through the source directory depth first and takes each
directory's entries in order, files and directories mixed.  It enters no
directory whose name is excluded, except the source directory itself, and
follows no link below it.  The file that is to be generated is met but not
read.  Where the system refuses to list a directory that is entered, the scan
meets the refusal instead of what is in there, and goes on.
-/
import DispatchGen.Config
import DispatchGen.Disk.Access
import DispatchGen.Failure

namespace DispatchGen.Project

open Disk

/-- Something the scan comes upon. -/
inductive Visit where
  /-- A source file. -/
  | source (file : Path)
  /-- The file that is to be generated. -/
  | output (file : Path)
  /-- A directory that the system refuses to list. -/
  | unlisted (directory : Path) (fault : Fault)
deriving DecidableEq, Repr

/-- What the scan makes of a file that is to be skipped if it is `skip`. -/
def visitOf (c : Config) (skip : Option Path) (file : Path) : List Visit :=
  if !c.isSourceFile file then []
  else if skip.any (·.same file) then [.output file]
  else [.source file]

/-- What the scan comes upon in a directory, unless the system refuses to list it. -/
def enter (d : Disk) (directory : Path) (found : List Visit) : List Visit :=
  match d.refusal (.listDirectory directory) with
  | some fault => [.unlisted directory fault]
  | none => found

mutual

/-- What the scan comes upon at an entry below the top. -/
def visit (d : Disk) (c : Config) (skip : Option Path) (name : OsText) (file : Path) :
    Entry → List Visit
  | .file _ => visitOf c skip file
  | .link _ => []
  | .directory entries =>
      if c.excludes name then [] else enter d file (visits d c skip file entries)

/-- What the scan comes upon at the entries of a directory. -/
def visits (d : Disk) (c : Config) (skip : Option Path) (directory : Path) :
    List (OsText × Entry) → List Visit
  | [] => []
  | (name, e) :: rest =>
      visit d c skip name (directory.join ⟨name⟩) e ++ visits d c skip directory rest

end

/-- The scan of a target's source directory. -/
def scan (d : Disk) (target : Pipeline) (directory : Path) (c : Config) (skip : Option Path) :
    Except Failure (List Visit) :=
  match d.directory? directory with
  | some entries => .ok (enter d directory (visits d c skip directory entries))
  | none => .error (.missingSourceDir target directory)

def Visit.source? : Visit → Option Path
  | source file => some file
  | _ => none

end DispatchGen.Project
