/-
DispatchGen/Disk/Access.lean

Reading and changing a disk by path.

Reading follows links, and so does writing by `writeFile`.  Only
`makeDirectories` can leave something behind when it fails: the directories it
made before.
-/
import DispatchGen.Disk.Resolve

namespace DispatchGen.Disk

/-! ### Reading -/

/-- The entry that a path leads to. -/
def status (d : Disk) (p : Path) : Except Fault Entry := do
  match ← d.resolve true p with
  | .directory place =>
      match d.get? place with
      | some e => return e
      | none => throw .notFound
  | .entry parent name slashed =>
      match d.get? (parent ++ [name]) with
      | some (.file bytes) => if slashed then throw .notADirectory else return .file bytes
      | some e => return e
      | none => throw .notFound

/-- Whether a path leads to anything. -/
def contains (d : Disk) (p : Path) : Bool := (d.status p).toBool

/-- The entries of the directory that a path leads to, if it leads to one. -/
def directory? (d : Disk) (p : Path) : Option (List (OsText × Entry)) :=
  match d.status p with
  | .ok (.directory entries) => some entries
  | _ => none

def isDirectory (d : Disk) (p : Path) : Bool := (d.directory? p).isSome

/-- The text of the file that a path leads to. -/
def readText (d : Disk) (p : Path) : Except Fault String := do
  d.allow (.read p)
  match ← d.status p with
  | .file bytes =>
      match String.fromUTF8? bytes with
      | some text => return text
      | none => throw .invalidText
  | _ => throw .isADirectory

/-- The files and links at and below the current directory, as paths from
there. -/
def leafPaths (d : Disk) : List Path :=
  match d.get? d.current with
  | some e => (e.leaves []).map fun (names, _) => ⟨[Path.slash].intercalate names⟩
  | none => []

/-! ### Directories -/

/-- Make one directory. -/
def makeDirectory (d : Disk) (p : Path) : Except Fault Disk := do
  d.allow (.makeDirectory p)
  match ← d.resolve false p with
  | .directory _ => throw .alreadyExists
  | .entry parent name _ =>
      match d.get? (parent ++ [name]) with
      | some _ => throw .alreadyExists
      | none => return d.put parent name (.directory [])

/-- Make a directory, where one that is there is as good as a new one. -/
def ensureDirectory (d : Disk) (p : Path) : Disk × Except Fault Unit :=
  match d.makeDirectory p with
  | .ok made => (made, .ok ())
  | .error fault => (d, if d.isDirectory p then .ok () else .error fault)

/-- Make a directory after those above it, climbing at most `steps` times. -/
def makeDirectoriesWithin : Nat → Disk → Path → Disk × Except Fault Unit
  | 0, d, _ => (d, .error .notFound)
  | steps + 1, d, p =>
      if p.raw = [] then (d, .ok ())
      else
        match d.makeDirectory p with
        | .error .notFound =>
            match p.parent? with
            | none => (d, .error .notFound)
            | some parent =>
                match makeDirectoriesWithin steps d parent with
                | (d, .ok ()) => d.ensureDirectory p
                | failed => failed
        | _ => d.ensureDirectory p

/-- Make a directory and all those above it that are missing. -/
def makeDirectories (d : Disk) (p : Path) : Disk × Except Fault Unit :=
  makeDirectoriesWithin (p.components.length + 1) d p

/-! ### Files and links -/

/-- Write the file that a path leads to, or a new one. -/
def writeFile (d : Disk) (p : Path) (bytes : ByteArray) : Except Fault Disk := do
  match ← d.resolve true p with
  | .directory _ => throw .isADirectory
  | .entry parent name slashed =>
      match d.get? (parent ++ [name]) with
      | some (.directory _) => throw .isADirectory
      | some _ => if slashed then throw .notADirectory else return d.put parent name (.file bytes)
      | none => if slashed then throw .isADirectory else return d.put parent name (.file bytes)

/-- Make a symbolic link. -/
def makeLink (d : Disk) (p target : Path) : Except Fault Disk := do
  match ← d.resolve false p with
  | .directory _ => throw .alreadyExists
  | .entry parent name slashed =>
      match d.get? (parent ++ [name]) with
      | some _ => throw .alreadyExists
      | none => if slashed then throw .notFound else return d.put parent name (.link target)

/-- Remove a file, a link, or a directory with all that is in it. -/
def remove (d : Disk) (p : Path) : Except Fault Disk := do
  match ← d.resolve false p with
  | .directory _ => throw .busy
  | .entry parent name _ =>
      match d.get? (parent ++ [name]) with
      | some _ => return d.erase parent name
      | none => throw .notFound

end DispatchGen.Disk
