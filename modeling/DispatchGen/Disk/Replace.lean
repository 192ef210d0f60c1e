/-
DispatchGen/Disk/Replace.lean

Replacing a file by way of a temporary one.

The new contents go to a file of its own in the same directory, which is then
renamed to the name of the old one.  Renaming puts the file in the place of
whatever the name stands for, a link included, so the old contents are there
until the new ones are.  Each step may be refused; where that happens after the
temporary file is there, the file is removed.
-/
import DispatchGen.Disk.Access

namespace DispatchGen.Disk

/-- A step of a replacement. -/
inductive ReplaceStep where
  | create
  | write
  | flush
  | rename
deriving DecidableEq, Repr

/-- The place of the directory that a path leads to. -/
def directoryPlace (d : Disk) (p : Path) : Except Fault Place := do
  let place := match ← d.resolve true p with
    | .directory place => place
    | .entry parent name _ => parent ++ [name]
  match d.get? place with
  | some (.directory _) => return place
  | some _ => throw .notADirectory
  | none => throw .notFound

/-- The names that temporary files are given, in the order they are tried. -/
def temporaryName (n : Nat) : OsText := ".tmp" ++ toString n

/-- The first name for a temporary file that stands for nothing in a directory;
one of as many names as the directory has entries, and one more, does. -/
def freshName? (entries : List (OsText × Entry)) : Option OsText :=
  ((List.range (entries.length + 1)).map temporaryName).find? fun name =>
    (find? name entries).isNone

/-- Create an empty temporary file in a directory. -/
def createTemporary (d : Disk) (directory : Path) : Except Fault (Disk × Place × OsText) := do
  d.allow (.createTemporary directory)
  let parent ← d.directoryPlace directory
  match d.get? parent with
  | some (.directory entries) =>
      match freshName? entries with
      | some name => return (d.put parent name (.file .empty), parent, name)
      | none => throw .alreadyExists
  | _ => throw .notFound

/-- Write to the temporary file of `p`. -/
def writeTemporary (d : Disk) (p : Path) (parent : Place) (name : OsText) (bytes : ByteArray) :
    Except Fault Disk := do
  d.allow (.writeTemporary p)
  return d.put parent name (.file bytes)

/-- Rename the temporary file of `p`, with the given contents, to `p`. -/
def persist (d : Disk) (p : Path) (parent : Place) (name : OsText) (bytes : ByteArray) :
    Except Fault Disk := do
  d.allow (.persist p)
  match ← d.resolve false p with
  | .directory _ => throw .busy
  | .entry _ _ true => throw .notADirectory
  | .entry parent' name' false =>
      match d.get? (parent' ++ [name']) with
      | some (.directory _) => throw .isADirectory
      | _ => return (d.erase parent name).put parent' name' (.file bytes)

/-- Put a file where a path leads, over a file or link that is there. -/
def replaceFile (d : Disk) (directory p : Path) (bytes : ByteArray) :
    Disk × Except (ReplaceStep × Fault) Unit :=
  match d.createTemporary directory with
  | .error fault => (d, .error (.create, fault))
  | .ok (created, parent, name) =>
      match created.writeTemporary p parent name bytes with
      | .error fault => (created.erase parent name, .error (.write, fault))
      | .ok written =>
          match written.allow (.flushTemporary p) with
          | .error fault => (written.erase parent name, .error (.flush, fault))
          | .ok () =>
              match written.persist p parent name bytes with
              | .error fault => (written.erase parent name, .error (.rename, fault))
              | .ok renamed => (renamed, .ok ())

end DispatchGen.Disk
