/-
DispatchGen/Main.lean

The executable: takes in what a run may read, runs the program on it, and
carries the changes out.

What is taken in are the places that the command line and the configuration
name: the configuration file, the source directories with all below them, and
the outputs.  A link is taken in with the place it finally leads to.
-/
import DispatchGen.Command.Program

namespace DispatchGen.Main

open Disk

/-- The name by which the system knows a location. -/
def systemName (place : Place) : String :=
  "/" ++ String.intercalate "/" (place.map OsText.display)

/-- The location of a path that the system has resolved. -/
def locationOf (name : String) : Place := (Path.mk name).pieces.filter (· ≠ [])

/-- The system's name for an entry of a directory. -/
def dirEntry (parent : Place) (name : OsText) : IO.FS.DirEntry :=
  { root := systemName parent, fileName := name.display }

/-- Take in the entry under a name with all below it. -/
partial def takeEntry (parent : Place) (name : OsText) : IO (Option Entry) := do
  let path := (dirEntry parent name).path
  if !(← path.pathExists) then return none
  let real := locationOf (← IO.FS.realPath path).toString
  if real ≠ parent ++ [name] then return some (.link ⟨systemName real⟩)
  if ← path.isDir then
    let mut entries := []
    for e in ← path.readDir do
      if let some below ← takeEntry (parent ++ [name]) e.fileName then
        entries := insertEntry e.fileName below entries
    return some (.directory entries)
  return some (.file (← IO.FS.readBinFile path))

/-- Make sure that the directories down to a location are on the disk. -/
def withDirectories (d : Disk) (place : Place) : Disk :=
  (List.range place.length).foldl
    (fun d n =>
      match d.get? (place.take (n + 1)), place[n]? with
      | none, some name => d.put (place.take n) name (.directory [])
      | _, _ => d)
    d

/-- Take in what a path leads over and to; `deep` if all below it is needed. -/
partial def takePath (deep : Bool) (d : Disk) (place : Place) (todo : List OsText) :
    IO Disk := do
  match todo with
  | [] => return d
  | piece :: rest =>
      if Path.isBlank piece then takePath deep d place rest
      else if piece = Path.upName then takePath deep d place.dropLast rest
      else
        let path := (dirEntry place piece).path
        if !(← path.pathExists) then return d
        let real := locationOf (← IO.FS.realPath path).toString
        if real ≠ place ++ [piece] then
          takePath deep (d.put place piece (.link ⟨systemName real⟩)) [] (real ++ rest)
        else if (← path.isDir) && !(deep && rest.all Path.isBlank) then
          takePath deep (withDirectories d real) real rest
        else
          match ← takeEntry place piece with
          | some e => return d.put place piece e
          | none => return d

/-- Take in what a path leads to from the current directory. -/
def take (deep : Bool) (d : Disk) (p : Path) : IO Disk :=
  takePath deep d (if p.isAbsolute then [] else d.current) p.pieces

/-- The disk as far as an invocation reads it. -/
def diskFor (i : Command.Invocation) : IO Disk := do
  let current := locationOf (← IO.currentDir).toString
  let mut d : Disk := withDirectories { current } current
  d ← take false d (i.config.getD (Project.configFile i.root))
  match Project.loadConfig d i.config i.root with
  | .error _ => return d
  | .ok c =>
      for target in i.targets do
        d ← take true d (i.root.join (c.sourceDir target))
        d ← take false d (i.root.join (c.output target))
      return d

/-- The files of a disk. -/
def filesOf (d : Disk) : List (Place × ByteArray) :=
  (leavesOf [] d.root).filterMap fun
    | (place, .file bytes) => some (place, bytes)
    | _ => none

/-- Carry out the difference between two disks: each file that is new or other
than before is written beside its place and then moved there. -/
def carryOut (before after : Disk) : IO Unit := do
  for (place, bytes) in filesOf after do
    let same := match before.get? place with
      | some (.file old) => old == bytes
      | _ => false
    if !same then
      let parent := systemName place.dropLast
      IO.FS.createDirAll parent
      let fresh := parent ++ "/.edgeroute-gen.tmp"
      IO.FS.writeBinFile fresh bytes
      IO.FS.rename fresh (systemName place)

end DispatchGen.Main

open DispatchGen in
def main (words : List String) : IO UInt32 := do
  let names := ["EDGEROUTE_LOG_LEVEL", "EDGEROUTE_LOG_FORMAT", "EDGEROUTE_LOG_LOCATION",
    "RUST_LOG"]
  let values ← names.mapM fun name => do return (name, ← IO.getEnv name)
  let env : Log.Environment := fun name => (values.find? (·.1 = name)).bind (·.2)
  let before ← match Command.parse words with
    | .ok i => Main.diskFor i
    | .error _ => pure {}
  let (after, exit) := Command.run words env before
  Main.carryOut before after
  IO.print exit.stdout
  IO.eprint exit.stderr
  return UInt32.ofNat exit.code
