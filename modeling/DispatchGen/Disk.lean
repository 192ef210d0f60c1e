/-
DispatchGen/Disk.lean

A disk: a tree of directories, files and symbolic links, together with the
directory that relative paths start from and with what the system refuses to do
for reasons that the tree does not show.

A `Place` is given by the names that lead down to it from the root; it
holds no links and no `..`.  `Disk.get?` reads the entry at a place, and
`Disk.put` and `Disk.erase` change the entry of one name in one directory.  A
directory lists its entries in increasing order of their names, and `put` keeps
that order.
-/
import DispatchGen.Path

namespace DispatchGen

namespace Disk

/-- What a name in a directory stands for. -/
inductive Entry where
  | file (bytes : ByteArray)
  | link (target : Path)
  | directory (entries : List (OsText × Entry))
deriving Inhabited

/-- The names that lead down to a place from the root. -/
abbrev Place := List OsText

/-- Why the disk refuses an operation. -/
inductive Fault where
  | notFound
  | notADirectory
  | isADirectory
  | alreadyExists
  /-- The bytes of a file are no text. -/
  | invalidText
  /-- A path with a NUL in it. -/
  | invalidPath
  /-- The directory is in use: it is the root, or named by `.` or `..`. -/
  | busy
  | tooManyLinks
deriving DecidableEq, Repr

/-- How the system words a fault. -/
def Fault.message : Fault → String
  | notFound => "No such file or directory (os error 2)"
  | notADirectory => "Not a directory (os error 20)"
  | isADirectory => "Is a directory (os error 21)"
  | alreadyExists => "File exists (os error 17)"
  | invalidText => "stream did not contain valid UTF-8"
  | invalidPath => "file name contained an unexpected NUL byte"
  | busy => "Device or resource busy (os error 16)"
  | tooManyLinks => "Too many levels of symbolic links (os error 40)"

/-- Something the system can be asked to do, with the path it is asked by. -/
inductive Operation where
  | read (file : Path)
  | listDirectory (directory : Path)
  | makeDirectory (directory : Path)
  /-- Create a file under a name of its own in a directory. -/
  | createTemporary (directory : Path)
  /-- Write, flush or rename the temporary file of `file`. -/
  | writeTemporary (file : Path)
  | flushTemporary (file : Path)
  | persist (file : Path)
deriving DecidableEq, Repr

end Disk

structure Disk where
  /-- The entries of the root directory. -/
  root : List (OsText × Disk.Entry) := []
  /-- The directory that relative paths start from. -/
  current : Disk.Place := []
  /-- What the system refuses whatever is in the tree, as for want of a
  permission or of room. -/
  refusal : Disk.Operation → Option Disk.Fault := fun _ => none
deriving Inhabited

namespace Disk

/-- Nothing, unless the system refuses an operation. -/
def allow (d : Disk) (op : Operation) : Except Fault Unit :=
  match d.refusal op with
  | some fault => .error fault
  | none => .ok ()

/-! ### Looking up -/

/-- The entry under a name. -/
def find? (name : OsText) (entries : List (OsText × Entry)) : Option Entry :=
  (entries.find? (·.1 = name)).map (·.2)

/-- The entry that names lead to, from another entry down. -/
def Entry.get? : Entry → Place → Option Entry
  | e, [] => some e
  | .directory entries, name :: names => (find? name entries).bind fun e => e.get? names
  | _, _ :: _ => none

/-- The entry at a place. -/
def get? (d : Disk) (place : Place) : Option Entry := (Entry.directory d.root).get? place

/-! ### Changing one directory -/

/-- List an entry under a name in its place, instead of what the name stood
for. -/
def insertEntry (name : OsText) (e : Entry) : List (OsText × Entry) → List (OsText × Entry)
  | [] => [(name, e)]
  | (n, old) :: rest =>
      if name < n then (name, e) :: (n, old) :: rest
      else if name = n then (name, e) :: rest
      else (n, old) :: insertEntry name e rest

/-- Change the listing of the directory at a place, if there is one. -/
def Entry.modify (f : List (OsText × Entry) → List (OsText × Entry)) : Place → Entry → Entry
  | [], .directory entries => .directory (f entries)
  | name :: names, .directory entries =>
      .directory (entries.map fun (n, e) => (n, if n = name then e.modify f names else e))
  | _, e => e

def modify (f : List (OsText × Entry) → List (OsText × Entry)) (parent : Place) (d : Disk) :
    Disk :=
  match (Entry.directory d.root).modify f parent with
  | .directory root => { d with root }
  | _ => d

/-- The disk with an entry put under a name of the directory `parent`. -/
def put (d : Disk) (parent : Place) (name : OsText) (e : Entry) : Disk :=
  d.modify (insertEntry name e) parent

/-- The disk without a name of the directory `parent`. -/
def erase (d : Disk) (parent : Place) (name : OsText) : Disk :=
  d.modify (·.filter (·.1 ≠ name)) parent

/-! ### Listing -/

mutual

/-- The files and links at and below an entry, each with the names that lead
down to it; a directory's entries in order, each in place. -/
def Entry.leaves (place : Place) : Entry → List (Place × Entry)
  | .file bytes => [(place, .file bytes)]
  | .link target => [(place, .link target)]
  | .directory entries => leavesOf place entries

/-- The files and links at and below the entries of a directory. -/
def leavesOf (place : Place) : List (OsText × Entry) → List (Place × Entry)
  | [] => []
  | (name, e) :: rest => e.leaves (place ++ [name]) ++ leavesOf place rest

end

end Disk

end DispatchGen
