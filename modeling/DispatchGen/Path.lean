/-
DispatchGen/Path.lean

File paths as strings of the system, and the reading of such a string as
components.

A path is kept exactly as it was built, because messages show it; all
comparisons go through `Path.components`, in which repeated and trailing `/`
vanish, and `.` vanishes except as the very first component of a relative
path.  So `a//b`, `a/./b` and `a/b` are the same path in the sense of
`Path.same`, while `./a` and `a` are not.

Everything here is lexical: no function asks a file system, and none asks
whether a name is UTF-8.
-/
import DispatchGen.Text.Os

namespace DispatchGen

/-- A file path, kept as it was written. -/
structure Path where
  raw : OsText
deriving DecidableEq, Repr, Inhabited

/-- One step of a path. -/
inductive Component where
  /-- The leading `/`. -/
  | root
  /-- A `.` that opens a relative path. -/
  | here
  /-- `..` -/
  | up
  | normal (name : OsText)
deriving DecidableEq, Repr, Inhabited

namespace Path

/-- What stands between two steps. -/
def slash : UInt8 := 0x2f

def dot : UInt8 := 0x2e

/-- The name of the directory that a path is read in. -/
@[match_pattern] def hereName : OsText := [0x2e]

/-- The name of the directory above. -/
@[match_pattern] def upName : OsText := [0x2e, 0x2e]

end Path

/-- A component, as it is written. -/
def Component.raw : Component → OsText
  | root => [Path.slash]
  | here => Path.hereName
  | up => Path.upName
  | normal name => name

namespace Path

/-- The path as it is displayed. -/
def text (p : Path) : String := p.raw.display

/-! ### Pieces: what stands between slashes -/

/-- The pieces of `xs` between the occurrences of `sep`; there is always at
least one piece. -/
def splitPieces {α : Type} [DecidableEq α] (sep : α) : List α → List (List α)
  | [] => [[]]
  | x :: xs =>
      match splitPieces sep xs with
      | [] => [[x]]
      | piece :: rest => if x = sep then [] :: piece :: rest else (x :: piece) :: rest

/-- Whether the path starts at the root directory. -/
def isAbsolute (p : Path) : Bool := p.raw.head? = some slash

/-- The pieces of the path below its leading `/`, if it has one. -/
def pieces (p : Path) : List OsText :=
  splitPieces slash (if p.isAbsolute then p.raw.drop 1 else p.raw)

/-- A piece that names no step: the empty one between two slashes, or `.`. -/
def isBlank (piece : OsText) : Bool := piece = [] || piece = hereName

/-- The component a piece stands for, unless it is blank. -/
def component? (piece : OsText) : Option Component :=
  if isBlank piece then none
  else if piece = upName then some .up
  else some (.normal piece)

/-- The path with the given leading `/` and pieces. -/
def ofPieces (absolute : Bool) (pieces : List OsText) : Path :=
  ⟨(if absolute then [slash] else []) ++ [slash].intercalate pieces⟩

/-! ### Components -/

/-- The steps of the path, from its start. -/
def components (p : Path) : List Component :=
  if p.isAbsolute then .root :: p.pieces.filterMap component?
  else
    match p.pieces with
    | hereName :: rest => .here :: rest.filterMap component?
    | pieces => pieces.filterMap component?

/-- Two paths are the same when their components are. -/
def same (p q : Path) : Bool := p.components = q.components

/-- The path `q` as seen from the directory `p`: an absolute `q` is itself. -/
def join (p q : Path) : Path :=
  if q.isAbsolute then q
  else if p.raw = [] || p.raw.getLast? = some slash then ⟨p.raw ++ q.raw⟩
  else ⟨p.raw ++ slash :: q.raw⟩

/-- The path made by joining the components one after another. -/
def ofComponents (cs : List Component) : Path :=
  cs.foldl (fun p c => p.join ⟨c.raw⟩) ⟨[]⟩

/-! ### The last component -/

/-- The pieces up to the last one that is not blank. -/
def trimBlank : List OsText → List OsText
  | [] => []
  | piece :: ps =>
      match trimBlank ps with
      | [] => if isBlank piece then [] else [piece]
      | solid => piece :: solid

/-- The pieces up to the last one that names a step.  The opening `.` of a
relative path does name one. -/
def solidPieces (p : Path) : List OsText :=
  match p.isAbsolute, p.pieces with
  | false, hereName :: ps => hereName :: trimBlank ps
  | _, ps => trimBlank ps

/-- The path without its last component, whichever it is; the root and the
empty path have none. -/
def parent? (p : Path) : Option Path :=
  match p.solidPieces.reverse with
  | [] => none
  | _ :: rest =>
      let above := ofPieces p.isAbsolute rest.reverse
      some (ofPieces p.isAbsolute above.solidPieces)

/-- The name of the file or directory the path leads to: its last component,
if that is a name. -/
def fileName? (p : Path) : Option OsText :=
  match p.components.getLast? with
  | some (.normal name) => some name
  | _ => none

/-- A file name split at its last dot into stem and extension; a dot that
opens the name does not count. -/
def splitName (name : OsText) : OsText × Option OsText :=
  let reversed := name.reverse
  let after := reversed.takeWhile (· ≠ dot)
  match reversed.dropWhile (· ≠ dot) with
  | [] | [_] => (name, none)
  | _ :: before => (before.reverse, some after.reverse)

/-- What follows the last dot of the file name. -/
def extension? (p : Path) : Option OsText := p.fileName?.bind fun name => (splitName name).2

/-- The path without its extension and the dot before it.

The extension goes first and the dot it leaves at the end next; if the name
without its extension reads as `..`, the path no longer has a file name and
keeps that reading. -/
def withoutExtension (p : Path) : Path :=
  let bare : Path :=
    match p.extension? with
    | none => p
    | some ext => ⟨p.raw.take (p.raw.length - ext.length)⟩
  match bare.fileName? with
  | none => bare
  | some name =>
      ofPieces bare.isAbsolute (bare.solidPieces.dropLast ++ [(splitName name).1])

/-! ### Prefixes -/

/-- The pieces after the first `n` that are not blank. -/
def dropSteps : Nat → List OsText → List OsText
  | 0, ps => ps
  | _ + 1, [] => []
  | n + 1, piece :: ps => if isBlank piece then dropSteps (n + 1) ps else dropSteps n ps

/-- The path below the directory `base`, if it lies there.  Blank pieces at
either end of what is left are dropped. -/
def stripPrefix? (p base : Path) : Option Path :=
  let below := fun (ps : List OsText) =>
    some (ofPieces false (trimBlank (ps.dropWhile isBlank)))
  if base.components.isPrefixOf p.components then
    match base.components with
    | [] => some (ofPieces p.isAbsolute p.solidPieces)
    | .root :: cs => below (dropSteps cs.length p.pieces)
    | .here :: cs => below (dropSteps cs.length p.pieces.tail)
    | cs => below (dropSteps cs.length p.pieces)
  else none

end Path

end DispatchGen
