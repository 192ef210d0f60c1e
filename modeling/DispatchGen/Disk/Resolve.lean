/-
DispatchGen/Disk/Resolve.lean

Where a path leads on a disk.

A path is walked piece by piece.  A blank piece stays where it is, `..` climbs
(from the root to the root), and a name descends; a symbolic link on the way is
replaced by the pieces of its target.  Everything but the last name must be a
directory.  The last name need not stand for anything, so the walk ends in the
directory that holds it (`Spot.entry`), unless the path ends in no name at all
(`Spot.directory`).

Each piece is used up, and a link, which brings new pieces, uses up one of a
fixed number of links; past that number the walk fails.  A walk that is to start
from a directory that is gone fails at once.
-/
import DispatchGen.Disk

namespace DispatchGen.Disk

/-- The end of a walk. -/
inductive Spot where
  /-- A directory that the path ends in without naming it. -/
  | directory (place : Place)
  /-- A name of a directory, whether or not it stands for anything; `slashed`
  if the path goes on with a slash after it. -/
  | entry (parent : Place) (name : OsText) (slashed : Bool)
deriving DecidableEq, Repr

/-- How many links one walk may go through. -/
def linkBudget : Nat := 40

/-- Walk pieces from the directory at `place`; where a link is to be followed,
`go` walks on from a directory, with the link's pieces in front of the rest.  A
link in the last place is followed only if `follow` says so. -/
def walkTo (d : Disk) (follow : Bool) (go : Place → List OsText → Except Fault Spot)
    (place : Place) : List OsText → Except Fault Spot
  | [] => .ok (.directory place)
  | piece :: rest =>
      if Path.isBlank piece then d.walkTo follow go place rest
      else if piece = Path.upName then d.walkTo follow go place.dropLast rest
      else
        let isLast := rest.all (· = [])
        let ending := Spot.entry place piece (!rest.isEmpty)
        match d.get? (place ++ [piece]) with
        | none => if isLast then .ok ending else .error .notFound
        | some (.file _) => if isLast then .ok ending else .error .notADirectory
        | some (.directory _) =>
            if isLast then .ok ending else d.walkTo follow go (place ++ [piece]) rest
        | some (.link target) =>
            if isLast && !follow then .ok ending
            else if target.raw = [] then .error .notFound
            else go (if target.isAbsolute then [] else place) (target.pieces ++ rest)

/-- Walk pieces from the directory at a place, through at most `links` links. -/
def walk (d : Disk) (follow : Bool) (links : Nat) : Place → List OsText → Except Fault Spot :=
  d.walkTo follow <|
    match links with
    | 0 => fun _ _ => .error .tooManyLinks
    | links + 1 => d.walk follow links

/-- Where a path leads. -/
def resolve (d : Disk) (follow : Bool) (p : Path) : Except Fault Spot :=
  if p.raw = [] then .error .notFound
  else if p.raw.contains 0 then .error .invalidPath
  else
    let start := if p.isAbsolute then [] else d.current
    match d.get? start with
    | some (.directory _) => d.walk follow linkBudget start p.pieces
    | _ => .error .notFound

end DispatchGen.Disk
