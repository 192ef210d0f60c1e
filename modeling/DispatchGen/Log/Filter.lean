/-
DispatchGen/Log/Filter.lean

Which events reach the log.

A filter is a list of directives, written between commas.  A directive is a
level, for all components, or the start of a component's name, alone or with
`=` and a level.  For an event, the directive with the longest matching name
decides, the last one of several with the same name; an event that no directive
matches is dropped.
-/
import DispatchGen.Log.Event
import DispatchGen.Text.Blank
import DispatchGen.Text.Letter

namespace DispatchGen.Log

/-- The events of components whose name starts with `start` are let through from
a level up; without a level they are dropped. -/
structure Directive where
  start : String := ""
  threshold : Option Level
deriving DecidableEq, Repr

abbrev Filter := List Directive

namespace Directive

/-- A level, `off`, or the number of a level. -/
def threshold? (s : String) : Option (Option Level) :=
  if s.map Char.toLower = "off" || s = "0" then some none
  else
    match Level.ofName? s with
    | some level => some (some level)
    | none => (Level.all.find? fun level => toString level.rank = s).map some

/-- Whether a directive can start with a character. -/
def isStart (c : Char) : Bool :=
  c = '-' || c = ':' || c = '_' || c = '[' || Text.isAlphabetic c || Text.isNumeric c

/-- One directive.  Blanks are part of a name, but a name cannot start with one
where a level follows. -/
def ofText? (s : String) : Option Directive :=
  let cs := s.toList
  let name := String.ofList (cs.takeWhile (· ≠ '='))
  match cs.dropWhile Text.isBlank with
  | [] => none
  | c :: _ =>
      if !isStart c then none
      else
        match cs.dropWhile (· ≠ '=') with
        | [] =>
            match threshold? s with
            | some threshold => some { threshold }
            | none => some { start := s, threshold := some .trace }
        | _ :: level =>
            if cs.head? ≠ some c then none
            else if level.isEmpty then some { start := name, threshold := some .trace }
            else (threshold? (String.ofList level)).map fun threshold =>
              { start := name, threshold }

def concerns (d : Directive) (component : String) : Bool :=
  d.start.toList.isPrefixOf component.toList

end Directive

namespace Filter

/-- The filter that lets a level and all above it through. -/
def ofLevel (level : Level) : Filter := [{ threshold := some level }]

/-- The filter that a text writes; a text without directives lets errors
through. -/
def ofText? (s : String) : Option Filter :=
  let pieces := ((Path.splitPieces ',' s.toList).filter (!·.isEmpty)).map String.ofList
  if pieces.isEmpty then some (ofLevel .error) else pieces.mapM Directive.ofText?

/-- The directive that decides about a component: a later one takes over from
an earlier one unless its name is shorter. -/
def deciding? (f : Filter) (component : String) : Option Directive :=
  (f.filter (·.concerns component)).foldl
    (fun chosen d =>
      match chosen with
      | some c => if d.start.length < c.start.length then some c else some d
      | none => some d)
    none

/-- Whether an event passes. -/
def admits (f : Filter) (e : Event) : Bool :=
  match f.deciding? e.component with
  | some d =>
      match d.threshold with
      | some level => e.level.rank ≤ level.rank
      | none => false
  | none => false

end Filter

end DispatchGen.Log
