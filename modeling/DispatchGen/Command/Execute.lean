/-
DispatchGen/Command/Execute.lean

What each command does.
-/
import DispatchGen.Command.Invocation
import DispatchGen.Command.Listing
import DispatchGen.Project.Load
import DispatchGen.Project.Target

namespace DispatchGen.Command

open Grammar (Reader)
open Project

/-- An effect that prints a line. -/
def printLine (line : String) : Effect := .print (line ++ "\n")

/-- The table of a target that is enabled and has a source directory. -/
def tableOf? [Reader] (d : Disk) (root : Path) (c : Config) (target : Pipeline) :
    Report (Option (Pipeline × Table)) :=
  if c.isEnabled target then
    let built := buildTable d target root c
    match built.result with
    | .ok t => ⟨.ok (some (target, t)), built.effects⟩
    | .error (.missingSourceDir _ directory) =>
        ⟨.ok none, built.effects ++ [.complain (skipNotice target directory)]⟩
    | .error e => ⟨.error e, built.effects⟩
  else pure none

/-- The tables of the targets that have one, in order. -/
def collectTables [Reader] (d : Disk) (root : Path) (c : Config) (targets : List Pipeline) :
    Report (List (Pipeline × Table)) := do
  return (← targets.mapM (tableOf? d root c)).filterMap id

/-- Report the diagnostics of the targets. -/
def runLint (failOnError errorsOnly : Bool) (tables : List (Pipeline × Table)) : Report Unit := do
  let found := tables.flatMap fun (target, t) => lint t target
  let shown := if errorsOnly then found.filter Issue.isError else found
  for line in Issue.report shown do
    Report.tell (printLine line)
  let errors := shown.filter Issue.isError
  if failOnError && !errors.isEmpty then throw (.lint errors.length)

/-- List the records of the targets. -/
def runRoutes (json : Bool) (tables : List (Pipeline × Table)) : Report Unit := do
  if json then
    match listingJson? tables with
    | some listing => Report.tell (printLine (listing.pretty ""))
    | none => throw .pathNotText
  else
    for line in tables.flatMap listingLines do
      Report.tell (printLine line)

/-- Show what would have been written. -/
def showOutcome : Outcome → Report Unit
  | .dryRun output text => do
      Report.tell (printLine ("📄 " ++ Text.showFileName output.raw ++ " (dry run, not written)"))
      Report.tell (.print text)
  | _ => pure ()

/-- Carry out a command line. -/
def execute [Reader] (i : Invocation) : Run Disk Unit := do
  let d ← Run.current
  match loadConfig d i.config i.root with
  | .error e => throw e
  | .ok c =>
      match i.action with
      | .generate dryRun =>
          for outcome in ← generateAll i.root c dryRun i.targets do
            showOutcome outcome
      | .check => discard (checkAll i.root c i.targets)
      | .lint failOnError errorsOnly =>
          runLint failOnError errorsOnly (← collectTables d i.root c i.targets)
      | .routes json => runRoutes json (← collectTables d i.root c i.targets)

end DispatchGen.Command
