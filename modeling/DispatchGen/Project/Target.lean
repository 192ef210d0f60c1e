/-
DispatchGen/Project/Target.lean

Generating and checking targets.

Generation is the only part of a run that changes the disk, and it does so at its
end: the directory of the output is made, and the text goes to a file of its own,
which then takes the place of the output.  A check compares the same text with
the output that is there.  Where several targets are asked for, each is
attempted, whether or not those before it failed.
-/
import DispatchGen.Disk.Replace
import DispatchGen.Project.Build

namespace DispatchGen.Project

open Grammar (Reader)

/-- What became of a target. -/
inductive Outcome where
  /-- Switched off in the configuration. -/
  | disabled
  /-- Left alone for want of a source directory. -/
  | skipped (directory : Path)
  | written (output : Path) (records : Nat)
  /-- Generated, but only shown. -/
  | dryRun (output : Path) (text : String)
  | upToDate (output : Path)
deriving DecidableEq, Repr

/-- The notice about a missing source directory. -/
def skipNotice (target : Pipeline) (directory : Path) : String :=
  "⚠️  Skipping " ++ target.name ++ ": source directory " ++ Text.showFileName directory.raw ++
    " not found"

/-- The directory that a file is created in. -/
def directoryOf (file : Path) : Path :=
  match file.parent? with
  | some directory => if directory.raw = [] then ⟨"."⟩ else directory
  | none => ⟨"."⟩

/-- What a step of the replacement of `file` was doing. -/
def actionOf (file : Path) : Disk.ReplaceStep → DiskAction
  | .create => .createTemporary (directoryOf file)
  | .write => .writeTemporary file
  | .flush => .flushTemporary file
  | .rename => .replace file

/-- Put a text in the place of a file, making its directory if need be. -/
def writeOutput (file : Path) (text : String) : Run Disk Unit := fun d =>
  match d.makeDirectories (directoryOf file) with
  | (d, .error fault) => (d, throw (.disk (.createDirectory (directoryOf file)) fault))
  | (d, .ok ()) =>
      match d.replaceFile (directoryOf file) file text.toUTF8 with
      | (d, .error (step, fault)) => (d, throw (.disk (actionOf file step) fault))
      | (d, .ok ()) => (d, pure ())

/-- Generate one target. -/
def generateTarget [Reader] (root : Path) (c : Config) (dryRun : Bool) (target : Pipeline) :
    Run Disk Outcome := do
  if !c.isEnabled target then
    Run.tell (.log (.targetDisabled target))
    return .disabled
  let output := root.join (c.output target)
  let d ← Run.current
  match ← Run.attempt (prepare d target root c) with
  | .error (.missingSourceDir _ directory) =>
      Run.tell (.print (skipNotice target directory ++ "\n"))
      Run.tell (.log (.sourceDirMissing target directory))
      return .skipped directory
  | .error e => throw e
  | .ok prepared =>
      if dryRun then return .dryRun output prepared.text
      writeOutput output prepared.text
      let records := prepared.table.recordCount target
      Run.tell (.log (.moduleGenerated target records prepared.table.filesScanned output))
      Run.tell (.print ("✅ Generated " ++ target.name ++ " dispatch (" ++ toString records ++
        " record(s)) → " ++ Text.showFileName output.raw ++ "\n"))
      return .written output records

/-- Whether the output of a target is the text that would be generated now. -/
def compareOutput (d : Disk) (target : Pipeline) (output : Path) (text : String) :
    Except Failure Unit :=
  match d.readText output with
  | .ok found => if found = text then .ok () else .error (.stale target output)
  | .error .notFound => .error (.stale target output)
  | .error fault => .error (.disk (.readOutput output) fault)

/-- Check one target. -/
def checkTarget [Reader] (d : Disk) (root : Path) (c : Config) (target : Pipeline) :
    Report Outcome := do
  if !c.isEnabled target then return .disabled
  let output := root.join (c.output target)
  let prepared := prepare d target root c
  match prepared.result with
  | .error (.missingSourceDir _ directory) =>
      ⟨.ok (.skipped directory),
        prepared.effects ++ [.print (skipNotice target directory ++ "\n")]⟩
  | .error e => ⟨.error e, prepared.effects⟩
  | .ok p =>
      match compareOutput d target output p.text with
      | .error e => ⟨.error e, prepared.effects⟩
      | .ok () =>
          ⟨.ok (.upToDate output), prepared.effects ++
            [.print ("✅ " ++ target.name ++ " dispatch is up to date → " ++
              Text.showFileName output.raw ++ "\n")]⟩

/-! ### Several targets -/

variable {σ α : Type}

/-- The result of each target's operation, all of them attempted in turn. -/
def attemptAll (op : Pipeline → Run σ α) : List Pipeline → Run σ (List (Except Failure α))
  | [] => return []
  | target :: rest => do
      let result ← Run.attempt (op target)
      match result with
      | .error e => Run.tell (.log (.targetFailed target e.message))
      | .ok _ => pure ()
      return result :: (← attemptAll op rest)

/-- The failures among results, in order. -/
def failuresOf (results : List (Except Failure α)) : List Failure :=
  results.filterMap fun
    | .error e => some e
    | .ok _ => none

/-- The successes among results, in order. -/
def successesOf (results : List (Except Failure α)) : List α :=
  results.filterMap fun
    | .ok a => some a
    | .error _ => none

/-- Attempt an operation on every target, then fail if any of them did. -/
def runTargets (op : Pipeline → Run σ α) (targets : List Pipeline) : Run σ (List α) := do
  let results ← attemptAll op targets
  match failuresOf results with
  | [] => return successesOf results
  | failures => throw (.ofMany failures)

/-- Generate the targets. -/
def generateAll [Reader] (root : Path) (c : Config) (dryRun : Bool) (targets : List Pipeline) :
    Run Disk (List Outcome) :=
  runTargets (generateTarget root c dryRun) targets

/-- Check the targets. -/
def checkAll [Reader] (root : Path) (c : Config) (targets : List Pipeline) :
    Run Disk (List Outcome) :=
  runTargets (fun target => do checkTarget (← Run.current) root c target) targets

end DispatchGen.Project
