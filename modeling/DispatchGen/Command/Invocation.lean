/-
DispatchGen/Command/Invocation.lean

What the command line can ask for.
-/
import DispatchGen.Record

namespace DispatchGen.Command

/-- A command with the flags of its own. -/
inductive Action where
  /-- Generate the modules; with `dryRun`, only show them. -/
  | generate (dryRun : Bool)
  /-- Fail if a module is out of date. -/
  | check
  /-- Report diagnostics. -/
  | lint (failOnError errorsOnly : Bool)
  /-- List the records, as a table or as JSON. -/
  | routes (json : Bool)
deriving DecidableEq, Repr

structure Invocation where
  action : Action
  verbose : Nat := 0
  quiet : Bool := false
  root : Path := ⟨"."⟩
  config : Option Path := none
  /-- The targets asked for, as they were listed. -/
  only : Option (List Pipeline) := none
deriving DecidableEq, Repr

/-- The targets to run, in generation order. -/
def targetsOf : Option (List Pipeline) → List Pipeline
  | none => Pipeline.all
  | some only => Pipeline.all.filter only.contains

def Invocation.targets (i : Invocation) : List Pipeline := targetsOf i.only

/-- Why a command line asks for nothing that can be run. -/
inductive UsageError where
  /-- Nothing at all was asked for. -/
  | nothingAsked
  | missingCommand
  | unknownCommand
  | unknownArgument
  | invalidValue
  /-- An option that can be given once was given again. -/
  | givenTwice
  /-- A value was attached to a flag. -/
  | valueForFlag
  | helpAsked
  | versionAsked
deriving DecidableEq, Repr

end DispatchGen.Command
