/-
DispatchGen/Failure.lean

Why a run fails, and the wording of each failure.

A missing source directory, conflicting records and a stale output are told
apart from all else, because the commands treat them differently.
-/
import DispatchGen.Config.Decode
import DispatchGen.Disk.Resolve
import DispatchGen.Emit.ImportLine
import DispatchGen.Issue

namespace DispatchGen

/-- What was being done to the disk when it refused. -/
inductive DiskAction where
  | readConfig (file : Path)
  | listSources (directory : Path)
  | readSource (file : Path)
  | readOutput (file : Path)
  | createDirectory (directory : Path)
  | createTemporary (directory : Path)
  | writeTemporary (file : Path)
  | flushTemporary (file : Path)
  | replace (file : Path)
deriving DecidableEq, Repr

def DiskAction.text : DiskAction → String
  | readConfig file => "Failed to read config: " ++ file.text
  | listSources _ => "Failed to walk source directory"
  | readSource file => "Failed to read source file " ++ Text.showFileName file.raw
  | readOutput file => "Failed to read " ++ Text.showFileName file.raw
  | createDirectory directory =>
      "Failed to create output directory " ++ Text.showFileName directory.raw
  | createTemporary directory =>
      "Failed to create temporary file in " ++ Text.showFileName directory.raw
  | writeTemporary file => "Failed to write temporary file for " ++ Text.showFileName file.raw
  | flushTemporary file => "Failed to flush temporary file for " ++ Text.showFileName file.raw
  | replace file => "Failed to replace " ++ Text.showFileName file.raw

/-- What is told of the fault.  The walk through the sources words it once more, with the
directory. -/
def DiskAction.cause (fault : Disk.Fault) : DiskAction → String
  | listSources directory =>
      "IO error for operation on " ++ directory.text ++ ": " ++ fault.message ++ ": " ++
        fault.message
  | _ => fault.message

inductive Failure where
  /-- The source directory of a target does not exist. -/
  | missingSourceDir (target : Pipeline) (directory : Path)
  /-- Records of a target are in conflict; nothing was written for it. -/
  | conflicts (target : Pipeline) (errors : List Issue)
  /-- A generated file differs from what would be generated now. -/
  | stale (target : Pipeline) (output : Path)
  /-- A configuration file that was asked for does not exist. -/
  | configNotFound (file : Path)
  /-- A configuration file holds no configuration. -/
  | config (file : Path) (cause : Config.Error)
  | disk (action : DiskAction) (fault : Disk.Fault)
  /-- A source text has no syntax tree. -/
  | unparsed (file : Path)
  | render (cause : Emit.RenderError)
  /-- A path was to be written as a text, and is none. -/
  | pathNotText
  /-- Diagnostics were to be fatal, and some are errors. -/
  | lint (errors : Nat)
  /-- More than one target failed. -/
  | several (failures : List Failure)

namespace Failure

mutual

/-- The failure with all that led to it. -/
def message : Failure → String
  | missingSourceDir target directory =>
      target.name ++ ": source directory " ++ directory.text ++ " does not exist"
  | conflicts target errors =>
      target.name ++ ": " ++ toString errors.length ++ " conflict(s) in dispatch table" ++
        String.join (errors.map fun i => "\n  - " ++ i.location ++ ": " ++ i.message)
  | stale target output =>
      target.name ++ ": " ++ output.text ++ " is out of date; run `edgeroute-gen generate`"
  | configNotFound file => "Config file not found: " ++ file.text
  | config file cause => "Failed to parse config: " ++ file.text ++ ": " ++ cause.message
  | disk action fault => action.text ++ ": " ++ action.cause fault
  | unparsed file =>
      "Failed to parse " ++ Text.showFileName file.raw ++ ": tree-sitter returned no tree"
  | render cause => cause.message
  | pathNotText => "path contains invalid UTF-8 characters"
  | lint errors => "lint found " ++ toString errors ++ " error(s)"
  | several failures => toString failures.length ++ " targets failed:" ++ listed failures

/-- Each failure on a line of its own. -/
def listed : List Failure → String
  | [] => ""
  | f :: fs => "\n  - " ++ f.message ++ listed fs

end

/-- One failure stands for itself, several are gathered. -/
def ofMany : List Failure → Failure
  | [f] => f
  | fs => several fs

end Failure

end DispatchGen
