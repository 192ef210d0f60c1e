/-
DispatchGen/Project/Build.lean

From the sources of a target to the text of its module.  Nothing here changes
the disk.
-/
import DispatchGen.Emit.Render
import DispatchGen.Grammar.File
import DispatchGen.Lint
import DispatchGen.Project.Scan
import DispatchGen.Run

namespace DispatchGen.Project

open Grammar (Reader)

/-- What the log is told about a finding in `module`. -/
def eventOf? (module : Path) : Extract.Finding → Option Log.Event
  | .warning w => some (.issueRaised (w.issue module))
  | .ignored decorator => some (.decoratorIgnored decorator)
  | _ => none

/-- The facts of the tree of a source, told to the log as they are found. -/
def survey (target : Pipeline) (module : Path) (tree : Syntax.Node) : Report Facts :=
  let findings := Extract.findings target tree
  let facts := Facts.ofFindings module findings
  let events := findings.filterMap (eventOf? module) ++
    [.fileScanned module facts.classes.length facts.routes.length facts.tasks.length]
  ⟨.ok facts, events.map .log⟩

/-- A path as seen from the root of the project, if it is below it. -/
def moduleOf (root file : Path) : Path := (file.stripPrefix? root).getD file

/-- The table with what one visit of the scan adds to it. -/
def absorbVisit [Reader] (d : Disk) (target : Pipeline) (root : Path) (t : Table) :
    Visit → Report Table
  | .output file => do
      Report.tell (.log (.outputSkipped file))
      return t
  | .unlisted directory fault => throw (.disk (.listSources directory) fault)
  | .source file =>
      match d.readText file with
      | .error fault => throw (.disk (.readSource file) fault)
      | .ok text =>
          let module := moduleOf root file
          match Reader.tree? (Grammar.Dialect.ofPath file) text with
          | none => throw (.unparsed file)
          | some tree => return t.absorb (← survey target module tree)

/-- The dispatch table of a target. -/
def buildTable [Reader] (d : Disk) (target : Pipeline) (root : Path) (c : Config) : Report Table :=
  match scan d target (root.join (c.sourceDir target)) c (some (root.join (c.output target))) with
  | .error e => throw e
  | .ok visits => visits.foldlM (absorbVisit d target root) {}

/-- A table without conflicts, and the text of its module. -/
structure Prepared where
  table : Table
  text : String

/-- The module of a table, unless its records are in conflict. -/
def renderTable (target : Pipeline) (root : Path) (c : Config) (t : Table) :
    Except Failure Prepared :=
  match (lint t target).filter Issue.isError with
  | [] =>
      match Emit.render target t c root with
      | .ok text => .ok ⟨t, text⟩
      | .error cause => .error (.render cause)
  | errors => .error (.conflicts target errors)

/-- Build the table of a target and the text of its module. -/
def prepare [Reader] (d : Disk) (target : Pipeline) (root : Path) (c : Config) :
    Report Prepared := do
  let t ← buildTable d target root c
  match renderTable target root c t with
  | .ok prepared => return prepared
  | .error e => throw e

end DispatchGen.Project
