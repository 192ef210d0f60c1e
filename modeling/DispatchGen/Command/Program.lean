/-
DispatchGen/Command/Program.lean

The program: from words and environment to what is printed and the exit code.

The exit code is 0 for success and for an answered question, 1 for a run that
failed, and 2 for a command line that cannot be run.
-/
import DispatchGen.Command.Args
import DispatchGen.Command.Execute
import DispatchGen.Log.Filter
import DispatchGen.Log.Line

namespace DispatchGen.Command

open Grammar (Reader)

/-- What a program leaves with whoever called it. -/
structure Exit where
  code : Nat
  stdout : String := ""
  stderr : String := ""
deriving DecidableEq, Repr

/-- What effects print on standard output. -/
def stdoutOf (effects : List Effect) : String :=
  String.join <| effects.filterMap fun
    | .print text => some text
    | _ => none

/-- What effects print on standard error when the log admits no event. -/
def complaintsOf (effects : List Effect) : String :=
  String.join <| effects.filterMap fun
    | .complain line => some (line ++ "\n")
    | _ => none

/-- What effects print on standard error. -/
def stderrOf (settings : Log.Settings) (filter : Log.Filter) (effects : List Effect) : String :=
  String.join <| effects.filterMap fun
    | .print _ => none
    | .complain line => some (line ++ "\n")
    | .log event => if filter.admits event then some (event.text settings ++ "\n") else none

/-- The filter in force: the one in the environment, or else the level. -/
def filterOf (env : Log.Environment) (settings : Log.Settings) : Log.Filter :=
  ((env "RUST_LOG").bind Log.Filter.ofText?).getD (.ofLevel settings.threshold)

def versionText : String := "edgeroute-gen 0.1.0-alpha.1\n"

def helpText : String :=
  "Generate router and queue dispatch glue from decorators\n\n" ++
  "Usage: edgeroute-gen [OPTIONS] <COMMAND>\n\n" ++
  "Commands:\n" ++
  "  generate  Scan sources and regenerate the dispatch modules\n" ++
  "  check     Fail if any generated module is out of date\n" ++
  "  lint      Report extraction warnings and dispatch conflicts\n" ++
  "  routes    List the discovered routes and queue consumers\n"

/-- The answer to a command line that cannot be run. -/
def refuse : UsageError → Exit
  | .helpAsked => { code := 0, stdout := helpText }
  | .versionAsked => { code := 0, stdout := versionText }
  | _ => { code := 2, stderr := helpText }

/-- Run the program on a disk. -/
def run [Reader] (words : List String) (env : Log.Environment) (d : Disk) : Disk × Exit :=
  match parse words with
  | .error e => (d, refuse e)
  | .ok i =>
      let settings := (Log.Settings.ofEnvironment env).withVerbosity i.verbose i.quiet
      let (d, report) := execute i d
      let stdout := stdoutOf report.effects
      let stderr := stderrOf settings (filterOf env settings) report.effects
      match report.result with
      | .ok () => (d, { code := 0, stdout, stderr })
      | .error e => (d, { code := 1, stdout, stderr := stderr ++ "❌ " ++ e.message ++ "\n" })

end DispatchGen.Command
