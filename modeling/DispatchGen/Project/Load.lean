/-
DispatchGen/Project/Load.lean

The configuration of a project: a file that was asked for, which must exist, or
else `edgeroute.toml` in the root, or else the defaults.
-/
import DispatchGen.Disk.Access
import DispatchGen.Failure

namespace DispatchGen.Project

/-- Where the configuration of a project is looked for. -/
def configFile (root : Path) : Path := root.join ⟨"edgeroute.toml"⟩

/-- The configuration in a file; none if the file does not exist. -/
def loadConfig? (d : Disk) (file : Path) : Except Failure (Option Config) :=
  if d.contains file then
    match d.readText file with
    | .error fault => .error (.disk (.readConfig file) fault)
    | .ok text =>
        match Config.ofText text with
        | .error cause => .error (.config file cause)
        | .ok c => .ok (some c)
  else .ok none

/-- The configuration of the project at `root`, where `explicit` is the file
that was asked for. -/
def loadConfig (d : Disk) (explicit : Option Path) (root : Path) : Except Failure Config :=
  match explicit with
  | some file => do
      match ← loadConfig? d file with
      | some c => return c
      | none => throw (.configNotFound file)
  | none => return (← loadConfig? d (configFile root)).getD {}

end DispatchGen.Project
