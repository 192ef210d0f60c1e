/-
DispatchGen/Log/Settings.lean

What the environment and the verbosity flags say about the log.

The level is kept as the text that was given until the flags are applied, which
put the name of a level in its place.
-/
import DispatchGen.Log.Event

namespace DispatchGen.Log

/-- How log lines are laid out. -/
inductive Format where
  /-- One line for people. -/
  | compact
  /-- Several lines for people. -/
  | pretty
  /-- One object a line. -/
  | json
deriving DecidableEq, Repr

/-- The format a text names, in letters of either case; any other text means
the compact one.  No letter outside ASCII stands for a letter of these names. -/
def Format.ofText (s : String) : Format :=
  match s.map Char.toLower with
  | "pretty" => .pretty
  | "json" => .json
  | _ => .compact

/-- The values of environment variables. -/
abbrev Environment := String → Option String

structure Settings where
  level : String := "info"
  format : Format := .compact
  /-- Whether a line says where it was told. -/
  includeLocation : Bool := false
deriving DecidableEq, Repr

namespace Settings

/-- A truth value, written in exactly one way. -/
def flag? : String → Option Bool
  | "true" => some true
  | "false" => some false
  | _ => none

/-- The settings in the environment. -/
def ofEnvironment (env : Environment) : Settings where
  level := (env "EDGEROUTE_LOG_LEVEL").getD "info"
  format := ((env "EDGEROUTE_LOG_FORMAT").map Format.ofText).getD .compact
  includeLocation := ((env "EDGEROUTE_LOG_LOCATION").bind flag?).getD false

/-- The level in force; an unknown name means `info`. -/
def threshold (s : Settings) : Level := (Level.ofName? s.level).getD .info

/-- The settings after the verbosity flags: `quiet` leaves the errors only, and
each `verbose` lets one more level through. -/
def withVerbosity (s : Settings) (verbose : Nat) (quiet : Bool) : Settings :=
  if quiet then { s with level := Level.error.name }
  else { s with level := ((Nat.repeat Level.next verbose s.threshold)).name }

end Settings

end DispatchGen.Log
