/-
DispatchGen/Command/Args.lean

Reading a command line.

The verbosity options may stand on both sides of the command; where one is
given after it, what was given before is forgotten.  All other options belong
to the command and follow it.
-/
import DispatchGen.Command.Options

namespace DispatchGen.Command

/-! ### The options -/

def verbosityOptions : List Opt :=
  [⟨"verbose", some 'v', .count⟩, ⟨"quiet", some 'q', .flag⟩]

def helpOption : Opt := ⟨"help", some 'h', .stop .helpAsked⟩

/-- The options before the command. -/
def programOptions : List Opt :=
  verbosityOptions ++ [helpOption, ⟨"version", some 'V', .stop .versionAsked⟩]

/-- The options of every command. -/
def projectOptions : List Opt :=
  [⟨"root", none, .single⟩, ⟨"config", some 'c', .single⟩,
    ⟨"only", none, .many (Pipeline.all.map (·.name))⟩] ++ verbosityOptions ++ [helpOption]

def flagOption (name : String) : Opt := ⟨name, none, .flag⟩

/-- A command: its name, the flags of its own, and the action that they make. -/
structure Spec where
  name : String
  flags : List String
  action : (String → Bool) → Action

def Spec.options (s : Spec) : List Opt := projectOptions ++ s.flags.map flagOption

def specs : List Spec := [
  ⟨"generate", ["dry-run"], fun has => .generate (has "dry-run")⟩,
  ⟨"check", [], fun _ => .check⟩,
  ⟨"lint", ["fail-on-error", "errors-only"],
    fun has => .lint (has "fail-on-error") (has "errors-only")⟩,
  ⟨"routes", ["json"], fun has => .routes (has "json")⟩]

def isCommand (word : String) : Bool := word = "help" || specs.any (·.name = word)

/-! ### After the command -/

/-- Read the words after a command; nothing may follow `--`. -/
def readOptions (options : List Opt) (r : Reading) : List String → Except UsageError Reading
  | [] => r.settle
  | word :: words =>
      match word.toList with
      | ['-', '-'] => if words.isEmpty then r.settle else .error .unknownArgument
      | '-' :: '-' :: cs => do readOptions options (← r.long options cs) words
      | '-' :: c :: cs => do readOptions options (← r.letters options (c :: cs)) words
      | _ =>
          match r.plain word with
          | some r => readOptions options r words
          | none => .error .unknownArgument

/-- The pipelines with the given names. -/
def pipelinesOf (names : List String) : List Pipeline :=
  names.filterMap fun name => Pipeline.all.find? (·.name = name)

/-- What a command is asked to do, where `before` are the options before it. -/
def invocation (s : Spec) (before after : Reading) : Invocation where
  action := s.action after.has
  verbose := min 255 (if after.has "verbose" then after.times "verbose" else before.times "verbose")
  quiet := after.has "quiet" || before.has "quiet"
  root := ⟨(after.values "root").head?.getD "."⟩
  config := (after.values "config").head?.map (⟨·⟩)
  only := if after.has "only" then some (pipelinesOf (after.values "only")) else none

/-- Read the words after `help`: the command to explain, if any. -/
def readHelp : List String → UsageError
  | [] => .helpAsked
  | [word] => if isCommand word then .helpAsked else .unknownCommand
  | _ :: _ :: _ => .unknownCommand

/-! ### Before the command -/

/-- Read a command and the words after it. -/
def readCommand (before : Reading) (word : String) (words : List String) :
    Except UsageError Invocation :=
  if word = "help" then .error (readHelp words)
  else
    match specs.find? (·.name = word) with
    | none => .error .unknownCommand
    | some s => return invocation s before (← readOptions s.options {} words)

/-- What is wrong where no command follows the options read so far. -/
def commandless (r : Reading) : UsageError :=
  if r.given.isEmpty then .nothingAsked else .missingCommand

/-- Read the words from the start, up to the command and on. -/
def readProgram (r : Reading) : List String → Except UsageError Invocation
  | [] => .error (commandless r)
  | word :: words =>
      match word.toList with
      | ['-', '-'] =>
          match words with
          | [] => .error (commandless r)
          | next :: _ => .error (if isCommand next then .unknownArgument else .unknownCommand)
      | '-' :: '-' :: cs => do readProgram (← r.long programOptions cs) words
      | '-' :: c :: cs => do readProgram (← r.letters programOptions (c :: cs)) words
      | _ => readCommand r word words

/-- What a command line asks for; the name of the program is not part of it. -/
def parse (words : List String) : Except UsageError Invocation := readProgram {} words

end DispatchGen.Command
