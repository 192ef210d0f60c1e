/-
DispatchGen/Proofs/Script.lean

The language that queue dispatchers are written in, as far as they use it.

A script is a function of four parameters behind imports.  It has a text, which
`Script.lines` prints, and a meaning, which `Script.run` computes: the events
that a call of the function leads to, and what it throws.  Control is that of
the language: `break` leaves the nearest switch or loop, the arms of a switch run
on into each other, and a cleanup runs whatever became of its body and overrides
it if it does not complete itself.

What the container and the handlers do is not known here.  A `World` says it, and
what it says may depend on everything that has happened so far.  A call of a
handler and the end of what it has started are two events: only an `await` has
the second.
-/
import DispatchGen.Emit.ImportLine

namespace DispatchGen.Script

/-! ### Syntax -/

inductive Expr where
  /-- A parameter, a constant or a global. -/
  | var (name : String)
  /-- A class that is imported. -/
  | imported (name : String)
  | member (e : Expr) (name : String)
  | call (receiver : Expr) (method : String) (args : List Expr)
  /-- Text, and the value of an expression behind it. -/
  | template (before : String) (e : Expr)

mutual

inductive Stmt where
  | perform (e : Expr)
  | await (e : Expr)
  | define (name : String) (e : Expr)
  | forOf (name : String) (items : Expr) (body : Stmt)
  | tryFinally (body cleanup : List Stmt)
  | switch (subject : Expr) (arms : List Arm) (fallback : List Stmt)
  | block (body : List Stmt)
  /-- Leave the nearest switch or loop. -/
  | leave

/-- A branch of a switch. -/
inductive Arm where
  | case (label : String) (body : Stmt)

end

end DispatchGen.Script

namespace DispatchGen

/-- A module that exports a function of a container, a batch, an environment and
an execution context. -/
structure Script where
  imports : List Emit.ImportLine
  containerType : String
  envType : String
  body : List Script.Stmt

end DispatchGen

namespace DispatchGen.Script

/-! ### Text -/

def Expr.text : Expr → String
  | var name => name
  | imported name => name
  | member e name => e.text ++ "." ++ name
  | call receiver method args =>
      receiver.text ++ "." ++ method ++ "(" ++ ", ".intercalate (args.map text) ++ ")"
  | template before e => "`" ++ before ++ "$\x7b" ++ e.text ++ "\x7d`"

def indent (lines : List String) : List String := lines.map ("  " ++ ·)

/-- Lines that continue a line. -/
def continued (start : String) : List String → List String
  | [] => [start]
  | l :: ls => (start ++ l) :: ls

mutual

def Stmt.lines : Stmt → List String
  | .perform e => [e.text ++ ";"]
  | .await e => ["await " ++ e.text ++ ";"]
  | .define name e => ["const " ++ name ++ " = " ++ e.text ++ ";"]
  | .forOf name items body =>
      continued ("for (const " ++ name ++ " of " ++ items.text ++ ") ") body.lines
  | .tryFinally body cleanup =>
      ["try \x7b"] ++ indent (linesOf body) ++ ["\x7d finally \x7b"] ++ indent (linesOf cleanup) ++
        ["\x7d"]
  | .switch subject arms fallback =>
      ["switch (" ++ subject.text ++ ") \x7b"] ++
        indent (linesOfArms arms ++ ["default:"] ++ indent (linesOf fallback)) ++ ["\x7d"]
  | .block body => ["\x7b"] ++ indent (linesOf body) ++ ["\x7d"]
  | .leave => ["break;"]

def linesOf : List Stmt → List String
  | [] => []
  | s :: ss => s.lines ++ linesOf ss

def linesOfArms : List Arm → List String
  | [] => []
  | .case label body :: arms =>
      continued ("case " ++ Text.quote label ++ ": ") body.lines ++ linesOfArms arms

end

/-- The lines of the module. -/
def lines (s : Script) : List String :=
  Emit.heading s.imports ++
  ["",
    "export async function handleMessage(",
    "  container: " ++ s.containerType ++ ",",
    "  batch: MessageBatch<unknown>,",
    "  env: " ++ s.envType ++ ",",
    "  exec: ExecutionContext,",
    "): Promise<void> \x7b"] ++
  indent (linesOf s.body) ++ ["\x7d"]

/-! ### Values and events -/

/-- What there is besides the script: objects that the container hands out,
promises that their methods return, messages, and what is thrown. -/
structure Kinds where
  Object : Type
  Promise : Type
  Message : Type
  Exception : Type

variable {K : Kinds}

inductive Value (K : Kinds) where
  | container
  | batch
  | env
  | exec
  | console
  | cls (name : String)
  | object (o : K.Object)
  | promise (p : K.Promise)
  | message (m : K.Message)
  | messages (ms : List K.Message)
  | text (s : String)
  | undefined

/-- What can be seen of a run. -/
inductive Event (K : Kinds) where
  /-- The container is asked for an object of a class. -/
  | resolve (name : String)
  /-- A method of such an object is called. -/
  | call (o : K.Object) (method : String) (args : List (Value K))
  /-- What a call has started is over. -/
  | settle (p : K.Promise)
  | ack (m : K.Message)
  | warn (text : String)

inductive Thrown (K : Kinds) where
  | raised (e : K.Exception)
  | typeError
  | referenceError

/-- What container and handlers do, after what has happened so far. -/
structure World (K : Kinds) where
  resolve : List (Event K) → String → Except K.Exception K.Object
  call : List (Event K) → K.Object → String → List (Value K) → Except K.Exception K.Promise
  settle : List (Event K) → K.Promise → Except K.Exception Unit

/-- What the function is called with. -/
structure Batch (K : Kinds) where
  queue : String
  messages : List K.Message

/-! ### Runs -/

/-- A part of a run: it adds to the events so far, and ends with a value or by
throwing. -/
def Exec (K : Kinds) (α : Type) := List (Event K) → List (Event K) × Except (Thrown K) α

namespace Exec

variable {α β : Type}

instance : Monad (Exec K) where
  pure a := fun past => (past, .ok a)
  bind m f := fun past =>
    match m past with
    | (past, .ok a) => f a past
    | (past, .error e) => (past, .error e)

def throw (e : Thrown K) : Exec K α := fun past => (past, .error e)

/-- An event, and what the world makes of it. -/
def happen (e : Event K) (answer : List (Event K) → Except K.Exception α) : Exec K α :=
  fun past => (past ++ [e], (answer past).mapError .raised)

variable {m : Exec K α} {f : α → Exec K β} {past past' : List (Event K)}

@[simp] theorem pure_apply (a : α) (past : List (Event K)) :
    (pure a : Exec K α) past = (past, .ok a) := rfl

theorem bind_apply_of_ok {a : α} (h : m past = (past', .ok a)) : (m >>= f) past = f a past' := by
  simp only [bind, h]

theorem bind_apply_of_error {e : Thrown K} (h : m past = (past', .error e)) :
    (m >>= f) past = (past', .error e) := by
  simp only [bind, h]

/-- Run a cleanup after a body, whatever became of it. -/
def cleanup (body after : Exec K α) (overrides : α → Bool) : Exec K α := fun past =>
  match body past with
  | (past, result) =>
      match after past with
      | (past, .ok a) => (past, if overrides a then .ok a else result)
      | (past, .error e) => (past, .error e)

end Exec

/-- How a statement ends that does not throw. -/
inductive Completion where
  | normal
  | left
deriving DecidableEq, Repr

/-- What the names in a piece of code stand for. -/
structure Scope (K : Kinds) where
  imports : List Emit.ImportLine
  batch : Batch K
  locals : List (String × Value K)

def Scope.bind (s : Scope K) (name : String) (v : Value K) : Scope K :=
  { s with locals := (name, v) :: s.locals }

/-- A property of a value. -/
def property (b : Batch K) (v : Value K) (name : String) : Value K :=
  match v, name with
  | .batch, "queue" => .text b.queue
  | .batch, "messages" => .messages b.messages
  | _, _ => .undefined

/-- A call of a method.  The acknowledgement of a message does not throw. -/
def invoke (w : World K) (receiver : Value K) (method : String) (args : List (Value K)) :
    Exec K (Value K) :=
  match receiver, method, args with
  | .container, "resolve", [.cls name] =>
      return .object (← Exec.happen (.resolve name) (w.resolve · name))
  | .object o, method, args =>
      return .promise (← Exec.happen (.call o method args) (w.call · o method args))
  | .message m, "ack", [] => Exec.happen (.ack m) fun _ => .ok .undefined
  | .console, "warn", [.text s] => Exec.happen (.warn s) fun _ => .ok .undefined
  | _, _, _ => Exec.throw .typeError

mutual

def eval (w : World K) (s : Scope K) : Expr → Exec K (Value K)
  | .var name =>
      match s.locals.lookup name with
      | some v => pure v
      | none => Exec.throw .referenceError
  | .imported name =>
      if s.imports.any (·.names = name) then pure (.cls name) else Exec.throw .referenceError
  | .member e name => do
      return property s.batch (← eval w s e) name
  | .call receiver method args => do
      invoke w (← eval w s receiver) method (← evalAll w s args)
  | .template before e => do
      match ← eval w s e with
      | .text t => pure (.text (before ++ t))
      | _ => Exec.throw .typeError

def evalAll (w : World K) (s : Scope K) : List Expr → Exec K (List (Value K))
  | [] => pure []
  | e :: es => do return (← eval w s e) :: (← evalAll w s es)

end

/-- Wait for what a call has started. -/
def settled (w : World K) : Value K → Exec K Unit
  | .promise p => Exec.happen (.settle p) (w.settle · p)
  | _ => pure ()

/-- Run a body for each item, until it is left. -/
def forEach {α : Type} (body : α → Exec K Completion) : List α → Exec K Completion
  | [] => pure .normal
  | item :: items => do
      match ← body item with
      | .normal => forEach body items
      | .left => pure .normal

mutual

def exec (w : World K) (s : Scope K) : Stmt → Exec K Completion
  | .perform e => do
      let _ ← eval w s e
      return .normal
  | .await e => do
      settled w (← eval w s e)
      return .normal
  | .define _ e => do
      let _ ← eval w s e
      return .normal
  | .forOf name items body => do
      match ← eval w s items with
      | .messages ms => forEach (fun m => exec w (s.bind name (.message m)) body) ms
      | _ => Exec.throw .typeError
  | .tryFinally body cleanup =>
      Exec.cleanup (execAll w s body) (execAll w s cleanup) (· = .left)
  | .switch subject arms fallback => do
      match ← eval w s subject with
      | .text t =>
          let _ ← execArms w s t false arms (execAll w s fallback)
          return .normal
      | _ => Exec.throw .typeError
  | .block body => execAll w s body
  | .leave => pure .left

/-- Statements in turn, up to the first that is left.  A constant stands for its
value in those behind it. -/
def execAll (w : World K) (s : Scope K) : List Stmt → Exec K Completion
  | [] => pure .normal
  | .define name e :: rest => do
      execAll w (s.bind name (← eval w s e)) rest
  | stmt :: rest => do
      match ← exec w s stmt with
      | .normal => execAll w s rest
      | .left => pure .left

/-- The arms of a switch from the first whose label is the subject on, and what is
behind them if none is or they are not left. -/
def execArms (w : World K) (s : Scope K) (subject : String) (matched : Bool) :
    List Arm → Exec K Completion → Exec K Completion
  | [], fallback => fallback
  | .case label body :: arms, fallback =>
      if matched || label = subject then do
        match ← exec w s body with
        | .normal => execArms w s subject true arms fallback
        | .left => pure .left
      else execArms w s subject matched arms fallback

end

/-- A statement alone is run for itself. -/
theorem execAll_singleton (w : World K) (s : Scope K) (stmt : Stmt)
    (hdefine : ∀ name e, stmt ≠ .define name e) : execAll w s [stmt] = exec w s stmt := by
  have hlast : execAll w s [stmt] = (do
      match ← exec w s stmt with
      | .normal => pure .normal
      | .left => pure .left) := by
    cases stmt with
    | define name e => exact absurd rfl (hdefine name e)
    | _ => rfl
  funext past
  rw [hlast]
  rcases hrun : exec w s stmt past with ⟨past', e | completion⟩
  · exact Exec.bind_apply_of_error hrun
  · rw [Exec.bind_apply_of_ok hrun]
    cases completion <;> rfl

/-- The parameters of the function, and the one global that it uses. -/
def parameters : List (String × Value K) := [
  ("container", .container), ("batch", .batch), ("env", .env), ("exec", .exec),
  ("console", .console)]

/-- The events of a call of the function, and what it throws. -/
def run (script : Script) (w : World K) (b : Batch K) : List (Event K) × Option (Thrown K) :=
  match execAll w ⟨script.imports, b, parameters⟩ script.body [] with
  | (events, .ok _) => (events, none)
  | (events, .error e) => (events, some e)

end DispatchGen.Script
