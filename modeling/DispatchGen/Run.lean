/-
DispatchGen/Run.lean

What a run does besides changing its state: it prints, it tells its log, and it
may fail.

A `Report` is the outcome of a part of a run that changes nothing: a result, and
the effects on the way to it, in order.  A `Run σ` is a part that may change a
state of type `σ`.  What it has changed and told before it fails stays changed
and told.
-/
import DispatchGen.Failure
import DispatchGen.Log.Event

namespace DispatchGen

/-- One thing that leaves the program. -/
inductive Effect where
  /-- Text on standard output. -/
  | print (text : String)
  /-- A line on standard error. -/
  | complain (line : String)
  | log (event : Log.Event)
deriving DecidableEq, Repr

/-- A result and the effects on the way to it. -/
structure Report (α : Type) where
  result : Except Failure α
  effects : List Effect := []

namespace Report

instance : Monad Report where
  pure a := ⟨.ok a, []⟩
  bind r f :=
    match r.result with
    | .ok a => ⟨(f a).result, r.effects ++ (f a).effects⟩
    | .error e => ⟨.error e, r.effects⟩

instance : MonadExceptOf Failure Report where
  throw e := ⟨.error e, []⟩
  tryCatch r handle :=
    match r.result with
    | .ok _ => r
    | .error e => ⟨(handle e).result, r.effects ++ (handle e).effects⟩

/-- An effect, and nothing to show for it. -/
def tell (e : Effect) : Report Unit := ⟨.ok (), [e]⟩

@[simp] theorem result_pure {α : Type} (a : α) : (pure a : Report α).result = .ok a := rfl

@[simp] theorem effects_pure {α : Type} (a : α) : (pure a : Report α).effects = [] := rfl

theorem bind_of_ok {α β : Type} {r : Report α} {a : α} (h : r.result = .ok a)
    (f : α → Report β) : r >>= f = ⟨(f a).result, r.effects ++ (f a).effects⟩ := by
  simp [bind, h]

theorem bind_of_error {α β : Type} {r : Report α} {e : Failure} (h : r.result = .error e)
    (f : α → Report β) : r >>= f = ⟨.error e, r.effects⟩ := by
  simp [bind, h]

end Report

/-- A part of a run over a state. -/
def Run (σ α : Type) := σ → σ × Report α

namespace Run

variable {σ : Type}

instance : Monad (Run σ) where
  pure a := fun s => (s, pure a)
  bind m f := fun s =>
    let (s', r) := m s
    match r.result with
    | .ok a =>
        let (s'', r') := f a s'
        (s'', ⟨r'.result, r.effects ++ r'.effects⟩)
    | .error e => (s', ⟨.error e, r.effects⟩)

instance : MonadExceptOf Failure (Run σ) where
  throw e := fun s => (s, throw e)
  tryCatch m handle := fun s =>
    let (s', r) := m s
    match r.result with
    | .ok _ => (s', r)
    | .error e =>
        let (s'', r') := handle e s'
        (s'', ⟨r'.result, r.effects ++ r'.effects⟩)

instance : MonadLift Report (Run σ) where
  monadLift r := fun s => (s, r)

/-- The state as it is now. -/
def current : Run σ σ := fun s => (s, pure s)

/-- A part of a run with its failure as a result. -/
def attempt {α : Type} (m : Run σ α) : Run σ (Except Failure α) := fun s =>
  let (s', r) := m s
  (s', ⟨.ok r.result, r.effects⟩)

def tell (e : Effect) : Run σ Unit := fun s => (s, Report.tell e)

end Run

end DispatchGen
