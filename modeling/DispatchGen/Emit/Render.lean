/-
DispatchGen/Emit/Render.lean

The text of a generated module: its lines, each ended by a line feed.
-/
import DispatchGen.Emit.Dispatcher
import DispatchGen.Emit.Router

namespace DispatchGen.Emit

/-- The text that lines make up. -/
def linesText (lines : List String) : String := String.join (lines.map (· ++ "\n"))

theorem linesText_nil : linesText [] = "" := rfl

theorem linesText_cons (l : String) (ls : List String) :
    linesText (l :: ls) = l ++ "\n" ++ linesText ls := by
  simp [linesText]

theorem linesText_append (ls ms : List String) :
    linesText (ls ++ ms) = linesText ls ++ linesText ms := by
  simp [linesText]

theorem toList_linesText (ls : List String) :
    (linesText ls).toList = ls.flatMap fun l => l.toList ++ ['\n'] := by
  induction ls with
  | nil => rfl
  | cons l ls ih =>
    rw [linesText_cons, String.toList_append, String.toList_append, ih]
    rfl

/-- The text of the module that a pipeline generates from a table. -/
def render (p : Pipeline) (t : Table) (c : Config) (root : Path) : Except RenderError String :=
  match p with
  | .http => (routerModule t c.http root).map fun m => linesText m.lines
  | .queue => (dispatcherModule t c.queue root).map fun m => linesText m.lines

end DispatchGen.Emit
