/-
DispatchGen/Emit/Dispatcher.lean

The generated queue dispatcher: a switch on the queue name with one arm for each
task in table order.  An arm acknowledges every message once its handler is
done, whether or not that failed.
-/
import DispatchGen.Emit.ImportLine

namespace DispatchGen.Emit

/-- What a queue dispatcher is made of. -/
structure DispatcherModule where
  imports : List ImportLine
  containerType : String
  envType : String
  tasks : List Task
deriving DecidableEq, Repr

namespace DispatcherModule

/-- The call of one task: once with all messages, or once for each. -/
def callLines (t : Task) : List String :=
  if t.isBatch then
    ["        await container.resolve(" ++ t.consumer ++ ")." ++ t.method ++
      "(batch.messages, env, exec);"]
  else
    ["        const consumer = container.resolve(" ++ t.consumer ++ ");",
      "        for (const message of batch.messages) \x7b",
      "          await consumer." ++ t.method ++ "(message, env, exec);",
      "        \x7d"]

/-- The arm of one task. -/
def armLines (t : Task) : List String :=
  ["    case " ++ Text.quote t.queue ++ ": \x7b",
    "      try \x7b"] ++
  callLines t ++
  ["      \x7d finally \x7b",
    "        for (const message of batch.messages) message.ack();",
    "      \x7d",
    "      break;",
    "    \x7d"]

def lines (m : DispatcherModule) : List String :=
  heading m.imports ++
  ["",
    "export async function handleMessage(",
    "  container: " ++ m.containerType ++ ",",
    "  batch: MessageBatch<unknown>,",
    "  env: " ++ m.envType ++ ",",
    "  exec: ExecutionContext,",
    "): Promise<void> \x7b",
    "  switch (batch.queue) \x7b"] ++
  m.tasks.flatMap armLines ++
  ["    default:",
    "      console.warn(`No consumer registered for queue $\x7bbatch.queue\x7d`);",
    "  \x7d",
    "\x7d"]

end DispatcherModule

/-- The queue dispatcher of a table. -/
def dispatcherModule (t : Table) (c : QueueTarget) (root : Path) :
    Except RenderError DispatcherModule := do
  let dir := outputDir root c.output
  checkName "container type" c.containerType
  checkName "env type" c.envType
  let env := match c.envModule with
    | some module => [ImportLine.named c.envType (specifierOf root dir module)]
    | none => []
  let classes ← classImports t .queue root dir
  return {
    imports := ImportLine.named c.containerType c.containerPackage :: env ++ classes
    containerType := c.containerType
    envType := c.envType
    tasks := t.tasks }

end DispatchGen.Emit
