/-
DispatchGen/Proofs/Acknowledgement.lean

What a generated queue dispatcher does with a batch.

The dispatcher is taken for the script it is: `scriptOf` is its syntax tree, and
`lines_scriptOf` says that the tree is printed as the lines that are generated.
A run of the script is then followed statement by statement.  The two loops are
inductions over the messages: acknowledging always ends (`forEach_ack`), calling
ends with the first message whose handler throws (`forEach_handle`, in terms of
`Calls`).  The queue names are distinct so that the first arm with the name of
the batch is the only one.

Main statement: `batch_acknowledged`.
-/
import DispatchGen.Emit.Render
import DispatchGen.Proofs.NameOrder
import DispatchGen.Proofs.Rendering
import DispatchGen.Proofs.Script
import Mathlib.Data.List.Nodup

namespace DispatchGen

open Script Emit

/-! ### The script of a dispatcher -/

namespace Emit.DispatcherModule

def batchMessages : Expr := .member (.var "batch") "messages"

/-- The object that handles a task. -/
def resolved (k : Task) : Expr := .call (.var "container") "resolve" [.imported k.consumer]

/-- The calls of the handler of a task: one with all messages, or one for each. -/
def calls (k : Task) : List Stmt :=
  if k.isBatch then
    [.await (.call (resolved k) k.method [batchMessages, .var "env", .var "exec"])]
  else
    [.define "consumer" (resolved k),
      .forOf "message" batchMessages (.block [
        .await (.call (.var "consumer") k.method [.var "message", .var "env", .var "exec"])])]

/-- Every message is acknowledged. -/
def acknowledge : Stmt :=
  .forOf "message" batchMessages (.perform (.call (.var "message") "ack" []))

def arm (k : Task) : Arm := .case k.queue (.block [.tryFinally (calls k) [acknowledge], .leave])

/-- What is done with a batch of any other queue. -/
def fallback : List Stmt := [.perform (.call (.var "console") "warn" [
  .template "No consumer registered for queue " (.member (.var "batch") "queue")])]

/-- The script that a queue dispatcher is. -/
def scriptOf (m : DispatcherModule) : Script where
  imports := m.imports
  containerType := m.containerType
  envType := m.envType
  body := [.switch (.member (.var "batch") "queue") (m.tasks.map arm) fallback]

theorem linesOfArms_append (as bs : List Arm) :
    linesOfArms (as ++ bs) = linesOfArms as ++ linesOfArms bs := by
  induction as with
  | nil => rfl
  | cons a as ih =>
    cases a
    simp [linesOfArms, ih]

theorem indent_append (ls ms : List String) : indent (ls ++ ms) = indent ls ++ indent ms :=
  List.map_append

theorem lines_arm (k : Task) : indent (indent (linesOfArms [arm k])) = armLines k := by
  cases hbatch : k.isBatch <;>
    simp [arm, calls, acknowledge, resolved, batchMessages, hbatch, linesOfArms, Stmt.lines,
      linesOf, continued, indent, armLines, callLines, Expr.text, ← String.toList_inj]

theorem lines_arms (tasks : List Task) :
    indent (indent (linesOfArms (tasks.map arm))) = tasks.flatMap armLines := by
  induction tasks with
  | nil => rfl
  | cons k tasks ih =>
    have hcons : arm k :: tasks.map arm = [arm k] ++ tasks.map arm := rfl
    rw [List.map_cons, List.flatMap_cons, ← ih, ← lines_arm, hcons, linesOfArms_append,
      indent_append, indent_append]

theorem indent_cons (l : String) (ls : List String) :
    indent (l :: ls) = ("  " ++ l) :: indent ls := rfl

theorem lines_fallback : linesOf fallback
    = ["console.warn(`No consumer registered for queue $\x7bbatch.queue\x7d`);"] := by
  simp [fallback, linesOf, Stmt.lines, Expr.text]

/-- The script of a dispatcher is written as the dispatcher is. -/
theorem lines_scriptOf (m : DispatcherModule) : (scriptOf m).lines = m.lines := by
  have hnil : indent [] = [] := rfl
  have hsubject : (Expr.member (.var "batch") "queue").text = "batch.queue" := by
    simp [Expr.text]
  simp only [Script.lines, scriptOf, linesOf, Stmt.lines, hsubject, lines_fallback, lines,
    indent_append, indent_cons, hnil, lines_arms, List.append_assoc, List.cons_append,
    List.nil_append, List.append_nil, String.reduceAppend]

end Emit.DispatcherModule

/-! ### Calls of a handler -/

namespace Script

variable {K : Kinds} {w : World K} {o : K.Object} {method : String}

/-- The events of calling a method with each list of arguments in turn, each call
once the one before is over, up to the first that throws, and what it throws. -/
inductive Calls (w : World K) (o : K.Object) (method : String) :
    List (Event K) → List (List (Value K)) → List (Event K) → Option K.Exception → Prop
  | done {past} : Calls w o method past [] [] none
  | refused {past args rest e} : w.call past o method args = .error e →
      Calls w o method past (args :: rest) [.call o method args] (some e)
  | failed {past args rest p e} : w.call past o method args = .ok p →
      w.settle (past ++ [.call o method args]) p = .error e →
      Calls w o method past (args :: rest) [.call o method args, .settle p] (some e)
  | next {past args rest p events thrown} : w.call past o method args = .ok p →
      w.settle (past ++ [.call o method args]) p = .ok () →
      Calls w o method (past ++ [.call o method args, .settle p]) rest events thrown →
      Calls w o method past (args :: rest) (.call o method args :: .settle p :: events) thrown

/-- What a statement ends with that throws nothing but what the world does. -/
def ended : Option K.Exception → Except (Thrown K) Completion
  | none => .ok .normal
  | some e => .error (.raised e)

/-- A call, and the wait for what it has started. -/
def handle (w : World K) (o : K.Object) (method : String) (args : List (Value K)) :
    Exec K Completion := do
  settled w (← invoke w (.object o) method args)
  return .normal

theorem handle_of_error {past : List (Event K)} {args : List (Value K)} {e : K.Exception}
    (h : w.call past o method args = .error e) :
    handle w o method args past = (past ++ [.call o method args], .error (.raised e)) := by
  simp [handle, invoke, bind, Exec.happen, h, Except.mapError]

theorem handle_of_ok {past : List (Event K)} {args : List (Value K)} {p : K.Promise}
    (h : w.call past o method args = .ok p) :
    handle w o method args past = (past ++ [.call o method args, .settle p],
      match w.settle (past ++ [.call o method args]) p with
      | .ok () => .ok .normal
      | .error e => .error (.raised e)) := by
  simp only [handle, invoke, bind, Exec.happen, h, Except.mapError, settled, Exec.pure_apply,
    List.append_assoc, List.cons_append, List.nil_append]
  cases w.settle (past ++ [.call o method args]) p <;> rfl

variable (w o method) in
/-- One call of the handler. -/
theorem exists_calls_of_handle (args : List (Value K)) (past : List (Event K)) :
    ∃ events thrown, Calls w o method past [args] events thrown ∧
      handle w o method args past = (past ++ events, ended thrown) := by
  cases hcall : w.call past o method args with
  | error e => exact ⟨_, _, .refused hcall, handle_of_error hcall⟩
  | ok p =>
    have hhandle := handle_of_ok hcall
    cases hsettle : w.settle (past ++ [.call o method args]) p with
    | error e =>
      rw [hsettle] at hhandle
      exact ⟨_, _, .failed hcall hsettle, hhandle⟩
    | ok u =>
      rw [hsettle] at hhandle
      exact ⟨_, _, .next hcall hsettle .done, hhandle⟩

variable (w o method) in
/-- A loop that calls the handler for each item. -/
theorem forEach_handle {α : Type} (args : α → List (Value K)) (items : List α)
    (past : List (Event K)) :
    ∃ events thrown, Calls w o method past (items.map args) events thrown ∧
      forEach (fun item => handle w o method (args item)) items past
        = (past ++ events, ended thrown) := by
  induction items generalizing past with
  | nil => exact ⟨[], none, .done, by simp [forEach, ended]⟩
  | cons item items ih =>
    cases hcall : w.call past o method (args item) with
    | error e =>
      refine ⟨_, _, .refused hcall, ?_⟩
      rw [forEach, Exec.bind_apply_of_error (handle_of_error hcall)]
      rfl
    | ok p =>
      have hhandle := handle_of_ok hcall
      cases hsettle : w.settle (past ++ [.call o method (args item)]) p with
      | error e =>
        rw [hsettle] at hhandle
        refine ⟨_, _, .failed hcall hsettle, ?_⟩
        rw [forEach, Exec.bind_apply_of_error hhandle]
        rfl
      | ok u =>
        rw [hsettle] at hhandle
        obtain ⟨events, thrown, hcalls, hrest⟩ :=
          ih (past ++ [.call o method (args item), .settle p])
        refine ⟨_, thrown, .next hcall hsettle hcalls, ?_⟩
        rw [forEach, Exec.bind_apply_of_ok hhandle]
        simpa using hrest

/-- A loop that acknowledges each message. -/
theorem forEach_ack (ms : List K.Message) (past : List (Event K)) :
    forEach (fun m => Exec.happen (.ack m) fun _ => .ok .normal) ms past
      = (past ++ ms.map .ack, .ok .normal) := by
  induction ms generalizing past with
  | nil => simp [forEach]
  | cons m ms ih =>
    have hack : Exec.happen (.ack m) (fun _ => .ok Completion.normal) past
        = (past ++ [.ack m], .ok .normal) := rfl
    have hcons : past ++ .ack m :: ms.map .ack = past ++ [.ack m] ++ ms.map .ack := by simp
    rw [forEach, Exec.bind_apply_of_ok hack, List.map_cons, hcons]
    exact ih (past ++ [.ack m])

end Script

/-! ### Runs of a dispatcher -/

namespace Emit.DispatcherModule

variable {K : Kinds} {w : World K} {imports : List ImportLine} {b : Batch K}

/-- The arguments of each call of the handler of a task. -/
def argumentLists (k : Task) (b : Batch K) : List (List (Value K)) :=
  if k.isBatch then [[.messages b.messages, .env, .exec]]
  else b.messages.map fun m => [.message m, .env, .exec]

/-- The part of the container and of the handler in serving a batch: the events
behind the first, and what is thrown. -/
def Served (w : World K) (k : Task) (b : Batch K) (past events : List (Event K))
    (thrown : Option K.Exception) : Prop :=
  match w.resolve past k.consumer with
  | .error e => events = [] ∧ thrown = some e
  | .ok o => Calls w o k.method (past ++ [.resolve k.consumer]) (argumentLists k b) events thrown

/-- The container is asked for the class of a task. -/
theorem eval_resolved {k : Task} (himport : imports.any (·.names = k.consumer) = true)
    (past : List (Event K)) :
    eval w ⟨imports, b, parameters⟩ (resolved k) past = (past ++ [.resolve k.consumer],
      match w.resolve past k.consumer with
      | .ok o => .ok (.object o)
      | .error e => .error (.raised e)) := by
  have hclass : eval w ⟨imports, b, parameters⟩ (.imported k.consumer)
      = pure (.cls k.consumer) := by
    rw [eval, if_pos himport]
  have hinvoke : eval w ⟨imports, b, parameters⟩ (resolved k) past
      = invoke w .container "resolve" [.cls k.consumer] past := by
    rw [resolved, eval, evalAll, hclass]
    rfl
  rw [hinvoke]
  simp only [invoke, bind, Exec.happen]
  cases w.resolve past k.consumer <;> rfl

/-- The loop over the messages, once there is an object. -/
theorem execAll_loop (o : K.Object) (method : String) :
    execAll w (Scope.bind ⟨imports, b, parameters⟩ "consumer" (.object o)) [
      .forOf "message" batchMessages (.block [
        .await (.call (.var "consumer") method [.var "message", .var "env", .var "exec"])])]
      = forEach (fun m => handle w o method [.message m, .env, .exec]) b.messages := by
  rw [execAll_singleton _ _ _ (by simp)]
  have hbody : ∀ m, exec w (Scope.bind (Scope.bind ⟨imports, b, parameters⟩ "consumer" (.object o))
      "message" (.message m)) (.block [
        .await (.call (.var "consumer") method [.var "message", .var "env", .var "exec"])])
      = handle w o method [.message m, .env, .exec] := by
    intro m
    rw [exec, execAll_singleton _ _ _ (by simp)]
    rfl
  rw [exec]
  simp only [hbody]
  rfl

/-- The one call of a batch handler. -/
theorem exec_await {k : Task} {o : K.Object} {past past' : List (Event K)}
    (h : eval w ⟨imports, b, parameters⟩ (resolved k) past = (past', .ok (.object o))) :
    exec w ⟨imports, b, parameters⟩
      (.await (.call (resolved k) k.method [batchMessages, .var "env", .var "exec"])) past
      = handle w o k.method [.messages b.messages, .env, .exec] past' := by
  have hcall : eval w ⟨imports, b, parameters⟩
      (.call (resolved k) k.method [batchMessages, .var "env", .var "exec"]) past
      = invoke w (.object o) k.method [.messages b.messages, .env, .exec] past' := by
    rw [eval, Exec.bind_apply_of_ok h]
    rfl
  rw [exec, handle]
  simp only [bind, hcall]

/-- A handler is asked for and called as its task says. -/
theorem execAll_calls {k : Task} (himport : imports.any (·.names = k.consumer) = true)
    (past : List (Event K)) :
    ∃ events thrown, Served w k b past events thrown ∧
      execAll w ⟨imports, b, parameters⟩ (calls k) past
        = (past ++ .resolve k.consumer :: events, ended thrown) := by
  have hresolved := eval_resolved (w := w) (b := b) himport past
  cases hresolve : w.resolve past k.consumer with
  | error e =>
    rw [hresolve] at hresolved
    refine ⟨[], some e, by simp [Served, hresolve], ?_⟩
    cases hbatch : k.isBatch
    · rw [calls, if_neg (by simp [hbatch]), execAll, Exec.bind_apply_of_error hresolved]
      rfl
    · have hcall : eval w ⟨imports, b, parameters⟩
          (.call (resolved k) k.method [batchMessages, .var "env", .var "exec"]) past
          = (past ++ [.resolve k.consumer], .error (.raised e)) := by
        rw [eval, Exec.bind_apply_of_error hresolved]
      rw [calls, if_pos hbatch, execAll_singleton _ _ _ (by simp), exec,
        Exec.bind_apply_of_error hcall]
      rfl
  | ok o =>
    rw [hresolve] at hresolved
    have hserved : ∀ events thrown, Served w k b past events thrown ↔
        Calls w o k.method (past ++ [.resolve k.consumer]) (argumentLists k b) events thrown := by
      simp [Served, hresolve]
    simp only [hserved]
    cases hbatch : k.isBatch
    · obtain ⟨events, thrown, hcalls, hloop⟩ := forEach_handle w o k.method
        (fun m => [.message m, .env, .exec]) b.messages (past ++ [.resolve k.consumer])
      refine ⟨events, thrown, by rwa [argumentLists, if_neg (by simp [hbatch])], ?_⟩
      rw [calls, if_neg (by simp [hbatch]), execAll, Exec.bind_apply_of_ok hresolved,
        execAll_loop, hloop]
      simp
    · obtain ⟨events, thrown, hcalls, hone⟩ := exists_calls_of_handle w o k.method
        [.messages b.messages, .env, .exec] (past ++ [.resolve k.consumer])
      refine ⟨events, thrown, by rwa [argumentLists, if_pos hbatch], ?_⟩
      rw [calls, if_pos hbatch, execAll_singleton _ _ _ (by simp), exec_await hresolved, hone]
      simp

/-- The messages are acknowledged after the handler, whatever became of it. -/
theorem exec_arm {k : Task} (himport : imports.any (·.names = k.consumer) = true)
    (past : List (Event K)) :
    ∃ events thrown, Served w k b past events thrown ∧
      exec w ⟨imports, b, parameters⟩ (.block [.tryFinally (calls k) [acknowledge], .leave]) past
        = (past ++ .resolve k.consumer :: events ++ b.messages.map .ack,
          match thrown with
          | none => .ok .left
          | some e => .error (.raised e)) := by
  obtain ⟨events, thrown, hserved, hcalls⟩ := execAll_calls (w := w) (b := b) himport past
  refine ⟨events, thrown, hserved, ?_⟩
  have hack : execAll w ⟨imports, b, parameters⟩ [acknowledge]
        (past ++ .resolve k.consumer :: events)
      = (past ++ .resolve k.consumer :: events ++ b.messages.map .ack, .ok .normal) := by
    rw [acknowledge, execAll_singleton _ _ _ (by simp)]
    exact forEach_ack b.messages _
  have htry : exec w ⟨imports, b, parameters⟩ (.tryFinally (calls k) [acknowledge]) past
      = (past ++ .resolve k.consumer :: events ++ b.messages.map .ack, ended thrown) := by
    rw [exec, Exec.cleanup, hcalls]
    simp only [hack]
    rfl
  cases thrown with
  | none =>
    rw [exec, execAll, Exec.bind_apply_of_ok htry]
    · rfl
    · simp
  | some e =>
    rw [exec, execAll, Exec.bind_apply_of_error htry]
    simp

/-- Arms of other queues are passed over. -/
theorem execArms_skip {s : Scope K} {queue : String} {before : List Task} {arms : List Arm}
    {other : Exec K Completion} (h : ∀ k ∈ before, k.queue ≠ queue) :
    execArms w s queue false (before.map arm ++ arms) other
      = execArms w s queue false arms other := by
  induction before with
  | nil => rfl
  | cons k before ih =>
    have hqueue : ¬ ((false || decide (k.queue = queue)) = true) := by
      simpa using h k List.mem_cons_self
    rw [List.map_cons, List.cons_append, arm, execArms, if_neg hqueue,
      ih fun x hx => h x (List.mem_cons_of_mem k hx)]

theorem run_scriptOf (m : DispatcherModule) (w : World K) (b : Batch K) :
    run (scriptOf m) w b =
      match execArms w ⟨m.imports, b, parameters⟩ b.queue false (m.tasks.map arm)
        (execAll w ⟨m.imports, b, parameters⟩ fallback) [] with
      | (events, .ok _) => (events, none)
      | (events, .error e) => (events, some e) := by
  have hsubject : eval w ⟨m.imports, b, parameters⟩ (.member (.var "batch") "queue") []
      = ([], .ok (.text b.queue)) := rfl
  rw [run, scriptOf, execAll_singleton _ _ _ (by simp), exec, Exec.bind_apply_of_ok hsubject]
  dsimp only
  rcases hrun : execArms w ⟨m.imports, b, parameters⟩ b.queue false (m.tasks.map arm)
    (execAll w ⟨m.imports, b, parameters⟩ fallback) [] with ⟨events, e | completion⟩
  · rw [Exec.bind_apply_of_error hrun]
  · rw [Exec.bind_apply_of_ok hrun]
    rfl

/-- A batch of a queue that has a task. -/
theorem run_of_mem {m : DispatcherModule} {k : Task} (hk : k ∈ m.tasks)
    (hqueues : (m.tasks.map (·.queue)).Nodup)
    (himport : m.imports.any (·.names = k.consumer) = true) (w : World K) {b : Batch K}
    (hqueue : k.queue = b.queue) :
    ∃ events thrown, Served w k b [] events thrown ∧
      run (scriptOf m) w b
        = (.resolve k.consumer :: events ++ b.messages.map .ack, thrown.map .raised) := by
  obtain ⟨before, after, htasks⟩ := List.append_of_mem hk
  -- the queue names are distinct, so no arm before the one of the task is taken
  have hbefore : ∀ x ∈ before, x.queue ≠ b.queue := by
    intro x hx heq
    rw [htasks, List.map_append, List.map_cons, List.nodup_append] at hqueues
    exact hqueues.2.2 x.queue (List.mem_map_of_mem hx) k.queue List.mem_cons_self
      (heq.trans hqueue.symm)
  obtain ⟨events, thrown, hserved, hexec⟩ := exec_arm (w := w) (b := b) himport []
  refine ⟨events, thrown, hserved, ?_⟩
  have htaken : (false || decide (k.queue = b.queue)) = true := by simp [hqueue]
  rw [run_scriptOf, htasks, List.map_append, List.map_cons, execArms_skip hbefore, arm, execArms,
    if_pos htaken]
  cases thrown with
  | none =>
    rw [Exec.bind_apply_of_ok hexec]
    rfl
  | some e =>
    rw [Exec.bind_apply_of_error hexec]
    rfl

/-- A batch of any other queue. -/
theorem run_of_forall_ne {m : DispatcherModule} {b : Batch K}
    (h : ∀ k ∈ m.tasks, k.queue ≠ b.queue) (w : World K) :
    run (scriptOf m) w b = ([.warn ("No consumer registered for queue " ++ b.queue)], none) := by
  rw [run_scriptOf, ← List.append_nil (m.tasks.map arm), execArms_skip h]
  rfl

end Emit.DispatcherModule

/-! ### Main statement -/

open DispatcherModule in
/-- **A generated queue dispatcher acknowledges what it is given.**  What is
rendered is the text of a script that imports the class of each task.  Whatever
the container and the handlers do, a batch of a queue that has a task has the
class of this task resolved, and nothing else; then its method is called on that
object, once with all messages if the task is a batch one and else once for each,
in order and up to the first that throws, and nothing else is called; and after
that each message is acknowledged once, whether or not something was thrown, and
what was thrown is thrown on.  A batch of any other queue has nothing resolved,
called or acknowledged. -/
theorem batch_acknowledged {t : Table} {c : Config} {root : Path} {text : String}
    (hrender : render .queue t c root = .ok text) (hqueues : (t.tasks.map (·.queue)).Nodup) :
    ∃ m, dispatcherModule t c.queue root = .ok m ∧ text = linesText (scriptOf m).lines ∧
      (∀ k ∈ t.tasks, ∃ l ∈ m.imports,
        classImport t.imports root (outputDir root c.queue.output) k.consumer = .ok l) ∧
      ∀ (K : Kinds) (w : World K) (b : Batch K),
        (∀ k ∈ t.tasks, k.queue = b.queue → ∃ events thrown, Served w k b [] events thrown ∧
          run (scriptOf m) w b
            = (.resolve k.consumer :: events ++ b.messages.map .ack, thrown.map .raised)) ∧
        ((∀ k ∈ t.tasks, k.queue ≠ b.queue) → ∃ notice,
          run (scriptOf m) w b = ([.warn notice], none)) := by
  obtain ⟨m, hm, rfl⟩ := render_queue_eq_ok.mp hrender
  obtain ⟨htasks, support, classes, hclasses, himports⟩ := dispatcherModule_eq_ok hm
  have himported : ∀ k ∈ t.tasks, ∃ l ∈ m.imports,
      classImport t.imports root (outputDir root c.queue.output) k.consumer = .ok l := by
    intro k hk
    have hreferenced : k.consumer ∈ t.referenced .queue :=
      mem_sortedNames.mpr (List.mem_map_of_mem hk)
    obtain ⟨l, hl, hclass⟩ := exists_of_mem_of_mapM_eq_ok hclasses hreferenced
    exact ⟨l, himports ▸ List.mem_append_right support hl, hclass⟩
  refine ⟨m, hm, by rw [lines_scriptOf], himported, fun K w b => ⟨fun k hk hqueue => ?_,
    fun hother => ⟨_, run_of_forall_ne (htasks ▸ hother) w⟩⟩⟩
  obtain ⟨l, hl, hclass⟩ := himported k hk
  have himport : m.imports.any (·.names = k.consumer) = true :=
    List.any_eq_true.mpr ⟨l, hl, by simp [names_of_classImport hclass]⟩
  exact run_of_mem (htasks ▸ hk) (htasks ▸ hqueues) himport w hqueue

/-- A consumer of single messages and one of batches. -/
def twoConsumers : Table where
  tasks := [⟨"jobs", "run", "Jobs", false, default⟩, ⟨"mail", "send", "Mail", true, default⟩]
  imports := ({} : Imports).insertAll [⟨"Jobs", ⟨"src/consumers/jobs.ts"⟩, false⟩,
    ⟨"Mail", ⟨"src/consumers/mail.ts"⟩, true⟩]

/-- Objects are told apart by their class; the second message cannot be handled. -/
def secondFails : World ⟨String, Nat, Nat, String⟩ where
  resolve _ name := .ok name
  call past _ _ args :=
    match args with
    | .message 2 :: _ => .error "unreadable"
    | _ => .ok past.length
  settle _ _ := .ok ()

open DispatcherModule in
theorem batch_acknowledged_twoConsumers :
    (twoConsumers.tasks.map (·.queue)).Nodup ∧
    ∃ text m, render .queue twoConsumers {} ⟨"."⟩ = .ok text ∧
      text = linesText (scriptOf m).lines ∧
      (∃ events thrown,
        Served secondFails ⟨"jobs", "run", "Jobs", false, default⟩ ⟨"jobs", [1, 2, 3]⟩ []
          events thrown ∧
        run (scriptOf m) secondFails ⟨"jobs", [1, 2, 3]⟩
          = (.resolve "Jobs" :: events ++ [.ack 1, .ack 2, .ack 3], thrown.map .raised)) ∧
      ∃ notice, run (scriptOf m) secondFails ⟨"reports", [4]⟩ = ([.warn notice], none) := by
  have hnodup : (twoConsumers.tasks.map (·.queue)).Nodup := by decide
  obtain ⟨text, htext, -⟩ := exists_ok_of_map_toOption
    (r := render .queue twoConsumers {} ⟨"."⟩) (f := fun _ => ()) (b := ()) (by decide +kernel)
  obtain ⟨m, -, hscript, -, hrun⟩ := batch_acknowledged htext hnodup
  have hjobs := (hrun _ secondFails ⟨"jobs", [1, 2, 3]⟩).1 _ List.mem_cons_self rfl
  have hreports := (hrun _ secondFails ⟨"reports", [4]⟩).2 (by decide)
  exact ⟨hnodup, text, m, htext, hscript, hjobs, hreports⟩

/-- The third message is not handled, but it is acknowledged. -/
example :
    run (DispatcherModule.scriptOf ⟨[.named "Jobs" "./jobs"], "C", "E", twoConsumers.tasks⟩)
      secondFails ⟨"jobs", [1, 2, 3]⟩
    = ([.resolve "Jobs", .call "Jobs" "run" [.message 1, .env, .exec], .settle 1,
        .call "Jobs" "run" [.message 2, .env, .exec], .ack 1, .ack 2, .ack 3],
      some (.raised "unreadable")) := by
  rfl

end DispatchGen
