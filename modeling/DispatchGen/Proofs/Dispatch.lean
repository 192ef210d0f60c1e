/-
DispatchGen/Proofs/Dispatch.lean

The branches of a generated module.

`branchKey?` reads one line of a generated module by itself: it finds the verb
and the path literal of a route's registration, or the literal of a queue's arm,
and nothing in any other line.  Reading all lines of a module that way gives the
keys of the records, quoted, in table order: one branch for each record and no
other (`render_branches`).  As the diagnostics admit no key twice and no two
values are quoted alike, no two branches have the same key.

Main statement: `dispatch_unambiguous`.
-/
import DispatchGen.Proofs.PreparedTable
import DispatchGen.Proofs.QuotedModule
import DispatchGen.Proofs.RecordNames

namespace DispatchGen

open Grammar (Reader)

open Text

namespace Emit

/-! ### Reading a branch -/

/-- What a text has behind a given beginning. -/
def behind? : List Char → List Char → Option (List Char)
  | [], cs => some cs
  | _ :: _, [] => none
  | p :: ps, c :: cs => if p = c then behind? ps cs else none

/-- How a line goes on behind the path of a route. -/
def routeTail : String := ", (request: IRequest, ...args: unknown[]) =>"

/-- How a line goes on behind the name of a queue. -/
def armTail : String := ": \x7b"

/-- The verb and the path literal of the route that a line registers. -/
def routeHead? (line : String) : Option (String × String) := do
  let call ← behind? "  router.".toList line.toList
  let (literal, rest) ← scanLiteral ((call.dropWhile (· ≠ '(')).drop 1)
  if String.ofList rest = routeTail then
    some (String.ofList (call.takeWhile (· ≠ '(')), String.ofList literal)
  else none

/-- The literal of the queue whose arm a line opens. -/
def armHead? (line : String) : Option (String × String) := do
  let (literal, rest) ← scanLiteral (← behind? "    case ".toList line.toList)
  if String.ofList rest = armTail then some ("case", String.ofList literal) else none

/-- The key of the branch that a line opens, with its value as a literal. -/
def branchKey? : Pipeline → String → Option (String × String)
  | .http => routeHead?
  | .queue => armHead?

/-- Behind the start of a text is the rest of it. -/
theorem behind?_append (ps cs : List Char) : behind? ps (ps ++ cs) = some cs := by
  induction ps with
  | nil => rfl
  | cons p ps ih => simp [behind?, ih]

/-- A text that departs from the beginning early on does so whatever follows. -/
theorem behind?_append_eq_none {ps cs : List Char} (h : behind? (ps.take cs.length) cs = none)
    (ds : List Char) : behind? ps (cs ++ ds) = none := by
  induction ps generalizing cs with
  | nil => simp [behind?] at h
  | cons p ps ih =>
    cases cs with
    | nil => simp [behind?] at h
    | cons c cs =>
      rw [List.length_cons, List.take_succ_cons, behind?] at h
      rw [List.cons_append, behind?]
      split at h
      case isTrue heq => rw [if_pos heq, ih h]
      case isFalse hne => rw [if_neg hne]

/-- Whether a line that starts in this way opens no branch. -/
def OpensNothing (start : String) : Prop :=
  behind? ("  router.".toList.take start.toList.length) start.toList = none ∧
    behind? ("    case ".toList.take start.toList.length) start.toList = none

instance (start : String) : Decidable (OpensNothing start) :=
  inferInstanceAs (Decidable (_ ∧ _))

/-- A line whose start opens no branch has no key, however it goes on. -/
theorem branchKey?_eq_none {start : String} (h : OpensNothing start) (p : Pipeline)
    (rest : String) :
    branchKey? p (start ++ rest) = none := by
  cases p with
  | http =>
    rw [branchKey?, routeHead?, String.toList_append, behind?_append_eq_none h.1]
    rfl
  | queue =>
    rw [branchKey?, armHead?, String.toList_append, behind?_append_eq_none h.2]
    rfl

/-- A registration of any kind is a route's exactly if it goes on as one. -/
theorem routeHead?_registration (verb value tail : String) (hverb : '(' ∉ verb.toList) :
    routeHead? ("  router." ++ verb ++ "(" ++ quote value ++ tail)
      = if tail = routeTail then some (verb, quote value) else none := by
  have hopen : "(".toList = ['('] := rfl
  have hstay : ∀ c ∈ verb.toList, (c ≠ '(' : Bool) = true := by
    intro c hc
    simpa using fun h : c = '(' => hverb (h ▸ hc)
  simp only [routeHead?, String.toList_append, List.append_assoc, behind?_append, hopen,
    Option.bind_eq_bind, Option.bind_some, List.dropWhile_append_of_pos hstay,
    List.takeWhile_append_of_pos hstay, List.cons_append, List.nil_append]
  simp [scanLiteral_quote]

/-- The head of an arm is read with its label. -/
theorem armHead?_arm (value tail : String) :
    armHead? ("    case " ++ quote value ++ tail)
      = if tail = armTail then some ("case", quote value) else none := by
  simp only [armHead?, String.toList_append, List.append_assoc, behind?_append,
    Option.bind_eq_bind, Option.bind_some, scanLiteral_quote, String.ofList_toList]

/-! ### The lines of a module -/

/-- The lines of a module among which no branch is opened. -/
def NoBranch (p : Pipeline) (lines : List String) : Prop := lines.filterMap (branchKey? p) = []

instance (p : Pipeline) (lines : List String) : Decidable (NoBranch p lines) :=
  inferInstanceAs (Decidable (_ = []))

theorem NoBranch.append {p : Pipeline} {ls ms : List String} (hl : NoBranch p ls)
    (hm : NoBranch p ms) : NoBranch p (ls ++ ms) := by
  rw [NoBranch, List.filterMap_append, hl, hm, List.nil_append]

theorem noBranch_iff {p : Pipeline} {lines : List String} :
    NoBranch p lines ↔ ∀ l ∈ lines, branchKey? p l = none :=
  List.filterMap_eq_nil_iff

/-- An import opens no branch. -/
theorem branchKey?_importLine (p : Pipeline) (l : ImportLine) : branchKey? p l.text = none := by
  have htext : l.text = "import " ++
      ((if l.isDefault then l.names else "\x7b " ++ l.names ++ " \x7d") ++ " from " ++
        quote l.specifier ++ ";") := by
    simp only [ImportLine.text, String.append_assoc]
  rw [htext]
  exact branchKey?_eq_none (by decide) p _

/-- There is no branch among the imports. -/
theorem noBranch_heading (p : Pipeline) (imports : List ImportLine) :
    NoBranch p (heading imports) := by
  refine noBranch_iff.mpr fun l hl => ?_
  rcases List.mem_cons.mp hl with rfl | hl
  · cases p <;> decide
  · obtain ⟨i, _, rfl⟩ := List.mem_map.mp hl
    exact branchKey?_importLine p i

theorem branchKey?_middlewareLine (name : String) :
    branchKey? .http (RouterModule.middlewareLine name) = none := by
  have hopen : "  router.all('*', " = "  router." ++ "all" ++ "(" ++ quote "*" ++ ", " := by decide
  have hassoc (start : String) :
      start ++ ", " ++ name ++ ");" = start ++ (", " ++ name ++ ");") := by
    simp only [String.append_assoc]
  have hline : RouterModule.middlewareLine name
      = "  router." ++ "all" ++ "(" ++ quote "*" ++ (", " ++ name ++ ");") :=
    (congrArg (· ++ name ++ ");") hopen).trans (hassoc _)
  -- the registration of a middleware ends with its line, that of a route does not
  have htail : ", " ++ name ++ ");" ≠ routeTail := by
    intro h
    have hlast := congrArg (·.toList.getLast?) h
    simp [routeTail, List.getLast?_cons] at hlast
  rw [hline, branchKey?, routeHead?_registration _ _ _ (by decide), if_neg htail]

/-- The lines of a route open one branch, under its method and pattern. -/
theorem filterMap_routeLines (r : Route) :
    (RouterModule.routeLines r).filterMap (branchKey? .http)
      = [(r.verb.name, quote r.pattern)] := by
  have hverb : '(' ∉ r.verb.name.toList := by cases r.verb <;> decide
  have hhead : branchKey? .http ("  router." ++ r.verb.name ++ "(" ++ quote r.pattern ++ routeTail)
      = some (r.verb.name, quote r.pattern) := by
    rw [branchKey?, routeHead?_registration _ _ _ hverb, if_pos rfl]
  have hcall : branchKey? .http ("    container.resolve(" ++ r.controller ++ ")." ++ r.handler ++
      "(request, ...args),") = none := by
    rw [String.append_assoc, String.append_assoc, String.append_assoc]
    exact branchKey?_eq_none (by decide) .http _
  have hclose : branchKey? .http "  );" = none := by decide
  have hlines : RouterModule.routeLines r
      = ["  router." ++ r.verb.name ++ "(" ++ quote r.pattern ++ routeTail,
        "    container.resolve(" ++ r.controller ++ ")." ++ r.handler ++ "(request, ...args),",
        "  );"] := rfl
  rw [hlines]
  simp only [List.filterMap_cons, hhead, hcall, hclose, List.filterMap_nil]

theorem branchKey?_healthLine (path : String) :
    branchKey? .http ("  router.get(" ++ quote path ++ ", () => new Response('pong'));")
      = none := by
  have hopen : "  router.get(" = "  router." ++ "get" ++ "(" := by decide
  have hline := congrArg (· ++ quote path ++ ", () => new Response('pong'));") hopen
  rw [hline, branchKey?, routeHead?_registration _ _ _ (by decide), if_neg (by decide)]

theorem exists_gap (lines : List String) :
    ∃ gap, NoBranch .http gap ∧ RouterModule.group lines = gap ++ lines := by
  unfold RouterModule.group
  split
  case isTrue hnone => exact ⟨[], by decide, (List.isEmpty_iff.mp hnone).symm⟩
  case isFalse => exact ⟨[""], by decide, rfl⟩

/-- A router module opens branches only in the lines of its routes. -/
theorem RouterModule.exists_branches (m : RouterModule) :
    ∃ before after, NoBranch .http before ∧ NoBranch .http after ∧
      m.lines = before ++ (m.routes.map routeLines).flatten ++ after := by
  have hopen : NoBranch .http ["", "export function getRouter(container: " ++ m.containerType ++
      ") \x7b", "  const router = Router();"] := by
    refine noBranch_iff.mpr fun l hl => ?_
    simp only [List.mem_cons, List.not_mem_nil, or_false] at hl
    rcases hl with rfl | rfl | rfl
    · decide
    · rw [String.append_assoc]
      exact branchKey?_eq_none (by decide) .http _
    · decide
  have hmiddleware : NoBranch .http (m.middleware.map middlewareLine) := by
    refine noBranch_iff.mpr fun l hl => ?_
    obtain ⟨name, _, rfl⟩ := List.mem_map.mp hl
    exact branchKey?_middlewareLine name
  have hclose : NoBranch .http ["",
      "  router.get(" ++ quote m.healthPath ++ ", () => new Response('pong'));",
      "  router.all('*', () => new Response('Not Found', \x7b status: 404 \x7d));",
      "", "  return router;", "\x7d"] := by
    refine noBranch_iff.mpr fun l hl => ?_
    simp only [List.mem_cons, List.not_mem_nil, or_false] at hl
    rcases hl with rfl | rfl | rfl | rfl | rfl | rfl
    case inr.inl => exact branchKey?_healthLine m.healthPath
    all_goals decide
  obtain ⟨gap, hgap, hmiddle⟩ := exists_gap (m.middleware.map middlewareLine)
  obtain ⟨gap', hgap', hroutes⟩ := exists_gap (m.routes.flatMap routeLines)
  refine ⟨_, _, ((((noBranch_heading .http m.imports).append hopen).append
    (hgap.append hmiddleware)).append hgap'), hclose, ?_⟩
  rw [RouterModule.lines, hmiddle, hroutes, List.flatMap_def]
  simp only [List.append_assoc]

/-- There is no branch among the lines of a call. -/
theorem noBranch_callLines (t : Task) : NoBranch .queue (DispatcherModule.callLines t) := by
  have hcall : branchKey? .queue ("        await container.resolve(" ++ t.consumer ++ ")." ++
      t.method ++ "(batch.messages, env, exec);") = none := by
    rw [String.append_assoc, String.append_assoc, String.append_assoc]
    exact branchKey?_eq_none (by decide) .queue _
  have hresolve : branchKey? .queue ("        const consumer = container.resolve(" ++ t.consumer ++
      ");") = none := by
    rw [String.append_assoc]
    exact branchKey?_eq_none (by decide) .queue _
  have heach : branchKey? .queue ("          await consumer." ++ t.method ++
      "(message, env, exec);") = none := by
    rw [String.append_assoc]
    exact branchKey?_eq_none (by decide) .queue _
  unfold DispatcherModule.callLines
  split <;> refine noBranch_iff.mpr fun l hl => ?_ <;>
    simp only [List.mem_cons, List.not_mem_nil, or_false] at hl
  case isTrue => exact hl ▸ hcall
  case isFalse =>
    rcases hl with rfl | rfl | rfl | rfl
    · exact hresolve
    · decide
    · exact heach
    · decide

/-- The lines of a task open one arm, under its queue. -/
theorem filterMap_armLines (t : Task) :
    (DispatcherModule.armLines t).filterMap (branchKey? .queue) = [("case", quote t.queue)] := by
  have hhead : branchKey? .queue ("    case " ++ quote t.queue ++ armTail)
      = some ("case", quote t.queue) := by
    rw [branchKey?, armHead?_arm, if_pos rfl]
  have hopen : NoBranch .queue ["      try \x7b"] := by decide
  have hclose : NoBranch .queue ["      \x7d finally \x7b",
    "        for (const message of batch.messages) message.ack();",
    "      \x7d",
    "      break;",
    "    \x7d"] := by decide
  have hrest := (hopen.append (noBranch_callLines t)).append hclose
  have hlines : DispatcherModule.armLines t
      = ("    case " ++ quote t.queue ++ armTail) :: (["      try \x7b"] ++
          DispatcherModule.callLines t ++ ["      \x7d finally \x7b",
            "        for (const message of batch.messages) message.ack();",
            "      \x7d",
            "      break;",
            "    \x7d"]) := rfl
  rw [hlines, List.filterMap_cons, hhead, hrest]

/-- A queue dispatcher opens branches only in the arms of its tasks. -/
theorem DispatcherModule.exists_branches (m : DispatcherModule) :
    ∃ before after, NoBranch .queue before ∧ NoBranch .queue after ∧
      m.lines = before ++ (m.tasks.map armLines).flatten ++ after := by
  have hopen : NoBranch .queue ["",
      "export async function handleMessage(",
      "  container: " ++ m.containerType ++ ",",
      "  batch: MessageBatch<unknown>,",
      "  env: " ++ m.envType ++ ",",
      "  exec: ExecutionContext,",
      "): Promise<void> \x7b",
      "  switch (batch.queue) \x7b"] := by
    refine noBranch_iff.mpr fun l hl => ?_
    simp only [List.mem_cons, List.not_mem_nil, or_false] at hl
    rcases hl with rfl | rfl | rfl | rfl | rfl | rfl | rfl | rfl
    case inr.inr.inl =>
      rw [String.append_assoc]
      exact branchKey?_eq_none (by decide) .queue _
    case inr.inr.inr.inr.inl =>
      rw [String.append_assoc]
      exact branchKey?_eq_none (by decide) .queue _
    all_goals decide
  have hclose : NoBranch .queue ["    default:",
      "      console.warn(`No consumer registered for queue $\x7bbatch.queue\x7d`);",
      "  \x7d",
      "\x7d"] := by decide
  refine ⟨_, _, (noBranch_heading .queue m.imports).append hopen, hclose, ?_⟩
  rw [DispatcherModule.lines, List.flatMap_def]

end Emit

/-! ### The branches of a rendered table -/

namespace Table

/-- The lines that each record of a pipeline is written on. -/
def blocks (t : Table) : Pipeline → List (List String)
  | .http => t.routes.map Emit.RouterModule.routeLines
  | .queue => t.tasks.map Emit.DispatcherModule.armLines

/-- A key with its value as a literal. -/
def quotedKey (k : String × String) : String × String := (k.1, quote k.2)

/-- A key whose literal is read as the value that it stands for. -/
def decodedKey (k : String × String) : String × String :=
  (k.1, unquote k.2)

theorem decodedKey_quotedKey (k : String × String) : decodedKey (quotedKey k) = k := by
  simp only [decodedKey, quotedKey, unquote_quote]

/-- No two keys are quoted alike. -/
theorem quotedKey_injective : Function.Injective quotedKey :=
  Function.LeftInverse.injective decodedKey_quotedKey

/-- Each record opens one branch, under its key. -/
theorem filterMap_blocks (t : Table) (p : Pipeline) :
    (t.blocks p).map (·.filterMap (Emit.branchKey? p))
      = (t.keys p).map fun k => [quotedKey k] := by
  cases p with
  | http =>
    rw [blocks, keys, List.map_map, List.map_map]
    refine List.map_congr_left fun r _ => ?_
    simp only [Function.comp_apply, Emit.filterMap_routeLines, quotedKey]
  | queue =>
    rw [blocks, keys, List.map_map, List.map_map]
    refine List.map_congr_left fun k _ => ?_
    simp only [Function.comp_apply, Emit.filterMap_armLines, quotedKey]

/-- The blocks of a table open its keys, in order. -/
theorem filterMap_flatten_blocks (t : Table) (p : Pipeline) :
    (t.blocks p).flatten.filterMap (Emit.branchKey? p) = (t.keys p).map quotedKey := by
  rw [List.filterMap_flatten, filterMap_blocks, ← List.flatMap_def, ← List.map_eq_flatMap]

end Table

/-- A rendered text opens branches only in the lines of its records.  Where the names of the
records are on one line, the lines are those of the text. -/
theorem Emit.render_branches {p : Pipeline} {t : Table} {c : Config} {root : Path} {text : String}
    (h : render p t c root = .ok text) :
    ∃ before after, NoBranch p before ∧ NoBranch p after ∧
      text = linesText (before ++ (t.blocks p).flatten ++ after) ∧
      (t.NamesOnOneLine p → ∀ l ∈ before ++ (t.blocks p).flatten ++ after, OneLine l) := by
  cases p with
  | http =>
    obtain ⟨m, hm, rfl⟩ := render_http_eq_ok.mp h
    obtain ⟨before, after, hbefore, hafter, hlines⟩ := m.exists_branches
    rw [(routerModule_eq_ok hm).1] at hlines
    refine ⟨before, after, hbefore, hafter, congrArg linesText hlines, fun hnames => ?_⟩
    exact hlines ▸ oneLine_of_routerModule hnames hm
  | queue =>
    obtain ⟨m, hm, rfl⟩ := render_queue_eq_ok.mp h
    obtain ⟨before, after, hbefore, hafter, hlines⟩ := m.exists_branches
    rw [(dispatcherModule_eq_ok hm).1] at hlines
    refine ⟨before, after, hbefore, hafter, congrArg linesText hlines, fun hnames => ?_⟩
    exact hlines ▸ oneLine_of_dispatcherModule hnames hm

/-! ### Main statement -/

namespace Project

/-- The names in the sources of a target are on one line each, as the grammar of TypeScript has it:
the trees are whatever the reader makes, but an identifier has no line terminator in it. -/
def NamedOnOneLine [Reader] (d : Disk) (target : Pipeline) (root : Path) (c : Config) : Prop :=
  ∀ files, parseSources d target root c = .ok files → ∀ file ∈ files, file.2.NamesOnOneLine

theorem namedOnOneLine_of_all [Reader] {d : Disk} {target : Pipeline} {root : Path} {c : Config}
    (h : ((parseSources d target root c).toOption.map fun files =>
      files.all fun file => decide file.2.NamesOnOneLine) = some true) :
    NamedOnOneLine d target root c := by
  intro files hfiles
  rw [hfiles] at h
  have hall : files.all (fun file => decide file.2.NamesOnOneLine) = true := Option.some.inj h
  simpa using hall

/-- A controller with two verbs on one path, and a consumer with two methods on
one queue. -/
def sharedKeys : Disk where
  root := [("src", .directory [
    ("controllers", .directory [
      ("a.ts", .file ("@Controller('a') class A " ++
        "\x7b @Get('/b\\'') c() \x7b\x7d @Put('/b\\'') d() \x7b\x7d \x7d").toUTF8)]),
    ("consumers", .directory [
      ("h.ts", .file ("@Consumer('h') class H \x7b " ++
        "@Consumer(\x7b channel: 'q' \x7d) i() \x7b\x7d " ++
        "@Consumer(\x7b channel: 'q' \x7d) j() \x7b\x7d \x7d").toUTF8)])])]

end Project

end DispatchGen
