/-
DispatchGen/Proofs/QuotedModule.lean

Values in a generated module.

Routes, queue names, packages and import specifiers come from the scanned
sources and the configuration, and a generated module takes them over between
quotes.  Here they are found again in its text: each stands there enclosed in
its own quotes (`RouterModule.enclosed`, `DispatcherModule.enclosed`), and if no
name that is spliced in bare holds a quote, the literals of the whole text are
the ones that were written, in order, and no others (`RouterModule.literals_text`,
`DispatcherModule.literals_text`).

Main statement: `quote_selfDelimiting`.
-/
import DispatchGen.Proofs.Quotation
import DispatchGen.Proofs.Rendering

namespace DispatchGen.Emit

open Text

/-! ### Values in a generated module -/

/-- `value` is quoted somewhere in `text`, and a scan that starts there ends at
the closing quote that was written for it. -/
def Enclosed (value text : String) : Prop :=
  ∃ before after, text.toList = before ++ ((quote value).toList ++ after) ∧
    scanLiteral ((quote value).toList ++ after) = some ((quote value).toList, after)

/-- The values that a router module writes between quotes. -/
def RouterModule.quoted (m : RouterModule) : List String :=
  m.imports.map (·.specifier) ++ m.routes.map (·.pattern) ++ [m.healthPath]

/-- The values that a queue dispatcher writes between quotes. -/
def DispatcherModule.quoted (m : DispatcherModule) : List String :=
  m.imports.map (·.specifier) ++ m.tasks.map (·.queue)

/-- What is quoted in a line is enclosed in a text that has the line. -/
theorem enclosed_of_mem (before value after : String) {lines : List String}
    (h : before ++ quote value ++ after ∈ lines) : Enclosed value (linesText lines) := by
  obtain ⟨above, below, rfl⟩ := List.append_of_mem h
  refine ⟨(linesText above ++ before).toList, (after ++ "\n" ++ linesText below).toList, ?_,
    scanLiteral_quote value _⟩
  simp [linesText_append, linesText_cons]

/-- Every value that a router quotes stands in its text as a literal. -/
theorem RouterModule.enclosed (m : RouterModule) {value : String} (h : value ∈ m.quoted) :
    Enclosed value (linesText m.lines) := by
  simp only [RouterModule.quoted, List.mem_append, List.mem_map, List.mem_singleton] at h
  rcases h with (⟨l, hl, rfl⟩ | ⟨r, hr, rfl⟩) | rfl
  · exact enclosed_of_mem _ _ ";" (text_mem_lines hl)
  · have hline : "  router." ++ r.verb.name ++ "(" ++ quote r.pattern ++
        ", (request: IRequest, ...args: unknown[]) =>" ∈ m.lines := by
      simp only [RouterModule.lines, List.mem_append]
      exact .inl (.inr (mem_group (List.mem_flatMap.mpr ⟨r, hr, List.mem_cons_self⟩)))
    exact enclosed_of_mem _ _ _ hline
  · have hline : "  router.get(" ++ quote m.healthPath ++ ", () => new Response('pong'));"
        ∈ m.lines := by
      simp [RouterModule.lines]
    exact enclosed_of_mem _ _ _ hline

/-- Every value that a dispatcher quotes stands in its text as a literal. -/
theorem DispatcherModule.enclosed (m : DispatcherModule) {value : String}
    (h : value ∈ m.quoted) : Enclosed value (linesText m.lines) := by
  simp only [DispatcherModule.quoted, List.mem_append, List.mem_map] at h
  rcases h with ⟨l, hl, rfl⟩ | ⟨t, ht, rfl⟩
  · exact enclosed_of_mem _ _ ";" (text_mem_lines hl)
  · have hline : "    case " ++ quote t.queue ++ ": \x7b" ∈ m.lines := by
      simp only [DispatcherModule.lines, List.mem_append, List.mem_flatMap]
      exact .inl (.inr ⟨t, ht, by simp [armLines]⟩)
    exact enclosed_of_mem _ _ _ hline

/-! ### The literals of a whole module -/

/-- The literals of `text` are the quotations of `values`, whatever follows. -/
def Quotes (text : String) (values : List String) : Prop :=
  ∀ rest, literals (text.toList ++ rest)
    = (literals rest).map (values.map (fun v => (quote v).toList) ++ ·)

/-- Text without a quote. -/
def Bare (text : String) : Prop := '\'' ∉ text.toList

instance (text : String) : Decidable (Bare text) :=
  inferInstanceAs (Decidable ('\'' ∉ text.toList))

theorem Quotes.bare {text : String} (h : Bare text) : Quotes text [] := by
  intro rest
  rw [literals_append_of_not_mem h]
  cases literals rest <;> rfl

/-- A quoted value is one literal. -/
theorem Quotes.quoted (value : String) : Quotes (quote value) [value] := by
  intro rest
  rw [literals_quote_append]
  rfl

/-- The literals of two texts stand one after another. -/
theorem Quotes.append {s t : String} {us vs : List String} (hs : Quotes s us)
    (ht : Quotes t vs) : Quotes (s ++ t) (us ++ vs) := by
  intro rest
  rw [String.toList_append, List.append_assoc, hs, ht]
  cases literals rest <;> simp

@[simp] theorem bare_append {s t : String} : Bare (s ++ t) ↔ Bare s ∧ Bare t := by
  simp [Bare, not_or]

/-- A value between two stretches of text without quotes. -/
theorem Quotes.between (before value after : String) (hb : Bare before) (ha : Bare after) :
    Quotes (before ++ quote value ++ after) [value] :=
  ((Quotes.bare hb).append (Quotes.quoted value)).append (Quotes.bare ha)

/-- The end of a line is no literal. -/
theorem Quotes.line {l : String} {values : List String} (h : Quotes l values) :
    Quotes (linesText [l]) values := by
  have hend : Bare "\n" := by decide
  have hlines : linesText [l] = l ++ "\n" := by simp [linesText]
  rw [hlines, ← List.append_nil values]
  exact h.append (Quotes.bare hend)

theorem Quotes.lines_append {ls ms : List String} {us vs : List String}
    (hl : Quotes (linesText ls) us) (hm : Quotes (linesText ms) vs) :
    Quotes (linesText (ls ++ ms)) (us ++ vs) := by
  rw [linesText_append]
  exact hl.append hm

theorem Quotes.lines_bare {ls : List String} (h : ∀ l ∈ ls, Bare l) :
    Quotes (linesText ls) [] := by
  induction ls with
  | nil => exact Quotes.bare (by decide)
  | cons l ls ih =>
    have hl := (Quotes.bare (h l List.mem_cons_self)).line
    exact hl.lines_append (ih fun k hk => h k (List.mem_cons_of_mem l hk))

/-- Lines that are made item by item quote their values item by item. -/
theorem Quotes.lines_flatMap {α : Type} {xs : List α} {f g : α → List String}
    (h : ∀ x ∈ xs, Quotes (linesText (f x)) (g x)) :
    Quotes (linesText (xs.flatMap f)) (xs.flatMap g) := by
  induction xs with
  | nil => exact Quotes.lines_bare (by simp)
  | cons x xs ih =>
    rw [List.flatMap_cons, List.flatMap_cons]
    exact (h x List.mem_cons_self).lines_append
      (ih fun y hy => h y (List.mem_cons_of_mem x hy))

theorem Quotes.lines_map {α : Type} {xs : List α} {f g : α → String}
    (h : ∀ x ∈ xs, Quotes (f x) [g x]) : Quotes (linesText (xs.map f)) (xs.map g) := by
  have hmap : ∀ k : α → String, xs.map k = xs.flatMap fun x => [k x] := fun k => by
    rw [List.map_eq_flatMap]
  rw [hmap f, hmap g]
  exact Quotes.lines_flatMap fun x hx => (h x hx).line

theorem Quotes.group {ls values : List String} (h : Quotes (linesText ls) values) :
    Quotes (linesText (RouterModule.group ls)) values := by
  unfold RouterModule.group
  split
  case isTrue hnone =>
    rw [List.isEmpty_iff.mp hnone] at h
    exact h
  case isFalse =>
    have hempty : Quotes (linesText [""]) [] := (Quotes.bare (by decide)).line
    exact hempty.lines_append h

/-- Imports quote their specifiers. -/
theorem Quotes.heading {imports : List ImportLine} (h : ∀ l ∈ imports, Bare l.names) :
    Quotes (linesText (heading imports)) (imports.map (·.specifier)) := by
  have hcomment : Quotes (linesText ["// Code generated by edgeroute-gen. DO NOT EDIT."]) [] :=
    (Quotes.bare (by decide)).line
  refine hcomment.lines_append (Quotes.lines_map fun l hl => ?_)
  have hnames := h l hl
  rw [ImportLine.text]
  refine Quotes.between ("import " ++ _ ++ " from ") l.specifier ";" ?_ (by decide)
  split <;> simp +decide [hnames]

/-- No name that a router module splices in bare holds a quote. -/
structure RouterModule.Plain (m : RouterModule) : Prop where
  imports : ∀ l ∈ m.imports, Bare l.names
  container : Bare m.containerType
  middleware : ∀ name ∈ m.middleware, Bare name
  routes : ∀ r ∈ m.routes, Bare r.controller ∧ Bare r.handler

/-- No name that a queue dispatcher splices in bare holds a quote. -/
structure DispatcherModule.Plain (m : DispatcherModule) : Prop where
  imports : ∀ l ∈ m.imports, Bare l.names
  container : Bare m.containerType
  env : Bare m.envType
  tasks : ∀ t ∈ m.tasks, Bare t.consumer ∧ Bare t.method

theorem Quotes.middlewareLine {name : String} (h : Bare name) :
    Quotes (RouterModule.middlewareLine name) ["*"] := by
  have hopen : Quotes "  router.all('*', " ["*"] := by
    have htext : "  router.all('*', " = "  router.all(" ++ quote "*" ++ ", " := by decide
    rw [htext]
    exact Quotes.between _ _ _ (by decide) (by decide)
  exact (hopen.append (Quotes.bare h)).append (Quotes.bare (by decide))

/-- A route quotes its pattern. -/
theorem Quotes.routeLines {r : Route} (h : Bare r.controller ∧ Bare r.handler) :
    Quotes (linesText (RouterModule.routeLines r)) [r.pattern] := by
  have hverb : Bare r.verb.name := by cases r.verb <;> decide
  have hhead : Quotes ("  router." ++ r.verb.name ++ "(" ++ quote r.pattern ++
      ", (request: IRequest, ...args: unknown[]) =>") [r.pattern] :=
    Quotes.between _ _ _ (by simp +decide [hverb]) (by decide)
  refine hhead.line.lines_append (Quotes.lines_bare fun l hl => ?_)
  simp only [List.mem_cons, List.not_mem_nil, or_false] at hl
  rcases hl with rfl | rfl <;> simp +decide [h.1, h.2]

theorem bare_of_mem_callLines {t : Task} (h : Bare t.consumer ∧ Bare t.method) {l : String}
    (hl : l ∈ DispatcherModule.callLines t) : Bare l := by
  unfold DispatcherModule.callLines at hl
  split at hl <;> simp only [List.mem_cons, List.not_mem_nil, or_false] at hl
  · subst hl
    simp +decide [h.1, h.2]
  · rcases hl with rfl | rfl | rfl | rfl <;> simp +decide [h.1, h.2]

/-- A task quotes its queue. -/
theorem Quotes.armLines {t : Task} (h : Bare t.consumer ∧ Bare t.method) :
    Quotes (linesText (DispatcherModule.armLines t)) [t.queue] := by
  have hhead : Quotes ("    case " ++ quote t.queue ++ ": \x7b") [t.queue] :=
    Quotes.between _ _ _ (by decide) (by decide)
  have hopen : Quotes (linesText ["      try \x7b"]) [] := Quotes.lines_bare (by decide)
  have hcall : Quotes (linesText (DispatcherModule.callLines t)) [] :=
    Quotes.lines_bare fun l hl => bare_of_mem_callLines h hl
  have hclose : Quotes (linesText ["      \x7d finally \x7b",
      "        for (const message of batch.messages) message.ack();", "      \x7d",
      "      break;", "    \x7d"]) [] := Quotes.lines_bare (by decide)
  exact ((hhead.line.lines_append hopen).lines_append hcall).lines_append hclose

/-- The literals of a router module: those of its imports, of the middleware
and the routes, and the four of its last registrations. -/
theorem RouterModule.literals_text {m : RouterModule} (h : m.Plain) :
    literals (linesText m.lines).toList
      = some ((m.imports.map (·.specifier) ++ m.middleware.map (fun _ => "*") ++
          m.routes.map (·.pattern) ++ [m.healthPath, "pong", "*", "Not Found"]).map
            fun v => (quote v).toList) := by
  have hopen : Quotes (linesText ["", "export function getRouter(container: " ++
      m.containerType ++ ") \x7b", "  const router = Router();"]) [] := by
    refine Quotes.lines_bare fun l hl => ?_
    simp only [List.mem_cons, List.not_mem_nil, or_false] at hl
    rcases hl with rfl | rfl | rfl <;> simp +decide [h.container]
  have hmiddleware : Quotes (linesText (group (m.middleware.map middlewareLine)))
      (m.middleware.map fun _ => "*") :=
    (Quotes.lines_map fun name hname => Quotes.middlewareLine (h.middleware name hname)).group
  have hroutes : Quotes (linesText (group (m.routes.flatMap routeLines)))
      (m.routes.map (·.pattern)) := by
    rw [List.map_eq_flatMap]
    exact (Quotes.lines_flatMap fun r hr => Quotes.routeLines (h.routes r hr)).group
  have hhealth : Quotes ("  router.get(" ++ quote m.healthPath ++
      ", () => new Response('pong'));") [m.healthPath, "pong"] := by
    have hpong : ", () => new Response('pong'));"
        = ", () => new Response(" ++ (quote "pong" ++ "));") := by decide
    rw [hpong, ← String.append_assoc]
    exact (Quotes.between _ _ _ (by decide) (by decide)).append
      ((Quotes.quoted "pong").append (Quotes.bare (by decide)))
  have hall : Quotes "  router.all('*', () => new Response('Not Found', \x7b status: 404 \x7d));"
      ["*", "Not Found"] := by
    have htext : "  router.all('*', () => new Response('Not Found', \x7b status: 404 \x7d));"
        = ("  router.all(" ++ quote "*" ++ ", () => new Response(") ++
          (quote "Not Found" ++ ", \x7b status: 404 \x7d));") := by decide
    rw [htext]
    exact (Quotes.between _ _ _ (by decide) (by decide)).append
      ((Quotes.quoted "Not Found").append (Quotes.bare (by decide)))
  have hempty : Quotes (linesText [""]) [] := Quotes.lines_bare (by decide)
  have hclose : Quotes (linesText ["", "  return router;", "\x7d"]) [] :=
    Quotes.lines_bare (by decide)
  have hlast := hempty.lines_append (hhealth.line.lines_append (hall.line.lines_append hclose))
  -- the module is these parts in order, and nothing follows it
  have hmodule := ((((Quotes.heading h.imports).lines_append hopen).lines_append
    hmiddleware).lines_append hroutes).lines_append hlast
  have hread := hmodule []
  simpa [literals, RouterModule.lines] using hread

/-- The literals of a queue dispatcher: those of its imports and of its arms. -/
theorem DispatcherModule.literals_text {m : DispatcherModule} (h : m.Plain) :
    literals (linesText m.lines).toList
      = some ((m.imports.map (·.specifier) ++ m.tasks.map (·.queue)).map
          fun v => (quote v).toList) := by
  have hopen : Quotes (linesText ["", "export async function handleMessage(",
      "  container: " ++ m.containerType ++ ",", "  batch: MessageBatch<unknown>,",
      "  env: " ++ m.envType ++ ",", "  exec: ExecutionContext,", "): Promise<void> \x7b",
      "  switch (batch.queue) \x7b"]) [] := by
    refine Quotes.lines_bare fun l hl => ?_
    simp only [List.mem_cons, List.not_mem_nil, or_false] at hl
    rcases hl with rfl | rfl | rfl | rfl | rfl | rfl | rfl | rfl <;>
      simp +decide [h.container, h.env]
  have htasks : Quotes (linesText (m.tasks.flatMap armLines)) (m.tasks.map (·.queue)) := by
    rw [List.map_eq_flatMap]
    exact Quotes.lines_flatMap fun t ht => Quotes.armLines (h.tasks t ht)
  have hclose : Quotes (linesText ["    default:",
      "      console.warn(`No consumer registered for queue $\x7bbatch.queue\x7d`);",
      "  \x7d", "\x7d"]) [] := Quotes.lines_bare (by decide)
  have hmodule := (((Quotes.heading h.imports).lines_append hopen).lines_append
    htasks).lines_append hclose
  have hread := hmodule []
  simpa [literals, DispatcherModule.lines] using hread

/-! ### Main statement -/

/-- **A quoted value delimits itself.**  A scan that starts at its literal ends
with it, whatever text follows, and the literal reads as the value; so no two
values share a literal.  Hence every value that a generated module quotes is
enclosed there in its own quotes, and where the names spliced in bare hold no
quote, the literals of the whole text are those that were written, in order. -/
theorem quote_selfDelimiting :
    (∀ (value : String) (rest : List Char),
      scanLiteral ((quote value).toList ++ rest) = some ((quote value).toList, rest) ∧
      String.ofList (unescape (stripQuotes (quote value).toList)) = value) ∧
    Function.Injective quote ∧
    (∀ m : RouterModule,
      (∀ value ∈ m.quoted, Enclosed value (linesText m.lines)) ∧
      (m.Plain → literals (linesText m.lines).toList
        = some ((m.imports.map (·.specifier) ++ m.middleware.map (fun _ => "*") ++
            m.routes.map (·.pattern) ++ [m.healthPath, "pong", "*", "Not Found"]).map
              fun v => (quote v).toList))) ∧
    ∀ m : DispatcherModule,
      (∀ value ∈ m.quoted, Enclosed value (linesText m.lines)) ∧
      (m.Plain → literals (linesText m.lines).toList
        = some ((m.imports.map (·.specifier) ++ m.tasks.map (·.queue)).map
            fun v => (quote v).toList)) := by
  refine ⟨fun value rest => ⟨scanLiteral_quote value rest, unquote_quote value⟩,
    quote_injective, fun m => ⟨fun _ h => m.enclosed h, fun h => ?_⟩,
    fun m => ⟨fun _ h => m.enclosed h, fun h => ?_⟩⟩
  · exact RouterModule.literals_text h
  · exact DispatcherModule.literals_text h

/-- A router whose route tries to close its quotes and to end the line. -/
def hostileRouter : RouterModule where
  imports := [.named "Router, IRequest" "it's\\", ⟨"Items", true, "./items\u2028"⟩]
  containerType := "DependencyContainer"
  middleware := ["cors"]
  routes := [⟨.get, "/'); process.exit('\n", "list", "Items", ⟨⟨"src/items.ts"⟩, 3⟩⟩]
  healthPath := "/\x00'"

/-- A dispatcher whose queue name tries to close its quotes. -/
def hostileDispatcher : DispatcherModule where
  imports := [.named "Orders" "./orders'"]
  containerType := "DependencyContainer"
  envType := "Env"
  tasks := [⟨"\\': default:", "handle", "Orders", true, ⟨⟨"src/orders.ts"⟩, 7⟩⟩]

theorem quote_selfDelimiting_hostile :
    "/'); process.exit('\n" ∈ hostileRouter.quoted ∧ hostileRouter.Plain ∧
    "\\': default:" ∈ hostileDispatcher.quoted ∧ hostileDispatcher.Plain ∧
    Enclosed "/'); process.exit('\n" (linesText hostileRouter.lines) ∧
    literals (linesText hostileRouter.lines).toList
      = some ((["it's\\", "./items\u2028", "*", "/'); process.exit('\n", "/\x00'", "pong", "*",
          "Not Found"]).map fun v => (quote v).toList) ∧
    Enclosed "\\': default:" (linesText hostileDispatcher.lines) ∧
    literals (linesText hostileDispatcher.lines).toList
      = some (["./orders'", "\\': default:"].map fun v => (quote v).toList) := by
  have hroute : "/'); process.exit('\n" ∈ hostileRouter.quoted := by
    simp [RouterModule.quoted, hostileRouter]
  have hrouter : hostileRouter.Plain := ⟨by decide, by decide, by decide, by decide⟩
  have hqueue : "\\': default:" ∈ hostileDispatcher.quoted := by
    simp [DispatcherModule.quoted, hostileDispatcher]
  have hdispatcher : hostileDispatcher.Plain := ⟨by decide, by decide, by decide, by decide⟩
  obtain ⟨-, -, router, dispatcher⟩ := quote_selfDelimiting
  exact ⟨hroute, hrouter, hqueue, hdispatcher, (router hostileRouter).1 _ hroute,
    (router hostileRouter).2 hrouter, (dispatcher hostileDispatcher).1 _ hqueue,
    (dispatcher hostileDispatcher).2 hdispatcher⟩

end DispatchGen.Emit
