/-
DispatchGen/Proofs/LosslessRendering.lean

A generated module tells what it was generated from.

Route patterns and queue names are arbitrary text and may imitate the code around
them, so nothing is searched for in the text: it is taken apart from its start.
No line ends inside a line (`linesText_inj`), the first empty line ends the
imports (`append_cons_inj`), and what a branch starts with says how long it is
(`Branch.lines_append_inj`), so a sequence of branches splits in one way only.
That the names between the quoted values are names is what tells two lines of a
branch apart.

Main statement: `render_eq_iff`.
-/
import DispatchGen.Proofs.ModuleLines
import DispatchGen.Proofs.PreparedTable
import DispatchGen.Proofs.QuotedModule
import DispatchGen.Proofs.Regeneration

namespace DispatchGen

open Grammar (Reader)

open Text

/-! ### Branches -/

/-- What a branch of a generated module is made of. -/
inductive Branch where
  | route (verb : Verb) (pattern controller handler : String)
  | arm (queue consumer method : String) (isBatch : Bool)
deriving DecidableEq, Repr

namespace Branch

/-- The names that a branch splices into code as they stand. -/
def names : Branch → List String
  | route _ _ controller handler => [controller, handler]
  | arm _ consumer method _ => [consumer, method]

def ofRoute (r : Route) : Branch := route r.verb r.pattern r.controller r.handler

def ofTask (k : Task) : Branch := arm k.queue k.consumer k.method k.isBatch

/-- The lines of a branch.  Where its record was declared does not show. -/
def lines : Branch → List String
  | route verb pattern controller handler =>
      Emit.RouterModule.routeLines ⟨verb, pattern, handler, controller, default⟩
  | arm queue consumer method isBatch =>
      Emit.DispatcherModule.armLines ⟨queue, method, consumer, isBatch, default⟩

theorem lines_ofRoute (r : Route) : (ofRoute r).lines = Emit.RouterModule.routeLines r := rfl

theorem lines_ofTask (k : Task) : (ofTask k).lines = Emit.DispatcherModule.armLines k := rfl

end Branch

/-- The branches that a pipeline emits for the records of a table, in order. -/
def Table.branches (t : Table) : Pipeline → List Branch
  | .http => t.routes.map Branch.ofRoute
  | .queue => t.tasks.map Branch.ofTask

namespace Emit

/-- Two tables have the same branches in the same order, and import the same
classes by the same lines. -/
def SameDispatch (p : Pipeline) (c : Config) (root : Path) (t u : Table) : Prop :=
  t.branches p = u.branches p ∧
    classImports t p root (outputDir root (c.output p))
      = classImports u p root (outputDir root (c.output p))

/-! ### Cutting at a mark -/

/-- Two lists that are equal are cut alike at the first `mark`. -/
theorem append_cons_inj {α : Type} {mark : α} {as bs xs ys : List α} (ha : mark ∉ as)
    (hb : mark ∉ bs) : as ++ mark :: xs = bs ++ mark :: ys ↔ as = bs ∧ xs = ys := by
  induction as generalizing bs with
  | nil =>
    cases bs with
    | nil => simp
    | cons b bs => simp [List.ne_of_not_mem_cons hb]
  | cons a as ih =>
    cases bs with
    | nil => simp [(List.ne_of_not_mem_cons ha).symm]
    | cons b bs =>
      have hinner := ih (List.not_mem_of_not_mem_cons ha) (List.not_mem_of_not_mem_cons hb)
      simp [hinner, and_assoc]

/-- Blocks that can be told from what follows them make lists that can be told
apart. -/
theorem eq_of_flatMap_eq {α β : Type} {f : α → List β} {xs ys : List α}
    (hne : ∀ x, f x ≠ [])
    (hinj : ∀ x ∈ xs, ∀ y ∈ ys, ∀ r s, f x ++ r = f y ++ s → x = y ∧ r = s)
    (h : xs.flatMap f = ys.flatMap f) : xs = ys := by
  induction xs generalizing ys with
  | nil =>
    cases ys with
    | nil => rfl
    | cons y ys => simp [hne y] at h
  | cons x xs ih =>
    cases ys with
    | nil => simp [hne x] at h
    | cons y ys =>
      obtain ⟨rfl, hrest⟩ := hinj x List.mem_cons_self y List.mem_cons_self _ _ h
      refine congrArg (x :: ·) (ih (fun a ha b hb => ?_) hrest)
      exact hinj a (List.mem_cons_of_mem x ha) b (List.mem_cons_of_mem x hb)

/-! ### Lines -/

/-- A text of lines is the text of those lines only. -/
theorem linesText_inj {ls ms : List String} (hl : ∀ l ∈ ls, OneLine l)
    (hm : ∀ l ∈ ms, OneLine l) : linesText ls = linesText ms ↔ ls = ms := by
  refine ⟨fun h => ?_, fun h => h ▸ rfl⟩
  have hline : ∀ l ∈ ls, ∀ m ∈ ms, ∀ r s,
      (l.toList ++ ['\n']) ++ r = (m.toList ++ ['\n']) ++ s → l = m ∧ r = s := by
    intro l hl' m hm' r s heq
    simp only [List.append_assoc, List.singleton_append] at heq
    obtain ⟨htext, hrest⟩ := (append_cons_inj (hl l hl') (hm m hm')).mp heq
    exact ⟨String.toList_inj.mp htext, hrest⟩
  refine eq_of_flatMap_eq (by simp) hline ?_
  rw [← toList_linesText, ← toList_linesText, h]

/-- Quoted values between the same stretches of code are told apart by the first
quote. -/
theorem append_quote_inj {a b after v w : String} (ha : Bare a) (hb : Bare b) :
    a ++ quote v ++ after = b ++ quote w ++ after ↔ a = b ∧ v = w := by
  constructor
  · intro h
    have hchars := congrArg String.toList h
    simp only [String.toList_append, toList_quote, List.append_assoc, List.cons_append] at hchars
    obtain ⟨hbefore, -⟩ := (append_cons_inj ha hb).mp hchars
    obtain rfl := String.toList_inj.mp hbefore
    rw [String.append_left_inj, String.append_right_inj] at h
    exact ⟨rfl, quote_injective h⟩
  · rintro ⟨rfl, rfl⟩
    rfl

/-! ### Import lines -/

theorem bare_of_isBindingName {name : String} (h : isBindingName name = true) : Bare name :=
  notMem_of_isBindingName h (by decide +kernel)

/-- A name without braces is a default import. -/
theorem ImportLine.binding_inj {l m : ImportLine} (hl : isBindingName l.names = true)
    (hm : isBindingName m.names = true) (h : l.binding = m.binding) :
    l.names = m.names ∧ l.isDefault = m.isDefault := by
  have hbrace : isBindingPart '\x7b' = false := by decide +kernel
  have hno : ∀ {name other : String}, isBindingName name = true →
      name ≠ "\x7b " ++ other ++ " \x7d" := by
    rintro name other hname rfl
    exact notMem_of_isBindingName hname hbrace (by simp)
  unfold binding at h
  cases hld : l.isDefault <;> cases hmd : m.isDefault <;>
    simp only [hld, hmd, if_true, if_false, Bool.false_eq_true] at h
  · rw [String.append_left_inj, String.append_right_inj] at h
    exact ⟨h, rfl⟩
  · exact absurd h.symm (hno hm)
  · exact absurd h (hno hl)
  · exact ⟨h, rfl⟩

theorem ImportLine.text_inj {l m : ImportLine} (hl : isBindingName l.names = true)
    (hm : isBindingName m.names = true) (h : l.text = m.text) : l = m := by
  have hbare : ∀ {l : ImportLine}, isBindingName l.names = true →
      Bare ("import " ++ l.binding ++ " from ") := by
    intro l hl
    have hname := bare_of_isBindingName hl
    unfold binding
    split <;> simp +decide [hname]
  obtain ⟨hbefore, hspecifier⟩ := (append_quote_inj (hbare hl) (hbare hm)).mp h
  rw [String.append_left_inj, String.append_right_inj] at hbefore
  obtain ⟨hnames, hdefault⟩ := binding_inj hl hm hbefore
  cases l
  cases m
  cases hnames
  cases hdefault
  cases hspecifier
  rfl

theorem map_text_inj {ls ms : List ImportLine} (hl : ∀ l ∈ ls, isBindingName l.names = true)
    (hm : ∀ l ∈ ms, isBindingName l.names = true)
    (h : ls.map ImportLine.text = ms.map ImportLine.text) : ls = ms := by
  simp only [List.map_eq_flatMap] at h
  refine eq_of_flatMap_eq (by simp) (fun l hl' m hm' r s heq => ?_) h
  rw [List.singleton_append, List.singleton_append, List.cons.injEq] at heq
  exact ⟨ImportLine.text_inj (hl l hl') (hm m hm') heq.1, heq.2⟩

end Emit

/-! ### Branches, line by line -/

namespace Branch

open Emit

/-- The names of a branch can be told from the code around them. -/
def Named (b : Branch) : Prop := ∀ name ∈ b.names, isBindingName name = true

instance (b : Branch) : Decidable b.Named :=
  inferInstanceAs (Decidable (∀ name ∈ b.names, isBindingName name = true))

theorem named_route {verb : Verb} {pattern controller handler : String} :
    (route verb pattern controller handler).Named ↔
      isBindingName controller = true ∧ isBindingName handler = true := by
  simp [Named, names]

theorem named_arm {queue consumer method : String} {isBatch : Bool} :
    (arm queue consumer method isBatch).Named ↔
      isBindingName consumer = true ∧ isBindingName method = true := by
  simp [Named, names]

/-- A call of a method is read up to the closing parenthesis behind the class. -/
theorem call_inj {before after a m b n : String} (ha : isBindingName a = true)
    (hb : isBindingName b = true) :
    before ++ a ++ ")." ++ m ++ after = before ++ b ++ ")." ++ n ++ after ↔ a = b ∧ m = n := by
  have hparen : isBindingPart ')' = false := by decide +kernel
  constructor
  · intro h
    have hchars := congrArg String.toList h
    simp only [String.append_assoc] at hchars
    have hcut : a.toList ++ ')' :: ('.' :: (m.toList ++ after.toList))
        = b.toList ++ ')' :: ('.' :: (n.toList ++ after.toList)) := by
      simpa using hchars
    obtain ⟨hclass, -⟩ := (append_cons_inj (notMem_of_isBindingName ha hparen)
      (notMem_of_isBindingName hb hparen)).mp hcut
    obtain rfl := String.toList_inj.mp hclass
    rw [String.append_left_inj, String.append_right_inj] at h
    exact ⟨rfl, h⟩
  · rintro ⟨rfl, rfl⟩
    rfl

/-- The first line of a registration. -/
theorem registration_inj {v w : Verb} {pattern pattern' after : String} :
    "  router." ++ v.name ++ "(" ++ quote pattern ++ after
        = "  router." ++ w.name ++ "(" ++ quote pattern' ++ after ↔
      v = w ∧ pattern = pattern' := by
  have hbare : ∀ v : Verb, Bare ("  router." ++ v.name ++ "(") := by
    intro v
    cases v <;> decide
  rw [append_quote_inj (hbare v) (hbare w), String.append_left_inj, String.append_right_inj,
    Verb.name_injective.eq_iff]

/-- The lines of a branch, read from its start, give the branch and what follows
it. -/
theorem lines_append_inj {a b : Branch} (ha : a.Named) (hb : b.Named) {r s : List String}
    (h : a.lines ++ r = b.lines ++ s) : a = b ∧ r = s := by
  have hcase : Bare "    case " := by decide
  cases a with
  | route verb pattern controller handler =>
    cases b with
    | route verb' pattern' controller' handler' =>
      simp only [lines, RouterModule.routeLines, List.cons_append, List.nil_append,
        List.cons.injEq] at h
      obtain ⟨hhead, hcall, -, hrest⟩ := h
      obtain ⟨rfl, rfl⟩ := registration_inj.mp hhead
      obtain ⟨rfl, rfl⟩ := (call_inj (named_route.mp ha).1 (named_route.mp hb).1).mp hcall
      exact ⟨rfl, hrest⟩
    | arm =>
      have hhead := congrArg String.toList (List.cons.inj h).1
      simp at hhead
  | arm queue consumer method isBatch =>
    cases b with
    | route =>
      have hhead := congrArg String.toList (List.cons.inj h).1
      simp at hhead
    | arm queue' consumer' method' isBatch' =>
      simp only [lines, DispatcherModule.armLines, List.cons_append, List.nil_append,
        List.append_assoc, List.cons.injEq, true_and] at h
      obtain ⟨hhead, hcall⟩ := h
      obtain ⟨-, rfl⟩ := (append_quote_inj hcase hcase).mp hhead
      -- the two shapes of a call differ in their first line
      cases isBatch <;> cases isBatch' <;>
        simp only [DispatcherModule.callLines, if_true, if_false, Bool.false_eq_true,
          List.cons_append, List.nil_append, List.cons.injEq, true_and] at hcall
      case false.false =>
        obtain ⟨hresolve, hmethod, hrest⟩ := hcall
        rw [String.append_left_inj, String.append_right_inj] at hresolve hmethod
        subst hresolve hmethod
        exact ⟨rfl, hrest⟩
      case false.true =>
        have hfirst := congrArg String.toList hcall.1
        simp at hfirst
      case true.false =>
        have hfirst := congrArg String.toList hcall.1
        simp at hfirst
      case true.true =>
        obtain ⟨hline, hrest⟩ := hcall
        obtain ⟨rfl, rfl⟩ := (call_inj (named_arm.mp ha).1 (named_arm.mp hb).1).mp hline
        exact ⟨rfl, hrest⟩

theorem flatMap_lines_inj {as bs : List Branch} (ha : ∀ a ∈ as, a.Named)
    (hb : ∀ b ∈ bs, b.Named) (h : as.flatMap lines = bs.flatMap lines) : as = bs := by
  have hne : ∀ b : Branch, b.lines ≠ [] := by
    intro b
    cases b <;> simp [lines, RouterModule.routeLines, DispatcherModule.armLines]
  exact eq_of_flatMap_eq hne
    (fun a ha' b hb' _ _ => lines_append_inj (ha a ha') (hb b hb')) h

end Branch

/-! ### Modules -/

namespace Emit

theorem empty_notMem_heading (imports : List ImportLine) : "" ∉ heading imports := by
  have hcomment : "" ≠ "// Code generated by edgeroute-gen. DO NOT EDIT." := by decide
  have hline : ∀ l : ImportLine, l.text ≠ "" := by
    intro l h
    have hchars := congrArg String.toList h
    simp [ImportLine.text_eq] at hchars
  simp [heading, hcomment, hline]

theorem heading_inj {ls ms : List ImportLine} :
    heading ls = heading ms ↔ ls.map ImportLine.text = ms.map ImportLine.text := by
  simp [heading]

theorem group_inj {ls ms : List String} :
    RouterModule.group ls = RouterModule.group ms ↔ ls = ms := by
  cases ls <;> cases ms <;> simp [RouterModule.group]

/-- Routers of one configuration differ in their imports and their registrations. -/
theorem RouterModule.lines_inj {m n : RouterModule} (hcontainer : m.containerType = n.containerType)
    (hmiddleware : m.middleware = n.middleware) (hhealth : m.healthPath = n.healthPath) :
    m.lines = n.lines ↔ m.imports.map ImportLine.text = n.imports.map ImportLine.text ∧
      m.routes.flatMap routeLines = n.routes.flatMap routeLines := by
  simp only [lines, hcontainer, hmiddleware, hhealth, List.append_assoc, List.cons_append,
    List.nil_append, append_cons_inj (empty_notMem_heading _) (empty_notMem_heading _),
    heading_inj, List.cons.injEq, true_and, List.append_cancel_left_eq]
  rw [List.append_left_inj, group_inj]

/-- Queue dispatchers of one configuration differ in their imports and their arms. -/
theorem DispatcherModule.lines_inj {m n : DispatcherModule}
    (hcontainer : m.containerType = n.containerType) (henv : m.envType = n.envType) :
    m.lines = n.lines ↔ m.imports.map ImportLine.text = n.imports.map ImportLine.text ∧
      m.tasks.flatMap armLines = n.tasks.flatMap armLines := by
  simp only [lines, hcontainer, henv, List.append_assoc, List.cons_append,
    List.nil_append, append_cons_inj (empty_notMem_heading _) (empty_notMem_heading _),
    heading_inj, List.cons.injEq, true_and]
  rw [List.append_left_inj]

/-- The names of named branches are on one line each. -/
theorem namesOnOneLine {t : Table} {p : Pipeline} (ht : ∀ b ∈ t.branches p, b.Named) :
    t.NamesOnOneLine p := by
  have hnames : t.splicedNames p = (t.branches p).flatMap Branch.names := by
    cases p <;> simp only [Table.splicedNames, Table.branches, List.flatMap_map] <;> rfl
  intro name hname
  rw [hnames] at hname
  obtain ⟨b, hb, hname⟩ := List.mem_flatMap.mp hname
  exact oneLine_of_isBindingName (ht b hb name hname)

/-- The classes of named branches are imported by names. -/
theorem isBindingName_of_mem_classImports {t : Table} {p : Pipeline} {root dir : Path}
    {classes : List ImportLine} (ht : ∀ b ∈ t.branches p, b.Named)
    (h : classImports t p root dir = .ok classes) :
    ∀ l ∈ classes, isBindingName l.names = true := by
  intro l hl
  have hmem : l.names ∈ t.recordClasses p := by
    rw [← mem_sortedNames, ← Table.referenced, ← names_of_classImports h]
    exact List.mem_map_of_mem hl
  cases p with
  | http =>
    obtain ⟨r, hr, hname⟩ := List.mem_map.mp hmem
    rw [← hname]
    exact ht _ (List.mem_map_of_mem hr) r.controller (by simp [Branch.ofRoute, Branch.names])
  | queue =>
    obtain ⟨k, hk, hname⟩ := List.mem_map.mp hmem
    rw [← hname]
    exact ht _ (List.mem_map_of_mem hk) k.consumer (by simp [Branch.ofTask, Branch.names])

theorem routes_flatMap_lines (routes : List Route) :
    routes.flatMap RouterModule.routeLines = (routes.map Branch.ofRoute).flatMap Branch.lines := by
  simp only [List.flatMap_map, Branch.lines_ofRoute]

theorem tasks_flatMap_lines (tasks : List Task) :
    tasks.flatMap DispatcherModule.armLines = (tasks.map Branch.ofTask).flatMap Branch.lines := by
  simp only [List.flatMap_map, Branch.lines_ofTask]

variable {t u : Table} {c : Config} {root : Path} {x y : String}

/-- Behind the same number of other imports, the imports of classes are told by
their text. -/
theorem map_text_append_inj {ls ms as bs : List ImportLine} (hlength : as.length = bs.length)
    (hl : ∀ l ∈ ls, isBindingName l.names = true) (hm : ∀ l ∈ ms, isBindingName l.names = true)
    (h : (as ++ ls).map ImportLine.text = (bs ++ ms).map ImportLine.text) : ls = ms := by
  rw [List.map_append, List.map_append] at h
  exact map_text_inj hl hm (List.append_inj h (by simpa using hlength)).2

/-- Router texts of one configuration are equal if they dispatch alike. -/
theorem render_http_inj (ht : ∀ b ∈ t.branches .http, b.Named)
    (hu : ∀ b ∈ u.branches .http, b.Named) (hx : render .http t c root = .ok x)
    (hy : render .http u c root = .ok y) :
    x = y ↔ SameDispatch .http c root t u := by
  obtain ⟨m, hm, rfl⟩ := render_http_eq_ok.mp hx
  obtain ⟨n, hn, rfl⟩ := render_http_eq_ok.mp hy
  rw [linesText_inj (oneLine_of_routerModule (namesOnOneLine ht) hm)
    (oneLine_of_routerModule (namesOnOneLine hu) hn)]
  obtain ⟨-, -, classes, hclasses, rfl⟩ := routerModule_eq_ok_iff.mp hm
  obtain ⟨-, -, classes', hclasses', rfl⟩ := routerModule_eq_ok_iff.mp hn
  rw [RouterModule.lines_inj (by rfl) (by rfl) (by rfl), routes_flatMap_lines, routes_flatMap_lines]
  simp only [SameDispatch, Config.output, hclasses, hclasses', Except.ok.injEq]
  constructor
  · rintro ⟨himports, hbranches⟩
    refine ⟨Branch.flatMap_lines_inj ht hu hbranches, ?_⟩
    exact map_text_append_inj (by simp [routerSupport])
      (isBindingName_of_mem_classImports ht hclasses)
      (isBindingName_of_mem_classImports hu hclasses') himports
  · rintro ⟨hbranches, rfl⟩
    -- the router is asked for `IRequest` if there is a branch at all
    have hempty : t.routes.isEmpty = u.routes.isEmpty := by
      simpa [Table.branches] using congrArg List.isEmpty hbranches
    refine ⟨?_, congrArg (List.flatMap Branch.lines) hbranches⟩
    rw [routerSupport, routerSupport, hempty]

/-- Dispatcher texts of one configuration are equal if they dispatch alike. -/
theorem render_queue_inj (ht : ∀ b ∈ t.branches .queue, b.Named)
    (hu : ∀ b ∈ u.branches .queue, b.Named) (hx : render .queue t c root = .ok x)
    (hy : render .queue u c root = .ok y) :
    x = y ↔ SameDispatch .queue c root t u := by
  obtain ⟨m, hm, rfl⟩ := render_queue_eq_ok.mp hx
  obtain ⟨n, hn, rfl⟩ := render_queue_eq_ok.mp hy
  rw [linesText_inj (oneLine_of_dispatcherModule (namesOnOneLine ht) hm)
    (oneLine_of_dispatcherModule (namesOnOneLine hu) hn)]
  obtain ⟨-, -, classes, hclasses, rfl⟩ := dispatcherModule_eq_ok_iff.mp hm
  obtain ⟨-, -, classes', hclasses', rfl⟩ := dispatcherModule_eq_ok_iff.mp hn
  rw [DispatcherModule.lines_inj (by rfl) (by rfl), tasks_flatMap_lines, tasks_flatMap_lines]
  simp only [SameDispatch, Config.output, hclasses, hclasses', Except.ok.injEq]
  constructor
  · rintro ⟨himports, hbranches⟩
    exact ⟨Branch.flatMap_lines_inj ht hu hbranches, map_text_append_inj rfl
      (isBindingName_of_mem_classImports ht hclasses)
      (isBindingName_of_mem_classImports hu hclasses') himports⟩
  · rintro ⟨hbranches, rfl⟩
    exact ⟨rfl, congrArg (List.flatMap Branch.lines) hbranches⟩

theorem render_inj {p : Pipeline} (ht : ∀ b ∈ t.branches p, b.Named)
    (hu : ∀ b ∈ u.branches p, b.Named) (hx : render p t c root = .ok x)
    (hy : render p u c root = .ok y) : x = y ↔ SameDispatch p c root t u := by
  cases p with
  | http => exact render_http_inj ht hu hx hy
  | queue => exact render_queue_inj ht hu hx hy

end Emit

/-! ### Main statement -/

namespace Project

open Disk Emit

/-- A check compares what the output holds with what is prepared now. -/
theorem result_checkTarget [Reader] {d : Disk} {root : Path} {c : Config} {target : Pipeline}
    {prepared : Prepared} {found : String} (henabled : c.isEnabled target = true)
    (hprepare : (prepare d target root c).result = .ok prepared)
    (hread : d.readText (root.join (c.output target)) = .ok found) :
    (checkTarget d root c target).result =
      if found = prepared.text then .ok (.upToDate (root.join (c.output target)))
      else .error (.stale target (root.join (c.output target))) := by
  have hcompare : compareOutput d target (root.join (c.output target)) prepared.text =
      if found = prepared.text then .ok ()
      else .error (.stale target (root.join (c.output target))) := by
    simp only [compareOutput, hread]
  rw [checkTarget]
  by_cases htext : found = prepared.text <;> simp [henabled, hprepare, hcompare, htext]

/-- **Rendering loses nothing, so a check sees every change of the dispatch.**  Of
two tables whose classes and handlers have binding names, rendered to modules of
one kind, the texts are equal exactly if the tables have the same branches in the
same order and import the same classes by the same lines; patterns and queue names
are arbitrary.  So where the output holds the text of the one table while the
other is prepared, the target is up to date exactly if nothing of the dispatch has
changed, and else it is stale. -/
theorem render_eq_iff [Reader] {p : Pipeline} {c : Config} {root : Path} {t u : Table}
    {x y : String}
    (ht : ∀ b ∈ t.branches p, ∀ name ∈ b.names, isBindingName name = true)
    (hu : ∀ b ∈ u.branches p, ∀ name ∈ b.names, isBindingName name = true)
    (hx : render p t c root = .ok x) (hy : render p u c root = .ok y) :
    (x = y ↔ SameDispatch p c root t u) ∧
    ∀ d : Disk, c.isEnabled p = true → d.readText (root.join (c.output p)) = .ok x →
      (prepare d p root c).result = .ok ⟨u, y⟩ →
      (SameDispatch p c root t u →
        (checkTarget d root c p).result = .ok (.upToDate (root.join (c.output p)))) ∧
      (¬ SameDispatch p c root t u →
        (checkTarget d root c p).result = .error (.stale p (root.join (c.output p)))) := by
  have hsame : x = y ↔ SameDispatch p c root t u := render_inj ht hu hx hy
  refine ⟨hsame, fun d henabled hread hprepare => ?_⟩
  rw [result_checkTarget henabled hprepare hread, ← hsame]
  exact ⟨fun h => if_pos h, fun h => if_neg h⟩

/-- A table with one route, whose pattern looks like the end of its registration
and the start of another. -/
def imitating : Table where
  routes := [⟨.get, "/a', () => 0);\n  router.get('/a/b", "c", "A", default⟩]
  imports := ({} : Imports).insertAll [⟨"A", ⟨"src/controllers/a.ts"⟩, false⟩]

/-- A controller, and an output from before its route was changed. -/
def changedRoute : Disk where
  root := [("src", .directory [
    ("controllers", .directory [
      ("a.ts", .file "@Controller('a') class A \x7b @Get('/b') c() \x7b\x7d \x7d".toUTF8)]),
    ("generated", .directory [
      ("router.ts", .file ((render .http imitating {} ⟨"."⟩).toOption.getD "").toUTF8)])])]

/-- The text that was generated is not taken for the one that is prepared now. -/
theorem render_eq_iff_imitating : ∃ u x y,
    render .http imitating {} ⟨"."⟩ = .ok x ∧
    (prepare changedRoute .http ⟨"."⟩ {}).result = .ok ⟨u, y⟩ ∧ x ≠ y ∧
    (checkTarget changedRoute ⟨"."⟩ {} .http).result
      = .error (.stale .http ⟨"./src/generated/router.ts"⟩) := by
  have hnamed : ∀ b ∈ [Branch.route .get "/a/b" "A" "c"], b.Named := by decide +kernel
  have himitating : imitating.branches .http
      = [.route .get "/a', () => 0);\n  router.get('/a/b" "A" "c"] := rfl
  obtain ⟨⟨u, y⟩, hprepare, hbranches⟩ := exists_ok_of_map_toOption
    (r := (prepare changedRoute .http ⟨"."⟩ {}).result) (f := fun p => p.table.branches .http)
    (b := [.route .get "/a/b" "A" "c"]) (by decide +kernel)
  obtain ⟨x, hx, -⟩ := exists_ok_of_map_toOption (r := render .http imitating {} ⟨"."⟩)
    (f := fun _ => ()) (b := ()) (by decide +kernel)
  have hread : changedRoute.readText ⟨"./src/generated/router.ts"⟩ = .ok x := by
    have hstatus : changedRoute.status ⟨"./src/generated/router.ts"⟩
        = .ok (.file ((render .http imitating {} ⟨"."⟩).toOption.getD "").toUTF8) := by
      rfl
    rw [hx] at hstatus
    exact readText_iff.mpr ⟨rfl, hstatus⟩
  have hdiffers : ¬ SameDispatch .http {} ⟨"."⟩ imitating u := by
    intro hsame
    rw [hsame.1] at himitating
    exact absurd (hbranches.symm.trans himitating) (by decide)
  obtain ⟨hsame, hcheck⟩ := render_eq_iff
    (himitating ▸ by decide +kernel) (hbranches ▸ hnamed) hx (render_of_prepare hprepare)
  exact ⟨u, x, y, hx, hprepare, mt hsame.mp hdiffers,
    (hcheck changedRoute rfl hread hprepare).2 hdiffers⟩

end Project

end DispatchGen
