/-
DispatchGen/Proofs/SplicedNames.lean

The configured names that a generated module shows without quotes: the type of the container, the
middleware, the type of the environment.

Whenever a module is rendered, each of them has passed the check on names (`isBindingName_splice`)
and stands in the lines that `splices` lists (`line_mem_of_splice`).  That does not make it a name
of the language.  A reserved word passes, and so does a name with a combining mark at its head or
with a sign such as a superscript digit in it; `spliced_isBinding_iff` says that nothing else goes
wrong, and `exists_spliced_not_isBinding` that each of these does.
-/
import DispatchGen.Proofs.IdentifierGrammar
import DispatchGen.Proofs.Rendering

namespace DispatchGen

namespace Emit

/-! ### Names and their lines -/

/-- A configured name and a line of the generated module that it is part of, as it is. -/
structure Splice where
  name : String
  line : String

/-- The import of a configured name. -/
def Splice.imported (name specifier : String) : Splice :=
  ⟨name, (ImportLine.named name specifier).text⟩

/-- Every configured name that is spliced into the module of a pipeline, at every place. -/
def splices (p : Pipeline) (c : Config) (root : Path) : List Splice :=
  match p with
  | .http =>
      let dir := outputDir root c.http.output
      [.imported c.http.containerType c.http.containerPackage,
        ⟨c.http.containerType,
          "export function getRouter(container: " ++ c.http.containerType ++ ") \x7b"⟩] ++
      c.http.middleware.flatMap fun m =>
        [.imported m.name (specifierOf root dir m.path),
          ⟨m.name, RouterModule.middlewareLine m.name⟩]
  | .queue =>
      let dir := outputDir root c.queue.output
      [.imported c.queue.containerType c.queue.containerPackage,
        ⟨c.queue.containerType, "  container: " ++ c.queue.containerType ++ ","⟩,
        ⟨c.queue.envType, "  env: " ++ c.queue.envType ++ ","⟩] ++
      (c.queue.envModule.map fun module =>
        Splice.imported c.queue.envType (specifierOf root dir module)).toList

theorem RouterModule.middlewareLine_mem_lines {m : RouterModule} {name : String}
    (h : name ∈ m.middleware) : middlewareLine name ∈ m.lines := by
  have hgroup : middlewareLine name ∈ group (m.middleware.map middlewareLine) :=
    mem_group (List.mem_map_of_mem h)
  simp only [lines, List.mem_append]
  exact .inl (.inl (.inr hgroup))

/-- A rendered text shows every spliced name where `splices` says. -/
theorem line_mem_of_splice {p : Pipeline} {t : Table} {c : Config} {root : Path} {text : String}
    (h : render p t c root = .ok text) :
    ∃ lines, text = linesText lines ∧ ∀ s ∈ splices p c root, s.line ∈ lines := by
  cases p with
  | http =>
    obtain ⟨m, hm, rfl⟩ := render_http_eq_ok.mp h
    obtain ⟨-, -, classes, -, rfl⟩ := routerModule_eq_ok_iff.mp hm
    refine ⟨_, rfl, ?_⟩
    simp only [splices, List.forall_mem_append, List.forall_mem_cons, List.forall_mem_flatMap]
    refine ⟨⟨?_, ?_, by simp⟩, fun w hw => ⟨?_, ?_, by simp⟩⟩
    · exact RouterModule.text_mem_lines (by simp [routerSupport])
    · simp [RouterModule.lines]
    · refine RouterModule.text_mem_lines (List.mem_append_left _ (List.mem_append_right _ ?_))
      exact List.mem_map.mpr ⟨w, hw, rfl⟩
    · exact RouterModule.middlewareLine_mem_lines (List.mem_map_of_mem hw)
  | queue =>
    obtain ⟨m, hm, rfl⟩ := render_queue_eq_ok.mp h
    obtain ⟨-, -, classes, -, rfl⟩ := dispatcherModule_eq_ok_iff.mp hm
    refine ⟨_, rfl, ?_⟩
    simp only [splices, List.forall_mem_append, List.forall_mem_cons]
    refine ⟨⟨?_, ?_, ?_, by simp⟩, ?_⟩
    · exact DispatcherModule.text_mem_lines (.head _)
    · simp [DispatcherModule.lines]
    · simp [DispatcherModule.lines]
    · cases hmodule : c.queue.envModule with
      | none => simp
      | some module =>
        refine List.forall_mem_singleton.mpr (DispatcherModule.text_mem_lines ?_)
        simp [dispatcherSupport, hmodule]

/-- No text is rendered unless every spliced name has passed the check. -/
theorem isBindingName_splice {p : Pipeline} {t : Table} {c : Config} {root : Path} {text : String}
    (h : render p t c root = .ok text) :
    ∀ s ∈ splices p c root, Text.isBindingName s.name = true := by
  cases p with
  | http =>
    obtain ⟨m, hm, -⟩ := render_http_eq_ok.mp h
    obtain ⟨hcontainer, hmiddleware, -⟩ := routerModule_eq_ok_iff.mp hm
    simp only [splices, List.forall_mem_append, List.forall_mem_cons, List.forall_mem_flatMap]
    exact ⟨⟨hcontainer, hcontainer, by simp⟩,
      fun w hw => ⟨hmiddleware w hw, hmiddleware w hw, by simp⟩⟩
  | queue =>
    obtain ⟨m, hm, -⟩ := render_queue_eq_ok.mp h
    obtain ⟨hcontainer, henv, -⟩ := dispatcherModule_eq_ok_iff.mp hm
    simp only [splices, List.forall_mem_append, List.forall_mem_cons]
    refine ⟨⟨hcontainer, hcontainer, henv, by simp⟩, ?_⟩
    cases c.queue.envModule with
    | none => simp
    | some module => exact List.forall_mem_singleton.mpr henv

/-! ### Main statement -/

open Text

/-- **Which configured names end up as names of the generated code.**  Of every module that is
rendered, each configured name stands in its lines without quotes, and it is a binding identifier
there if and only if it is not a reserved word, does not start with a mark and holds none of the
letters and numbers that identifiers are not made of.  The check on names asks for none of the
three. -/
theorem spliced_isBinding_iff {p : Pipeline} {t : Table} {c : Config} {root : Path} {text : String}
    (h : render p t c root = .ok text) :
    ∃ lines, text = linesText lines ∧ ∀ s ∈ splices p c root,
      s.line ∈ lines ∧ isBindingName s.name = true ∧
      (IsBinding s.name ↔
        s.name ∉ reservedWords ∧ startsInside s.name = false ∧ hasStray s.name = false) := by
  obtain ⟨lines, htext, hlines⟩ := line_mem_of_splice h
  refine ⟨lines, htext, fun s hs => ⟨hlines s hs, ?_⟩⟩
  have hname := isBindingName_splice h s hs
  exact ⟨hname, isBinding_iff hname⟩

/-- A configuration that names its container type. -/
def containerNamed (name : String) : Config := { http := { containerType := name } }

/-- Without records, and with the default middleware, the name is all that matters. -/
theorem exists_render_containerNamed {name : String} (h : isBindingName name = true) :
    ∃ text, render .http {} (containerNamed name) ⟨"."⟩ = .ok text := by
  have hmiddleware : ∀ w ∈ ({} : HttpTarget).middleware, isBindingName w.name = true := by
    decide +kernel
  exact ⟨_, render_http_eq_ok.mpr
    ⟨_, routerModule_eq_ok_iff.mpr ⟨h, hmiddleware, [], rfl, rfl⟩, rfl⟩⟩

theorem spliced_isBinding_iff_container : ∃ text,
    render .http {} (containerNamed "Größe_2") ⟨"."⟩ = .ok text ∧
    ∃ lines, text = linesText lines ∧
      "export function getRouter(container: Größe_2) \x7b" ∈ lines ∧ IsBinding "Größe_2" := by
  have hname : isBindingName "Größe_2" = true := by decide +kernel
  obtain ⟨text, htext⟩ := exists_render_containerNamed hname
  obtain ⟨lines, hlines, hsplices⟩ := spliced_isBinding_iff htext
  obtain ⟨hline, -, hbinding⟩ := hsplices
    ⟨"Größe_2", "export function getRouter(container: Größe_2) \x7b"⟩ (.tail _ (.head _))
  exact ⟨text, htext, lines, hlines, hline, hbinding.mpr (by decide +kernel)⟩

/-- A reserved word, a superscript digit, a circled letter and a combining mark at the head: all
of them are rendered, and none of them is a name. -/
theorem exists_spliced_not_isBinding :
    ∀ name ∈ ["class", "a²", "Ⓐ", "\u0345a"], ¬ IsBinding name ∧
      ∃ text, render .http {} (containerNamed name) ⟨"."⟩ = .ok text := by
  have hnames : ∀ name ∈ ["class", "a²", "Ⓐ", "\u0345a"], isBindingName name = true ∧
      ¬ (name ∉ reservedWords ∧ startsInside name = false ∧ hasStray name = false) := by
    decide +kernel
  intro name hmem
  obtain ⟨hname, hexcept⟩ := hnames name hmem
  exact ⟨mt (isBinding_iff hname).mp hexcept, exists_render_containerNamed hname⟩

/-- So a rendered module can splice what is not a name. -/
theorem not_forall_spliced_isBinding :
    ¬ ∀ (p : Pipeline) (t : Table) (c : Config) (root : Path) (text : String),
      render p t c root = .ok text → ∀ s ∈ splices p c root, IsBinding s.name := by
  intro hall
  obtain ⟨hnot, text, htext⟩ := exists_spliced_not_isBinding "class" (.head _)
  exact hnot (hall .http {} (containerNamed "class") ⟨"."⟩ text htext _ (.head _))

end Emit

end DispatchGen
