/-
DispatchGen/Proofs/ImportMap.lean

The import map as a function of what was inserted.

What is under a name and which conflicts there are is told by the history of the map
(`DispatchGen.Proofs.ImportHistory`).  Two things are added here.  The map holds each name once,
which one insertion keeps (`nodup_names_insert`), so its size counts names.  And modules are
compared as paths: by their components, which take the empty pieces and the `.` inside a path for
nothing (`components_slash`) but keep a `.` that opens it (`same_dot_slash_iff`).

As the table of several files is told by lists that grow at their ends, absorbing files one after
another is absorbing all their facts at once, except for the number of files
(`foldl_absorb_eq_absorb`).

Main statement: `import_map_history`.
-/
import DispatchGen.Proofs.Assembly
import DispatchGen.Proofs.LexicalPath
import Mathlib.Data.Finset.Card

namespace DispatchGen

/-! ### Paths that are spelled differently -/

namespace Path

/-- The steps that a string between slashes stands for. -/
def stepsIn (t : OsText) : List Component := (splitPieces slash t).filterMap component?

theorem stepsIn_append (t t' : OsText) :
    stepsIn (t ++ slash :: t') = stepsIn t ++ stepsIn t' := by
  rw [stepsIn, splitPieces_append, List.filterMap_append]
  rfl

/-- A piece that names no step may be left out, with its slash. -/
theorem stepsIn_blank {piece : OsText} (hwhole : slash ∉ piece)
    (hblank : isBlank piece = true) (t : OsText) :
    stepsIn (piece ++ slash :: t) = stepsIn t := by
  have hnone : stepsIn piece = [] := by
    simp [stepsIn, splitPieces_of_not_mem hwhole, component?_of_blank hblank]
  rw [stepsIn_append, hnone, List.nil_append]

/-- A slash before the steps of a path makes no step. -/
theorem steps_eq (p : Path) : p.steps = stepsIn p.raw := by
  rw [steps, pieces]
  by_cases habsolute : p.isAbsolute = true
  · have hhead : p.raw.head? = some slash := of_decide_eq_true habsolute
    obtain ⟨t, ht⟩ := List.head?_eq_some_iff.mp hhead
    have hopening := stepsIn_blank List.not_mem_nil (by decide) t
    rw [List.nil_append] at hopening
    rw [if_pos habsolute, ht, hopening]
    rfl
  · rw [if_neg habsolute]
    rfl

variable {a : OsText}

theorem isAbsolute_append (ha : a ≠ []) (b : OsText) :
    (⟨a ++ b⟩ : Path).isAbsolute = (⟨a⟩ : Path).isAbsolute := by
  obtain ⟨x, xs, rfl⟩ := List.exists_cons_of_ne_nil ha
  rfl

/-- What opens a path opens it whatever follows behind a slash. -/
theorem opening_slash (ha : a ≠ []) (b : OsText) :
    (⟨a ++ slash :: b⟩ : Path).opening = (⟨a⟩ : Path).opening := by
  rw [opening, opening, isAbsolute_append ha]
  split
  case isTrue => rfl
  case isFalse hrelative =>
    -- the first piece ends at the first slash
    have hpieces : (⟨a ++ slash :: b⟩ : Path).pieces
        = (⟨a⟩ : Path).pieces ++ splitPieces slash b := by
      rw [pieces, pieces, isAbsolute_append ha, if_neg hrelative, if_neg hrelative,
        ← splitPieces_append]
    have hne : (⟨a⟩ : Path).pieces ≠ [] := splitPieces_ne_nil slash _
    rw [hpieces, List.head?_append_of_ne_nil _ hne]

/-- The components of a path that has a slash in it: what stands before the slash, or the root,
and then the steps behind it. -/
theorem components_slash (a b : OsText) :
    (⟨a ++ slash :: b⟩ : Path).components
      = (if a = [] then [.root] else (⟨a⟩ : Path).components) ++ stepsIn b := by
  have hsteps : (⟨a ++ slash :: b⟩ : Path).steps = stepsIn a ++ stepsIn b := by
    rw [steps_eq, ← stepsIn_append]
  rw [components_eq, hsteps]
  split
  case isTrue hempty =>
    subst hempty
    rfl
  case isFalse hne => rw [opening_slash hne, components_eq, steps_eq, List.append_assoc]

/-- A slash may be doubled. -/
theorem same_double_slash (a b : OsText) :
    (⟨a ++ "//" ++ b⟩ : Path).same ⟨a ++ "/" ++ b⟩ = true := by
  have hdouble : a ++ "//" ++ b = a ++ slash :: ([] ++ slash :: b) := List.append_assoc ..
  have hsingle : a ++ "/" ++ b = a ++ slash :: b := List.append_assoc ..
  have hblank : stepsIn ([] ++ slash :: b) = stepsIn b :=
    stepsIn_blank List.not_mem_nil (by decide) b
  rw [same_iff, hdouble, hsingle, components_slash, components_slash, hblank]

/-- A `.` between slashes may be left out. -/
theorem same_slash_dot (a b : OsText) :
    (⟨a ++ "/./" ++ b⟩ : Path).same ⟨a ++ "/" ++ b⟩ = true := by
  have hdot : a ++ "/./" ++ b = a ++ slash :: (hereName ++ slash :: b) := List.append_assoc ..
  have hsingle : a ++ "/" ++ b = a ++ slash :: b := List.append_assoc ..
  have hwhole : slash ∉ hereName := by decide
  have hblank : stepsIn (hereName ++ slash :: b) = stepsIn b :=
    stepsIn_blank hwhole (by decide) b
  rw [same_iff, hdot, hsingle, components_slash, components_slash, hblank]

/-- A `.` that opens a path may not be left out, unless another one opens the rest. -/
theorem same_dot_slash_iff (a : OsText) :
    (⟨"./" ++ a⟩ : Path).same ⟨a⟩ = true ↔ (⟨a⟩ : Path).components.head? = some .here := by
  have hdot : (⟨"./" ++ a⟩ : Path).components = .here :: stepsIn a :=
    components_slash hereName a
  have hsteps : (⟨a⟩ : Path).steps = stepsIn a := steps_eq ⟨a⟩
  rw [same_iff, hdot]
  constructor
  · intro h
    rw [← h]
    rfl
  · intro h
    -- no step is a `.`, so the path is opened by one
    have hopening : (⟨a⟩ : Path).opening = [.here] := by
      rw [components_eq] at h
      unfold opening at h ⊢
      split at h
      case isTrue => cases h
      case isFalse habsolute =>
        rw [if_neg habsolute]
        split at h
        case isTrue hhead => rw [if_pos hhead]
        case isFalse =>
          have hstep := isStep_of_mem_steps (List.mem_of_mem_head? h)
          rcases hstep with hup | ⟨name, hname, -⟩
          · cases hup
          · cases hname
    rw [components_eq, hopening, hsteps]
    rfl

end Path

/-! ### Names -/

namespace Imports

/-- The names that are declared. -/
def names (m : Imports) : List String := m.classes.map (·.name)

theorem get?_eq_none_iff {m : Imports} {name : String} : m.get? name = none ↔ name ∉ m.names := by
  simp [get?, names]

/-- No insertion adds a name that is there. -/
theorem nodup_names_insert {m : Imports} (h : m.names.Nodup) (c : MarkedClass) :
    (m.insert c).names.Nodup := by
  cases hfirst : m.get? c.name with
  | none =>
    have hnew := get?_eq_none_iff.mp hfirst
    rw [insert_of_get?_none hfirst, names, List.map_append, List.map_singleton, ← names,
      ← List.concat_eq_append]
    exact h.concat hnew
  | some first =>
    rw [names, classes_insert_of_get?_some hfirst]
    exact h

theorem nodup_names_insertAll {m : Imports} (h : m.names.Nodup) (cs : List MarkedClass) :
    (m.insertAll cs).names.Nodup := by
  induction cs generalizing m with
  | nil => exact h
  | cons c cs ih => exact ih (nodup_names_insert h c)

/-- A map has the size of the names that were inserted. -/
theorem size_insertAll_empty (cs : List MarkedClass) :
    (({} : Imports).insertAll cs).size = (cs.map (·.name)).toFinset.card := by
  have hnodup : (({} : Imports).insertAll cs).names.Nodup :=
    nodup_names_insertAll (m := {}) List.nodup_nil cs
  have hnames : (({} : Imports).insertAll cs).names.toFinset = (cs.map (·.name)).toFinset := by
    ext name
    rw [List.mem_toFinset, List.mem_toFinset, ← not_iff_not, ← get?_eq_none_iff,
      get?_insertAll_empty]
    simp [firstNamed]
  rw [← hnames, List.toFinset_card_of_nodup hnodup, names, List.length_map, size]

end Imports

/-! ### Facts together -/

/-- The facts of several files as those of one. -/
def Facts.concat (fs : List Facts) : Facts where
  classes := fs.flatMap (·.classes)
  routes := fs.flatMap (·.routes)
  tasks := fs.flatMap (·.tasks)
  issues := fs.flatMap (·.issues)

theorem Table.foldl_absorb_eq_absorb (t : Table) (fs : List Facts) :
    fs.foldl absorb t
      = { t.absorb (Facts.concat fs) with filesScanned := t.filesScanned + fs.length } :=
  foldl_absorb t fs

/-! ### Main statement -/

/-- **The import map over its whole history.**  After any insertions into the empty map, what is
under a name is the first class that was inserted with that name, and no later insertion changes
it.  The map has as many entries as the classes have names.  The conflicts are, in the order of
the insertions, one for each class whose module is not the same path as that of the first class of
its name, with both modules.  Paths are the same whether or not a slash is doubled or a `.` stands
between slashes, but not with and without a `.` at their start.  So a table takes in files one
after another as it takes in all their facts at once, except for the number of files. -/
theorem import_map_history (cs : List MarkedClass) :
    (∀ name, (({} : Imports).insertAll cs).get? name = cs.find? (·.name = name)) ∧
    (∀ later name, (({} : Imports).insertAll (cs ++ later)).get? name
      = ((({} : Imports).insertAll cs).get? name).or (later.find? (·.name = name))) ∧
    (({} : Imports).insertAll cs).size = (cs.map (·.name)).toFinset.card ∧
    (({} : Imports).insertAll cs).conflicts = cs.filterMap (fun c =>
      (cs.find? (·.name = c.name)).bind fun first =>
        if first.module.same c.module then none else some ⟨c.name, first.module, c.module⟩) ∧
    ((∀ p q : Path, p.same q = true ↔ p.components = q.components) ∧
      (∀ a b : OsText, (⟨a ++ "//" ++ b⟩ : Path).same ⟨a ++ "/" ++ b⟩ = true ∧
        (⟨a ++ "/./" ++ b⟩ : Path).same ⟨a ++ "/" ++ b⟩ = true) ∧
      ∀ a : OsText,
        (⟨"./" ++ a⟩ : Path).same ⟨a⟩ = true ↔ (⟨a⟩ : Path).components.head? = some .here) ∧
    ∀ (t : Table) (fs : List Facts), fs.foldl Table.absorb t
      = { t.absorb (Facts.concat fs) with filesScanned := t.filesScanned + fs.length } := by
  refine ⟨Imports.get?_insertAll_empty cs, fun later name => ?stays,
    Imports.size_insertAll_empty cs, ?conflicts,
    ⟨fun p q => Path.same_iff, fun a b => ⟨Path.same_double_slash a b, Path.same_slash_dot a b⟩,
      Path.same_dot_slash_iff⟩, Table.foldl_absorb_eq_absorb⟩
  case stays => rw [Imports.insertAll_append, Imports.get?_insertAll, Imports.firstNamed]
  case conflicts =>
    rw [Imports.conflicts_insertAll_empty]
    refine List.filterMap_congr fun c _ => ?_
    rw [Imports.clash?, Imports.firstNamed]
    cases cs.find? (·.name = c.name) <;> rfl

end DispatchGen
