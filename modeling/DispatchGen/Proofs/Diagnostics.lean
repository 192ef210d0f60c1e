/-
DispatchGen/Proofs/Diagnostics.lean

Which diagnostics a table has.

The errors about shared keys are those of `DispatchGen.Proofs.RepeatedKeys` for either kind of
record (`exists_places_duplicateRecords`, `length_duplicateRecords`).  An import conflict is an
error if a record refers to its class.  For a table of sources there is nothing else to count,
since extraction only warns.

Main statement: `lint_exact`.
-/
import DispatchGen.Proofs.PreparedTable

namespace DispatchGen

namespace Lint

/-- The kind of the errors about records that share a key. -/
def repeatKind : Pipeline → String
  | .http => "duplicate_route"
  | .queue => "duplicate_queue"

/-- Whether an issue is the error that a record shares its key with an earlier one. -/
def isRepeat (p : Pipeline) (i : Issue) : Bool := i.isError && i.kind = repeatKind p

/-- An error about a class that two modules declare: it is located at the module that came second
and names the class and both modules. -/
structure ReportsClass (c : ImportConflict) (e : Issue) : Prop where
  severity : e.severity = .error
  kind : e.kind = "duplicate_class"
  located : e.location = c.second.text
  named : ∃ before after, e.message = before ++ c.name ++ " is declared in both " ++ c.first.text ++
    " and " ++ c.second.text ++ after

theorem reportsClass_duplicateClass (c : ImportConflict) : ReportsClass c (duplicateClass c) :=
  ⟨rfl, rfl, rfl, "class ", "; generated imports would collide", rfl⟩

end Lint

/-! ### Where a record is -/

/-- A method of a class, and the line that declares it. -/
structure Lint.Site where
  method : String
  line : String

namespace Lint.Site

def ofRoute (r : Route) : Site :=
  ⟨r.controller ++ "." ++ r.handler, r.location.file.text ++ ":" ++ toString r.location.line⟩

def ofTask (k : Task) : Site :=
  ⟨k.consumer ++ "." ++ k.method, k.location.file.text ++ ":" ++ toString k.location.line⟩

end Lint.Site

namespace Table

/-- The sites of the records of a pipeline, in table order. -/
def sites (t : Table) : Pipeline → List Lint.Site
  | .http => t.routes.map .ofRoute
  | .queue => t.tasks.map .ofTask

/-- An error about the record at place `j` of a table, which has the key of the record at place
`i`: it is located at the later record, and names the earlier one as the other site. -/
structure ReportsRepeat (t : Table) (p : Pipeline) (i j : Nat) (e : Issue) : Prop where
  severity : e.severity = .error
  kind : e.kind = Lint.repeatKind p
  sites : ∃ first second before after,
    (t.sites p)[i]? = some first ∧ (t.sites p)[j]? = some second ∧
    e.location = second.line ++ " " ++ second.method ∧
    e.message = before ++ " by both " ++ first.method ++ " (" ++ first.line ++ ") and " ++
      second.method ++ " (" ++ second.line ++ ")" ++ after

end Table

/-! ### The errors of a table -/

namespace Table

open Lint

/-- The error about the records at two places of a table, of which the first keeps its key. -/
def repeatError? (t : Table) (p : Pipeline) (i j : Nat) : Option Issue :=
  match p with
  | .http => do return duplicateRoute (← t.routes[i]?) (← t.routes[j]?)
  | .queue => do return duplicateQueue (← t.tasks[i]?) (← t.tasks[j]?)

/-- There is one error for each place that repeats a key, in table order, about the record there
and the first record of the table with that key. -/
theorem exists_places_duplicateRecords (t : Table) (p : Pipeline) :
    ∃ places : List (Nat × Nat),
      (duplicateRecords t p).map some = places.map (fun x => t.repeatError? p x.1 x.2) ∧
      places.Pairwise (fun x y => x.2 < y.2) ∧
      ∀ i j, (i, j) ∈ places ↔ Repeats (t.keys p) i j := by
  cases p with
  | http =>
    rw [duplicateRecords_http]
    exact exists_places_map (fun r : Route => (r.verb.name, r.pattern)) duplicateRoute t.routes
  | queue =>
    rw [duplicateRecords_queue]
    exact exists_places_map (fun k : Task => ("case", k.queue)) duplicateQueue t.tasks

/-- The error about two places of a table says where both records are. -/
theorem reportsRepeat_of_repeatError? {t : Table} {p : Pipeline} {i j : Nat} {e : Issue}
    (h : t.repeatError? p i j = some e) : t.ReportsRepeat p i j e := by
  cases p with
  | http =>
    obtain ⟨first, hfirst, second, hsecond, he⟩ : ∃ first, t.routes[i]? = some first ∧
        ∃ second, t.routes[j]? = some second ∧ duplicateRoute first second = e := by
      simpa [repeatError?, Option.bind_eq_some_iff] using h
    subst he
    refine ⟨rfl, rfl, .ofRoute first, .ofRoute second,
      second.verb.shout ++ " " ++ second.pattern ++ " is declared",
      "; the second handler is unreachable", ?_, ?_, rfl, ?_⟩
    · rw [sites, List.getElem?_map, hfirst, Option.map_some]
    · rw [sites, List.getElem?_map, hsecond, Option.map_some]
    · simp [duplicateRoute, Site.ofRoute, Route.site, Location.text, String.append_assoc]
  | queue =>
    obtain ⟨first, hfirst, second, hsecond, he⟩ : ∃ first, t.tasks[i]? = some first ∧
        ∃ second, t.tasks[j]? = some second ∧ duplicateQueue first second = e := by
      simpa [repeatError?, Option.bind_eq_some_iff] using h
    subst he
    refine ⟨rfl, rfl, .ofTask first, .ofTask second, "queue '" ++ second.queue ++ "' is consumed",
      "", ?_, ?_, rfl, ?_⟩
    · rw [sites, List.getElem?_map, hfirst, Option.map_some]
    · rw [sites, List.getElem?_map, hsecond, Option.map_some]
    · simp [duplicateQueue, Site.ofTask, Task.site, Location.text, String.append_assoc]

theorem length_duplicateRecords (t : Table) (p : Pipeline) :
    (duplicateRecords t p).length = (t.keys p).length - (t.keys p).toFinset.card := by
  cases p with
  | http =>
    have hcount := length_repeats (fun r : Route => (r.verb.name, r.pattern)) t.routes
    rw [duplicateRecords_http, List.length_map, keys, List.length_map]
    omega
  | queue =>
    have hcount := length_repeats (fun k : Task => ("case", k.queue)) t.tasks
    rw [duplicateRecords_queue, List.length_map, keys, List.length_map]
    omega

theorem isRepeat_of_mem_duplicateRecords {t : Table} {p : Pipeline} {i : Issue}
    (h : i ∈ duplicateRecords t p) : isRepeat p i = true := by
  cases p <;> obtain ⟨_, _, rfl⟩ := List.mem_map.mp h <;> rfl

theorem duplicateClasses_eq (t : Table) (p : Pipeline) :
    duplicateClasses t p
      = (t.imports.conflicts.filter (·.name ∈ t.recordClasses p)).map duplicateClass := by
  rw [duplicateClasses]
  refine congrArg (List.map duplicateClass) (List.filter_congr fun c _ => ?_)
  rw [List.contains_eq_mem, referenced]
  exact decide_eq_decide.mpr mem_sortedNames

/-- Besides its own issues, a table has so many errors about shared keys as it has records beyond
the first of each key. -/
theorem countP_isRepeat_lint (t : Table) (p : Pipeline) :
    (lint t p).countP (isRepeat p)
      = t.issues.countP (isRepeat p) + ((t.keys p).length - (t.keys p).toFinset.card) := by
  have hrecords : (duplicateRecords t p).countP (isRepeat p) = (duplicateRecords t p).length :=
    List.countP_eq_length.mpr fun _ => isRepeat_of_mem_duplicateRecords
  have hclasses : (duplicateClasses t p).countP (isRepeat p) = 0 := by
    refine List.countP_eq_zero.mpr fun i hi => ?_
    obtain ⟨c, -, rfl⟩ := List.mem_map.mp hi
    cases p <;> simp [isRepeat, duplicateClass, repeatKind]
  rw [lint, List.countP_append, List.countP_append, hrecords, hclasses, length_duplicateRecords,
    Nat.add_zero]

end Table

/-! ### Main statement -/

open Lint Table in
/-- **The diagnostics of a table, exactly.**  First come its own issues, as they are.  Then there
is one error for each record that has the key of an earlier one, in the order of the records; it
is located at that record and names, as the other site, the first record of the table with that
key.  Last there is one error for each import conflict, in the order recorded, about a class that
a record refers to.  So the errors about shared keys that are added number as many as there are
records less the keys they have among them; a table of sources has no others. -/
theorem lint_exact (t : Table) (p : Pipeline) :
    (∃ (records classes : List Issue) (places : List (Nat × Nat)),
      lint t p = t.issues ++ records ++ classes ∧
      records.map some = places.map (fun x => t.repeatError? p x.1 x.2) ∧
      List.Forall₂ (fun x e => t.ReportsRepeat p x.1 x.2 e) places records ∧
      places.Pairwise (fun x y => x.2 < y.2) ∧
      (∀ i j, (i, j) ∈ places ↔ Repeats (t.keys p) i j) ∧
      classes = (t.imports.conflicts.filter (·.name ∈ t.recordClasses p)).map duplicateClass ∧
      List.Forall₂ ReportsClass (t.imports.conflicts.filter (·.name ∈ t.recordClasses p))
        classes) ∧
    (lint t p).countP (isRepeat p)
      = t.issues.countP (isRepeat p) + ((t.keys p).length - (t.keys p).toFinset.card) ∧
    ∀ files, (lint (ofFiles p files) p).countP (isRepeat p)
      = ((ofFiles p files).keys p).length - ((ofFiles p files).keys p).toFinset.card := by
  refine ⟨?exact, countP_isRepeat_lint t p, fun files => ?sources⟩
  case exact =>
    obtain ⟨places, herrors, hordered, hplaces⟩ := exists_places_duplicateRecords t p
    have hlint : lint t p = t.issues ++ duplicateRecords t p ++ duplicateClasses t p := rfl
    refine ⟨duplicateRecords t p, _, places, ?_, herrors, ?_, hordered, hplaces, rfl, ?_⟩
    · rw [hlint, duplicateClasses_eq]
    · -- each error is that of its two places
      have hpairs : List.Forall₂ (fun x e => t.repeatError? p x.1 x.2 = some e) places
          (duplicateRecords t p) := by
        have hequal : List.Forall₂ Eq (places.map fun x => t.repeatError? p x.1 x.2)
            ((duplicateRecords t p).map some) := by
          rw [herrors, List.forall₂_eq_eq_eq]
        rwa [List.forall₂_map_left_iff, List.forall₂_map_right_iff] at hequal
      exact hpairs.imp fun _ _ h => reportsRepeat_of_repeatError? h
    · rw [List.forall₂_map_right_iff]
      exact List.forall₂_same.mpr fun c _ => reportsClass_duplicateClass c
  case sources =>
    -- extraction warns, and a warning is no error
    have hown : (ofFiles p files).issues.countP (isRepeat p) = 0 := by
      refine List.countP_eq_zero.mpr fun i hi => ?_
      rw [isRepeat, isError_of_mem_issues_ofFiles hi, Bool.false_and]
      exact Bool.false_ne_true
    rw [countP_isRepeat_lint, hown, Nat.zero_add]

end DispatchGen
