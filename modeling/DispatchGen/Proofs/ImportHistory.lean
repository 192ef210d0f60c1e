/-
DispatchGen/Proofs/ImportHistory.lean

What a run of insertions leaves in the import map.

The map is filled by one fold over all marked classes of a run, and everything
about it is read off that history: the class under a name is the first one that
was inserted under it (`get?_insertAll`), and the conflicts are the insertions
that disagree with that first class about the module, in order
(`conflicts_insertAll`).  Both are stated for an arbitrary map to start from,
which is what the induction needs.
-/
import DispatchGen.Imports

namespace DispatchGen

namespace Path

theorem same_refl (p : Path) : p.same p = true := by
  simp [Path.same]

theorem same_iff {p q : Path} : p.same q = true ↔ p.components = q.components := by
  simp [Path.same]

end Path

namespace Imports

/-- The conflict that a class is in if `first?` gives the class first declared
under each name. -/
def clash? (first? : String → Option MarkedClass) (c : MarkedClass) : Option ImportConflict :=
  match first? c.name with
  | none => none
  | some first =>
      if first.module.same c.module then none else some ⟨c.name, first.module, c.module⟩

/-! ### One insertion -/

theorem insert_of_get?_none {m : Imports} {c : MarkedClass} (h : m.get? c.name = none) :
    m.insert c = { m with classes := m.classes ++ [c] } := by
  simp [insert, h]

theorem classes_insert_of_get?_some {m : Imports} {c first : MarkedClass}
    (h : m.get? c.name = some first) : (m.insert c).classes = m.classes := by
  by_cases hsame : first.module.same c.module <;> simp [insert, h, hsame]

/-- An insertion fills its name if it is free, and touches no other. -/
theorem get?_insert (m : Imports) (c : MarkedClass) (name : String) :
    (m.insert c).get? name = (m.get? name).or (if c.name = name then some c else none) := by
  cases hfirst : m.get? c.name with
  | none =>
    rw [insert_of_get?_none hfirst, get?, get?, List.find?_append]
    by_cases hname : c.name = name <;> simp [hname]
  | some first =>
    rw [get?, classes_insert_of_get?_some hfirst, ← get?]
    by_cases hname : c.name = name
    · subst hname
      simp [hfirst]
    · simp [hname]

/-- An insertion adds a conflict if it clashes with what is under its name. -/
theorem conflicts_insert (m : Imports) (c : MarkedClass) :
    (m.insert c).conflicts = m.conflicts ++ (clash? m.get? c).toList := by
  cases hfirst : m.get? c.name with
  | none => simp [insert, clash?, hfirst]
  | some first =>
    by_cases hsame : first.module.same c.module <;> simp [insert, clash?, hfirst, hsame]

/-! ### A run of insertions -/

/-- The first of several classes that bears a name. -/
def firstNamed (cs : List MarkedClass) (name : String) : Option MarkedClass :=
  cs.find? (·.name = name)

theorem firstNamed_cons (c : MarkedClass) (cs : List MarkedClass) (name : String) :
    firstNamed (c :: cs) name
      = (if c.name = name then some c else none).or (firstNamed cs name) := by
  by_cases h : c.name = name <;> simp [firstNamed, h]

/-- The first insertion of a name fills it, if it was free. -/
theorem get?_insertAll (m : Imports) (cs : List MarkedClass) (name : String) :
    (m.insertAll cs).get? name = (m.get? name).or (firstNamed cs name) := by
  induction cs generalizing m with
  | nil => simp [insertAll, firstNamed]
  | cons c cs ih =>
    have hfold : m.insertAll (c :: cs) = (m.insert c).insertAll cs := rfl
    rw [hfold, ih, get?_insert, firstNamed_cons, Option.or_assoc]

/-- Each insertion clashes with what was first under its name. -/
theorem conflicts_insertAll (m : Imports) (cs : List MarkedClass) :
    (m.insertAll cs).conflicts
      = m.conflicts ++ cs.filterMap (clash? fun name => (m.get? name).or (firstNamed cs name)) := by
  induction cs generalizing m with
  | nil => simp [insertAll]
  | cons c cs ih =>
    have hfold : m.insertAll (c :: cs) = (m.insert c).insertAll cs := rfl
    have hlater : (fun name => ((m.insert c).get? name).or (firstNamed cs name))
        = fun name => (m.get? name).or (firstNamed (c :: cs) name) := by
      funext name
      rw [get?_insert, firstNamed_cons, Option.or_assoc]
    -- The class itself is looked up after its own insertion, which changes
    -- nothing: either its name was there, or it is the first and agrees with itself.
    have hself : clash? (fun name => (m.get? name).or (firstNamed (c :: cs) name)) c
        = clash? m.get? c := by
      cases hfirst : m.get? c.name with
      | none => simp [clash?, hfirst, firstNamed_cons, Path.same_refl]
      | some first => simp [clash?, hfirst]
    rw [hfold, ih, conflicts_insert, hlater, List.filterMap_cons, hself]
    cases clash? m.get? c <;> simp

@[simp] theorem get?_empty (name : String) : ({} : Imports).get? name = none := rfl

theorem get?_insertAll_empty (cs : List MarkedClass) (name : String) :
    (({} : Imports).insertAll cs).get? name = firstNamed cs name := by
  simp [get?_insertAll]

theorem conflicts_insertAll_empty (cs : List MarkedClass) :
    (({} : Imports).insertAll cs).conflicts = cs.filterMap (clash? (firstNamed cs)) := by
  simp [conflicts_insertAll]

/-! ### Conflicts by name -/

/-- The first class of a name is one of the classes and has the name. -/
theorem firstNamed_eq_some {cs : List MarkedClass} {name : String} {c : MarkedClass}
    (h : firstNamed cs name = some c) : c ∈ cs ∧ c.name = name :=
  ⟨List.mem_of_find?_eq_some h, by simpa using List.find?_some h⟩

theorem exists_firstNamed {cs : List MarkedClass} {c : MarkedClass} (h : c ∈ cs) :
    ∃ first, firstNamed cs c.name = some first := by
  refine Option.isSome_iff_exists.mp ?_
  rw [firstNamed, List.find?_isSome]
  exact ⟨c, h, by simp⟩

/-- A class agrees with the first of its name, or it is in conflict with it. -/
theorem same_or_mem_conflicts {cs : List MarkedClass} {c first : MarkedClass} (hc : c ∈ cs)
    (hfirst : firstNamed cs c.name = some first) :
    first.module.same c.module = true ∨
      ⟨c.name, first.module, c.module⟩ ∈ (({} : Imports).insertAll cs).conflicts := by
  by_cases hsame : first.module.same c.module
  · exact .inl hsame
  · refine .inr ?_
    rw [conflicts_insertAll_empty, List.mem_filterMap]
    exact ⟨c, hc, by simp [clash?, hfirst, hsame]⟩

/-- There is a conflict about a name exactly if two classes of that name come
from different modules. -/
theorem exists_conflict_iff (cs : List MarkedClass) (name : String) :
    (∃ k ∈ (({} : Imports).insertAll cs).conflicts, k.name = name) ↔
      ∃ a ∈ cs, ∃ b ∈ cs, a.name = name ∧ b.name = name ∧ a.module.same b.module = false := by
  constructor
  · rintro ⟨k, hk, rfl⟩
    rw [conflicts_insertAll_empty, List.mem_filterMap] at hk
    obtain ⟨c, hc, hclash⟩ := hk
    obtain ⟨first, hfirst⟩ := exists_firstNamed hc
    obtain ⟨hmem, hname⟩ := firstNamed_eq_some hfirst
    simp only [clash?, hfirst] at hclash
    split at hclash
    · cases hclash
    case isFalse hdiffer =>
      cases hclash
      exact ⟨first, hmem, c, hc, hname, rfl, by simpa using hdiffer⟩
  · rintro ⟨a, ha, b, hb, rfl, hname, hdiffer⟩
    obtain ⟨first, hfirst⟩ := exists_firstNamed ha
    -- both agree with the first of the name, and so with each other, or one does not
    rcases same_or_mem_conflicts ha hfirst with hsame | hconflict
    · rcases same_or_mem_conflicts hb (hname ▸ hfirst) with hsame' | hconflict
      · have hagree : a.module.components = b.module.components :=
          (Path.same_iff.mp hsame).symm.trans (Path.same_iff.mp hsame')
        rw [Path.same_iff.mpr hagree] at hdiffer
        cases hdiffer
      · exact ⟨_, hconflict, hname⟩
    · exact ⟨_, hconflict, rfl⟩

end Imports

end DispatchGen
