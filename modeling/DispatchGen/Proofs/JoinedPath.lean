/-
DispatchGen/Proofs/JoinedPath.lean

What is joined to a directory, and what is left when the directory is taken off again.

Joining is associative (`join_assoc`), so the files below a directory of a project are the
root joined to paths that do not mention the root.  Taking the root off such a path leaves
what was joined to it, but for blank pieces at either end (`stripPrefix?_join`): the root counts
as many components as it has in the longer path, however it is written.
-/
import DispatchGen.Proofs.ParentPath

namespace DispatchGen.Path

variable {p q r : Path}

/-! ### Joining twice -/

/-- What stands between a path and another one that is joined to it. -/
def separator (p : Path) : OsText :=
  if p.raw = [] || p.raw.getLast? = some slash then [] else [slash]

theorem join_raw (hq : q.isAbsolute = false) :
    (p.join q).raw = p.raw ++ p.separator ++ q.raw := by
  rw [join, hq, if_neg Bool.false_ne_true, separator]
  split <;> simp

theorem join_of_raw_empty (hp : p.raw = []) : p.join q = q := by
  rw [join]
  split
  case isTrue => rfl
  case isFalse => simp [hp]

theorem isAbsolute_join_of_relative (hp : p.isAbsolute = false) (hq : q.isAbsolute = false) :
    (p.join q).isAbsolute = false := by
  by_cases hempty : p.raw = []
  · rwa [join_of_raw_empty hempty]
  · rw [isAbsolute_join hempty hq, hp]

theorem separator_join (hp : p.raw ≠ []) (hq : q.isAbsolute = false) :
    (p.join q).separator = q.separator := by
  obtain ⟨cs, hjoin, -⟩ := exists_raw_join hp hq
  have hlast : (p.join q).raw.getLast? = some (q.raw.getLast?.getD slash) := by
    rw [hjoin, List.getLast?_append, List.getLast?_cons]
    rfl
  rw [separator, separator, hlast]
  by_cases hempty : q.raw = []
  · simp [hempty]
  · have hne : q.raw ≠ [] := by simpa using hempty
    simp [hempty, join_raw_ne hp hq, List.getLast?_eq_some_getLast hne]

theorem join_assoc (hp : p.raw ≠ []) (hq : q.isAbsolute = false) (hr : r.isAbsolute = false) :
    (p.join q).join r = p.join (q.join r) := by
  have hraw : ((p.join q).join r).raw = (p.join (q.join r)).raw := by
    rw [join_raw hr, join_raw hq, join_raw (isAbsolute_join_of_relative hq hr),
      separator_join hp hq, join_raw hr]
    simp only [List.append_assoc]
  exact congrArg Path.mk hraw

/-- What names lead to from a joined path is joined as well. -/
theorem descend_join (hp : p.raw ≠ []) (hq : q.isAbsolute = false) {names : Disk.Place}
    (hnames : ∀ name ∈ names, IsName name) :
    (p.join q).descend names = p.join (q.descend names) := by
  induction names generalizing q with
  | nil => rfl
  | cons name names ih =>
    obtain ⟨hname, hnames⟩ := List.forall_mem_cons.mp hnames
    rw [descend, List.foldl_cons, join_assoc hp hq hname.relative]
    exact ih (isAbsolute_join_of_relative hq hname.relative) hnames

/-! ### Taking the root off -/

/-- The path without blank pieces at either end. -/
def bare (q : Path) : Path := ofPieces false (trimBlank (q.pieces.dropWhile isBlank))

theorem dropSteps_append (ps qs : List OsText) :
    (dropSteps (ps.filterMap component?).length (ps ++ qs)).dropWhile isBlank
      = qs.dropWhile isBlank := by
  induction ps with
  | nil => rw [List.filterMap_nil, List.length_nil, List.nil_append, dropSteps]
  | cons piece ps ih =>
    by_cases hblank : isBlank piece = true
    case pos =>
      rw [List.filterMap_cons_none (component?_of_blank hblank), List.cons_append]
      cases hlength : (ps.filterMap component?).length with
      | zero =>
        rw [hlength, dropSteps] at ih
        rw [dropSteps, List.dropWhile_cons_of_pos hblank]
        exact ih
      | succ n =>
        rw [hlength] at ih
        rw [dropSteps, if_pos hblank]
        exact ih
    case neg =>
      obtain ⟨s, hs⟩ := exists_component? hblank
      rw [List.filterMap_cons_some hs, List.cons_append, List.length_cons, dropSteps,
        if_neg hblank]
      exact ih

/-- What is left of a path is told by its pieces and by what the prefix opens with. -/
theorem stripPrefix?_of_step {base : Path} {s : Component} {cs : List Component}
    (hbase : base.components = s :: cs) (hs : IsStep s)
    (hbelow : base.components.isPrefixOf p.components = true) :
    p.stripPrefix? base
      = some (ofPieces false
          (trimBlank ((dropSteps (s :: cs).length p.pieces).dropWhile isBlank))) := by
  rw [stripPrefix?, if_pos hbelow, hbase]
  rcases hs with rfl | ⟨name, rfl, -⟩ <;> rfl

/-- A root is taken off by counting its components, so it does not matter how it is written. -/
theorem stripPrefix?_join (hp : p.raw ≠ []) (hq : q.isAbsolute = false) :
    (p.join q).stripPrefix? p = some q.bare := by
  obtain ⟨ps, hjoin, hps, hne⟩ := exists_pieces_join hp hq
  have hsteps := steps_of_pieces hps
  have hbelow : p.components.isPrefixOf (p.join q).components = true := by
    rw [components_join hp hq, List.isPrefixOf_iff_prefix]
    exact List.prefix_append _ _
  have hcomponents := components_eq p
  rw [hsteps, opening] at hcomponents
  cases habsolute : p.isAbsolute with
  | true =>
    rw [habsolute, if_pos rfl] at hcomponents
    have hleft : (p.join q).stripPrefix? p = some (ofPieces false (trimBlank
        ((dropSteps (ps.filterMap component?).length (p.join q).pieces).dropWhile isBlank))) := by
      rw [stripPrefix?, if_pos hbelow, hcomponents]
      rfl
    rw [hleft, hjoin, dropSteps_append, bare]
  | false =>
    obtain ⟨x, xs, rfl⟩ := List.exists_cons_of_ne_nil (hne habsolute)
    have hhead : p.pieces.head? = some x := by
      rcases hps with hps | hps <;> rw [hps] <;> rfl
    rw [habsolute, hhead, if_neg Bool.false_ne_true] at hcomponents
    by_cases hdot : x = hereName
    case pos =>
      subst hdot
      have hleft : (p.join q).stripPrefix? p = some (ofPieces false (trimBlank
          ((dropSteps (xs.filterMap component?).length (p.join q).pieces.tail).dropWhile
            isBlank))) := by
        rw [stripPrefix?, if_pos hbelow, hcomponents]
        rfl
      rw [hleft, hjoin, List.cons_append, List.tail_cons, dropSteps_append, bare]
    case neg =>
      -- the first piece is a step of its own
      have hempty : x ≠ [] := by
        rintro rfl
        exact head?_pieces habsolute hp hhead
      have hsolid : ¬ isBlank x = true := by simp [isBlank, hempty, hdot]
      obtain ⟨s, hs⟩ := exists_component? hsolid
      have hcons := List.filterMap_cons_some (l := xs) hs
      have hstep : IsStep s := isStep_of_mem_steps (p := p) (by rw [hsteps, hcons]; simp)
      rw [if_neg (by simpa using hdot), List.nil_append, hcons] at hcomponents
      rw [stripPrefix?_of_step hcomponents hstep hbelow, hjoin, ← hcons, dropSteps_append, bare]

theorem Descends.bare (h : q.Descends) : q.bare.Descends := by
  have htrim := trimBlank_isPrefix (q.pieces.dropWhile isBlank)
  have hmem : ∀ piece ∈ trimBlank (q.pieces.dropWhile isBlank), piece ∈ q.pieces :=
    fun piece hpiece => (List.dropWhile_sublist isBlank).subset (htrim.subset hpiece)
  unfold Path.bare
  by_cases hne : trimBlank (q.pieces.dropWhile isBlank) = []
  case pos =>
    rw [hne]
    decide
  case neg =>
    have hhead : (trimBlank (q.pieces.dropWhile isBlank)).head? ≠ some [] := by
      intro hempty
      obtain ⟨rest, hrest⟩ := List.head?_eq_some_iff.mp hempty
      obtain ⟨more, hmore⟩ := htrim
      have hnot := List.head?_dropWhile_not isBlank q.pieces
      rw [← hmore, hrest] at hnot
      exact Bool.noConfusion (show isBlank [] = false from hnot)
    obtain ⟨hrelative, hpieces⟩ := pieces_ofPieces hne
      (fun piece hpiece => not_mem_of_mem_pieces (hmem piece hpiece)) fun _ => hhead
    refine ⟨hrelative, fun hup => h.noUp ?_⟩
    rw [components_eq, opening, hrelative, steps, hpieces] at hup
    rw [components_eq]
    refine List.mem_append_right _ ?_
    rcases List.mem_append.mp hup with hup | hup
    · split at hup <;> simp at hup
    · obtain ⟨piece, hpiece, hup⟩ := List.mem_filterMap.mp hup
      exact List.mem_filterMap.mpr ⟨piece, hmem piece hpiece, hup⟩

theorem Descends.join_name (h : q.Descends) {name : OsText} (hname : IsName name) :
    (q.join ⟨name⟩).Descends := by
  refine ⟨isAbsolute_join_of_relative h.relative hname.relative, ?_⟩
  by_cases hempty : q.raw = []
  · rw [join_of_raw_empty hempty, hname.components]
    simp
  · rw [components_join hempty hname.relative, hname.steps]
    simp [h.noUp]

/-- Names lead down from a path that descends. -/
theorem Descends.descend (h : q.Descends) {names : Disk.Place}
    (hnames : ∀ name ∈ names, IsName name) : (q.descend names).Descends := by
  induction names generalizing q with
  | nil => exact h
  | cons name names ih =>
    obtain ⟨hname, hnames⟩ := List.forall_mem_cons.mp hnames
    exact ih (h.join_name hname) hnames

end DispatchGen.Path
