/-
DispatchGen/Proofs/RelativePath.lean

The way from a directory to a file leads there.

A cleaned path is its meaning written down: it opens with the root or with a number of `..`, its
climbs, and goes on with names (`exists_components_clean`); cleaning such components again changes
nothing.  A relative path that is joined to a directory goes on cleaning where the directory ends
(`components_clean_join`), so the way from one path to another is followed on the cleaned
directory: its `..` undo what the directory has to itself, as long as that is names only, and
what follows is the rest of the target (`foldl_cleanStep_way`).

If the directory climbs further up than the target does, the two part at a `..`, which no other
`..` undoes: the way then climbs even further and misses the target.  A path that starts at the
root has no climbs, so there the way always leads to the target.
-/
import DispatchGen.Proofs.PathMeaning

namespace DispatchGen.Path

variable {p q dir target : Path} {absolute : Bool} {n : Nat} {names : List OsText}
  {done cs as bs : List Component}

/-! ### The shape of a cleaned path -/

/-- How many `..` a path opens with. -/
def climbs (p : Path) : Nat := (p.components.takeWhile (· = .up)).length

theorem reverse_base (absolute : Bool) (n : Nat) : (base absolute n).reverse = base absolute n := by
  cases absolute with
  | true => rfl
  | false => exact List.reverse_replicate

theorem takeWhile_names (names : List OsText) :
    (names.map Component.normal).takeWhile (· = .up) = [] := by
  cases names <;> rfl

theorem climbs_clean (p : Path) : p.clean.climbs = p.meaning.climbs := by
  rw [climbs, components_clean_eq]
  cases habsolute : p.meaning.absolute with
  | true =>
    have hnone : p.meaning.climbs = 0 := if_pos habsolute
    rw [hnone]
    rfl
  | false =>
    have hups : ∀ s ∈ List.replicate p.meaning.climbs Component.up, decide (s = .up) = true := by
      simp
    rw [base_false, List.takeWhile_append_of_pos hups, takeWhile_names, List.append_nil,
      List.length_replicate]

/-- A cleaned path opens with the root or with its climbs, and names follow. -/
theorem exists_components_clean (p : Path) :
    (p.isAbsolute = true → p.clean.climbs = 0) ∧
      ∃ names : List OsText,
        p.clean.components = base p.isAbsolute p.clean.climbs ++ names.map .normal := by
  rw [climbs_clean]
  exact ⟨fun habsolute => if_pos habsolute, p.meaning.names, components_clean_eq p⟩

/-! ### Cleaning what is clean -/

/-- Clean components stay as they are. -/
theorem foldl_cleanStep_base (absolute : Bool) (n : Nat) (names : List OsText) :
    (base absolute n ++ names.map Component.normal).foldl cleanStep []
      = (base absolute n ++ names.map Component.normal).reverse := by
  have hbase : (base absolute n).foldl cleanStep [] = base absolute n := by
    cases absolute with
    | true => rfl
    | false =>
      have hups := foldl_cleanStep_ups n 0
      rwa [Nat.zero_add] at hups
  rw [List.foldl_append, hbase, foldl_cleanStep_normal, List.reverse_append, reverse_base]

/-- As many `..` as there are names undo the names. -/
theorem foldl_cleanStep_undo (names : List OsText) (done : List Component) :
    (List.replicate names.length Component.up).foldl cleanStep
        ((names.map Component.normal).reverse ++ done) = done := by
  rw [← List.map_reverse, ← List.length_reverse]
  generalize names.reverse = names
  induction names with
  | nil => rfl
  | cons name names ih => exact ih

/-- What is joined to a path goes on where the cleaned path ends. -/
theorem components_clean_join (p : Path) (hq : q.isAbsolute = false) :
    (p.join q).clean.components
      = (q.steps.foldl cleanStep p.clean.components.reverse).reverse := by
  have hjoin : (p.join q).components.foldl cleanStep []
      = q.steps.foldl cleanStep (p.components.foldl cleanStep []) := by
    by_cases hempty : p.raw = []
    case pos =>
      obtain ⟨raw⟩ := p
      cases hempty
      rw [join_of_raw_empty rfl, components_eq q, List.foldl_append, foldl_opening hq]
      rfl
    case neg => rw [components_join hempty hq, List.foldl_append]
  rw [components_clean, components_clean, cleanComponents, cleanComponents, hjoin,
    List.reverse_reverse]

/-! ### The way between two paths -/

theorem isStep_of_mem_clean {s : Component} (h : s ∈ p.clean.components) (hroot : s ≠ .root) :
    IsStep s := by
  rw [components_clean] at h
  obtain ⟨ss, hss, hsteps⟩ := areClean_cleanComponents p
  rcases hss with hss | hss
  · rw [hss] at h
    exact hsteps s ((List.mem_cons.mp h).resolve_left hroot)
  · exact hsteps s (hss ▸ h)

/-- A path that is written from steps goes by these steps. -/
theorem steps_ofComponents (h : ∀ s ∈ cs, IsStep s) :
    (ofComponents cs).isAbsolute = false ∧ (ofComponents cs).steps = cs := by
  have hcomponents := components_ofComponents ⟨cs, .inr rfl, h⟩
  have hmem : ∀ s ∈ (ofComponents cs).opening, IsStep s := by
    intro s hs
    apply h
    rw [← hcomponents, components_eq]
    exact List.mem_append_left _ hs
  have hroot : ¬ IsStep .root := by simp [IsStep]
  have hhere : ¬ IsStep .here := by simp [IsStep]
  rw [components_eq] at hcomponents
  unfold opening at hcomponents hmem
  cases habsolute : (ofComponents cs).isAbsolute with
  | true =>
    rw [habsolute] at hmem
    exact absurd (hmem .root List.mem_cons_self) hroot
  | false =>
    rw [habsolute, if_neg Bool.false_ne_true] at hmem hcomponents
    refine ⟨rfl, ?_⟩
    split at hcomponents
    case isTrue hdot =>
      rw [if_pos hdot] at hmem
      exact absurd (hmem .here List.mem_cons_self) hhere
    case isFalse => exact hcomponents

/-- Steps that are joined to a path are followed from where the cleaned path ends. -/
theorem components_clean_join_ofComponents (p : Path) (h : ∀ s ∈ cs, IsStep s) :
    (p.join (ofComponents cs)).clean.components
      = (cs.foldl cleanStep p.clean.components.reverse).reverse := by
  obtain ⟨hrelative, hsteps⟩ := steps_ofComponents h
  rw [components_clean_join p hrelative, hsteps]

theorem take_sharedPrefix (as bs : List Component) :
    as.take (sharedPrefix as bs) = bs.take (sharedPrefix as bs) := by
  fun_induction sharedPrefix as bs with
  | case1 a as bs ih => rw [List.take_succ_cons, List.take_succ_cons, ih]
  | case2 => rfl
  | case3 => rfl

/-- The way from `as` to `bs`: up from what they do not share, then down. -/
def way (as bs : List Component) : List Component :=
  List.replicate (as.length - sharedPrefix as bs) .up ++ bs.drop (sharedPrefix as bs)

theorem relativeTo_eq_ofComponents_way (target dir : Path) :
    target.relativeTo dir = ofComponents (way dir.clean.components target.clean.components) := rfl

/-- What two lists share at their head plays no part. -/
theorem way_append (cs as bs : List Component) : way (cs ++ as) (cs ++ bs) = way as bs := by
  rw [way, way, sharedPrefix_append, List.length_append, Nat.add_sub_add_left, List.drop_append,
    List.drop_eq_nil_of_le (Nat.le_add_right _ _), List.nil_append, Nat.add_sub_cancel_left]

theorem isStep_of_mem_way {s : Component} (hbs : ∀ s ∈ bs, IsStep s) (h : s ∈ way as bs) :
    IsStep s := by
  rcases List.mem_append.mp h with h | h
  · exact .inl (List.eq_of_mem_replicate h)
  · exact hbs s (List.mem_of_mem_drop h)

/-- A way from names ends at the target, if all before the names is shared. -/
theorem foldl_cleanStep_way {m : Nat} {source goal : List OsText}
    (h : base absolute m ++ bs = base absolute n ++ goal.map Component.normal) :
    (way (source.map Component.normal) bs).foldl cleanStep
        (base absolute m ++ source.map Component.normal).reverse
      = (base absolute m ++ bs).reverse := by
  have hshared := take_sharedPrefix (source.map Component.normal) bs
  rw [way]
  generalize sharedPrefix (source.map Component.normal) bs = k at hshared
  have hup : (source.map Component.normal).length - k = (source.drop k).length := by simp
  have hsource : (base absolute m ++ source.map Component.normal).reverse
      = ((source.drop k).map Component.normal).reverse
        ++ (base absolute m ++ (source.take k).map Component.normal).reverse := by
    rw [← List.reverse_append, List.append_assoc, ← List.map_append, List.take_append_drop]
  have hbs : base absolute m ++ bs
      = (base absolute m ++ (source.take k).map Component.normal) ++ bs.drop k := by
    rw [List.map_take, hshared, List.append_assoc, List.take_append_drop]
  -- the target is clean, so it is reached from each of its first parts
  have hgoal := foldl_cleanStep_base absolute n goal
  rw [← h, hbs, List.foldl_append, foldl_cleanStep_base] at hgoal
  rw [List.foldl_append, hup, hsource, foldl_cleanStep_undo, hgoal, hbs]

/-- Steps that go up, and then down by names. -/
def UpThenDown (ss : List Component) : Prop :=
  ∃ (n : Nat) (names : List OsText), ss = List.replicate n .up ++ names.map .normal

theorem UpThenDown.of_prefix (h : UpThenDown bs) (hopens : as <+: bs) : UpThenDown as := by
  obtain ⟨n, names, rfl⟩ := h
  rw [List.prefix_iff_eq_take.mp hopens, List.take_append, List.take_replicate, ← List.map_take]
  exact ⟨_, _, rfl⟩

theorem UpThenDown.concat (h : UpThenDown bs) (name : OsText) :
    UpThenDown (bs ++ [.normal name]) := by
  obtain ⟨n, names, rfl⟩ := h
  refine ⟨n, names ++ [name], ?_⟩
  rw [List.map_append, List.append_assoc]
  rfl

theorem UpThenDown.way (h : UpThenDown bs) (as : List Component) : UpThenDown (way as bs) := by
  obtain ⟨n, names, rfl⟩ := h
  rw [Path.way, List.drop_append, List.drop_replicate, ← List.map_drop, ← List.append_assoc,
    List.replicate_append_replicate]
  exact ⟨_, _, rfl⟩

/-- What a target has behind the climbs of the directory, if there are no more of these. -/
theorem exists_components_behind (hsame : dir.isAbsolute = target.isAbsolute)
    (hle : dir.clean.climbs ≤ target.clean.climbs) :
    ∃ bs, target.clean.components = base dir.isAbsolute dir.clean.climbs ++ bs ∧
      UpThenDown bs ∧ ∀ s ∈ bs, IsStep s := by
  obtain ⟨hroot, names, hnames⟩ := exists_components_clean target
  have hbase : base target.isAbsolute target.clean.climbs
      = base dir.isAbsolute dir.clean.climbs
        ++ List.replicate (target.clean.climbs - dir.clean.climbs) .up := by
    rw [hsame]
    cases habsolute : target.isAbsolute with
    | true =>
      rw [hroot habsolute, Nat.zero_sub, List.replicate_zero, List.append_nil, base_true,
        base_true]
    | false =>
      rw [base_false, base_false, List.replicate_append_replicate, Nat.add_sub_cancel' hle]
  rw [hbase, List.append_assoc] at hnames
  refine ⟨_, hnames, ⟨_, names, rfl⟩, fun s hs => isStep_of_mem_clean (p := target) ?_ ?_⟩
  · rw [hnames]
    exact List.mem_append_right _ hs
  · rintro rfl
    simp at hs

/-- A way is followed to its end, if the directory climbs no further up than the target. -/
theorem components_clean_join_relativeTo (hsame : dir.isAbsolute = target.isAbsolute)
    (hle : dir.clean.climbs ≤ target.clean.climbs) :
    (dir.join (target.relativeTo dir)).clean.components = target.clean.components := by
  obtain ⟨-, source, hsource⟩ := exists_components_clean dir
  obtain ⟨-, goal, hgoal⟩ := exists_components_clean target
  obtain ⟨bs, hbs, -, hsteps⟩ := exists_components_behind hsame hle
  rw [← hsame, hbs] at hgoal
  rw [relativeTo_eq_ofComponents_way, hsource, hbs, way_append,
    components_clean_join_ofComponents dir fun s hs => isStep_of_mem_way hsteps hs, hsource,
    foldl_cleanStep_way hgoal, List.reverse_reverse]

/-- A directory that climbs further up than the target: the way climbs once more by as many `..`
as there are too many. -/
theorem components_clean_join_relativeTo_of_lt (hdir : dir.isAbsolute = false)
    (htarget : target.isAbsolute = false) (hlt : target.clean.climbs < dir.clean.climbs) :
    ∃ goal : List OsText, (dir.join (target.relativeTo dir)).clean.components
        = List.replicate (dir.clean.climbs + (dir.clean.climbs - target.clean.climbs)) .up
          ++ goal.map .normal ∧
      target.clean.components = List.replicate target.clean.climbs .up ++ goal.map .normal := by
  obtain ⟨-, source, hsource⟩ := exists_components_clean dir
  obtain ⟨-, goal, hgoal⟩ := exists_components_clean target
  rw [hdir] at hsource
  rw [htarget] at hgoal
  refine ⟨goal, ?_, hgoal⟩
  obtain ⟨k, hk⟩ := Nat.exists_eq_add_of_lt hlt
  generalize dir.clean.climbs = m at *
  generalize target.clean.climbs = n at *
  subst hk
  -- what they share ends before the first `..` that is too many
  have hshared : sharedPrefix (List.replicate (k + 1) Component.up ++ source.map .normal)
      (goal.map .normal) = 0 := by
    cases goal with
    | nil => rfl
    | cons name goal => rfl
  have hway : way dir.clean.components target.clean.components
      = List.replicate source.length .up ++ List.replicate (k + 1) .up ++ goal.map .normal := by
    have hbase : base false (n + k + 1) = base false n ++ List.replicate (k + 1) .up := by
      rw [base_false, base_false, List.replicate_append_replicate, Nat.add_assoc]
    rw [hsource, hgoal, hbase, List.append_assoc, way_append, way, hshared,
      List.replicate_append_replicate]
    simp [Nat.add_comm]
  have hsteps : ∀ s ∈ way dir.clean.components target.clean.components, IsStep s := by
    intro s hs
    refine isStep_of_mem_way (fun s hs => isStep_of_mem_clean (p := target) hs ?_) hs
    rintro rfl
    rw [hgoal] at hs
    simp [base] at hs
  have hmore : n + k + 1 - n = k + 1 := by omega
  rw [relativeTo_eq_ofComponents_way, components_clean_join_ofComponents dir hsteps, hway,
    hsource, List.reverse_append, List.foldl_append, List.foldl_append, foldl_cleanStep_undo,
    reverse_base, base_false, foldl_cleanStep_ups, foldl_cleanStep_normal, List.reverse_append,
    List.reverse_reverse, List.reverse_replicate, hmore]

/-! ### Main statement -/

/-- **Where relative paths lead.**  Take a directory and a target that both start at the root, or
both do not.  The way from the one to the other, followed from the directory, is the target up to
cleaning exactly if the cleaned directory opens with no more `..` than the cleaned target.  It
makes no difference whether cleaned paths are compared as they are written or by their components.
For paths that start at the root the condition always holds. -/
theorem clean_join_relativeTo_iff {dir target : Path}
    (h : dir.isAbsolute = target.isAbsolute) :
    ((dir.join (target.relativeTo dir)).clean = target.clean ↔
        dir.clean.climbs ≤ target.clean.climbs) ∧
      ((dir.join (target.relativeTo dir)).clean.same target.clean = true ↔
        dir.clean.climbs ≤ target.clean.climbs) ∧
      (dir.isAbsolute = true → dir.clean.climbs ≤ target.clean.climbs) := by
  obtain ⟨hroot, -⟩ := exists_components_clean dir
  have hcomponents : (dir.join (target.relativeTo dir)).clean.components
      = target.clean.components ↔ dir.clean.climbs ≤ target.clean.climbs := by
    constructor
    · intro heq
      refine Nat.le_of_not_lt fun hlt => ?_
      have hdir : dir.isAbsolute = false := by
        cases habsolute : dir.isAbsolute with
        | true =>
          rw [hroot habsolute] at hlt
          exact absurd hlt (Nat.not_lt_zero _)
        | false => rfl
      obtain ⟨goal, hjoin, hgoal⟩ :=
        components_clean_join_relativeTo_of_lt hdir (h ▸ hdir) hlt
      -- the two differ in the number of their components
      have hlength := congrArg List.length heq
      rw [hjoin, hgoal, List.length_append, List.length_append, List.length_replicate,
        List.length_replicate] at hlength
      omega
    · exact components_clean_join_relativeTo h
  refine ⟨clean_eq_iff.trans hcomponents, ?_, fun habsolute => ?_⟩
  · rw [same, decide_eq_true_iff]
    exact hcomponents
  · rw [hroot habsolute]
    exact Nat.zero_le _

/-- Two directories above the one that both paths start from, the way to a file one directory
above misses it; from one directory above it leads there. -/
theorem clean_join_relativeTo_iff_above :
    (⟨"a/../../../gen"⟩ : Path).isAbsolute = (⟨"../src/./b.ts"⟩ : Path).isAbsolute ∧
      ((⟨"a/../../../gen"⟩ : Path).join
          ((⟨"../src/./b.ts"⟩ : Path).relativeTo ⟨"a/../../../gen"⟩)).clean
        ≠ (⟨"../src/./b.ts"⟩ : Path).clean ∧
      (⟨"../src/gen"⟩ : Path).isAbsolute = (⟨"../src/./b.ts"⟩ : Path).isAbsolute ∧
      ((⟨"../src/gen"⟩ : Path).join ((⟨"../src/./b.ts"⟩ : Path).relativeTo ⟨"../src/gen"⟩)).clean
        = (⟨"../src/./b.ts"⟩ : Path).clean := by
  have hmisses := @clean_join_relativeTo_iff ⟨"a/../../../gen"⟩ ⟨"../src/./b.ts"⟩ (by decide)
  have hleads := @clean_join_relativeTo_iff ⟨"../src/gen"⟩ ⟨"../src/./b.ts"⟩ (by decide)
  refine ⟨by decide, ?_, by decide, hleads.1.mpr (by decide +kernel)⟩
  intro heq
  exact absurd (hmisses.1.mp heq) (by decide +kernel)

end DispatchGen.Path
