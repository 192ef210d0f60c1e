/-
DispatchGen/Proofs/CleanPath.lean

Cleaned paths, the path above a path, and the way from one to another.

A cleaned path is written anew from its components, and reads as these components
(`components_clean`).  Names at the end of a path survive the cleaning, whatever stands before
them (`cleanComponents_append`).  So where two paths share their first part, no matter how often
it goes up and down, that part cancels out of the way from one to the other
(`relativeTo_of_components`).
-/
import DispatchGen.Path.Clean
import DispatchGen.Proofs.ParentPath

namespace DispatchGen.Path

/-! ### Paths that are written from components -/

variable {p q : Path} {s : Component} {ss cs : List Component}

theorem components_join_step (hp : p.raw ≠ []) (hs : IsStep s) :
    (p.join ⟨s.raw⟩).raw ≠ [] ∧ (p.join ⟨s.raw⟩).components = p.components ++ [s] := by
  rcases hs with rfl | ⟨name, rfl, hname⟩
  · have hrelative : (⟨".."⟩ : Path).isAbsolute = false := by decide
    exact ⟨join_raw_ne hp hrelative, components_join hp hrelative⟩
  · refine ⟨join_raw_ne hp hname.relative, ?_⟩
    rw [← hname.steps]
    exact components_join hp hname.relative

theorem components_foldl_join (hp : p.raw ≠ []) (hss : ∀ s ∈ ss, IsStep s) :
    (ss.foldl (fun p c => p.join ⟨c.raw⟩) p).components = p.components ++ ss := by
  induction ss generalizing p with
  | nil => rw [List.foldl_nil, List.append_nil]
  | cons s ss ih =>
    obtain ⟨htext, hcomponents⟩ := components_join_step hp (hss s List.mem_cons_self)
    rw [List.foldl_cons, ih htext fun x hx => hss x (List.mem_cons_of_mem s hx), hcomponents,
      List.append_assoc]
    rfl

/-- The components of a cleaned path: the root or nothing, then steps. -/
def AreClean (cs : List Component) : Prop :=
  ∃ ss, (cs = .root :: ss ∨ cs = ss) ∧ ∀ s ∈ ss, IsStep s

/-- What is written from such components reads as them. -/
theorem components_ofComponents (h : AreClean cs) : (ofComponents cs).components = cs := by
  obtain ⟨ss, hcs, hss⟩ := h
  rcases hcs with rfl | rfl
  · have hroot : (⟨"/"⟩ : Path).components = [.root] := by decide
    exact (components_foldl_join (p := ⟨"/"⟩) (by decide) hss).trans (by rw [hroot]; rfl)
  · cases cs with
    | nil => decide
    | cons s ss =>
      obtain ⟨hs, hss⟩ := List.forall_mem_cons.mp hss
      have hfirst : (⟨s.raw⟩ : Path).raw ≠ [] ∧ (⟨s.raw⟩ : Path).isAbsolute = false ∧
          (⟨s.raw⟩ : Path).components = [s] := by
        rcases hs with rfl | ⟨name, rfl, hname⟩
        · decide
        · exact ⟨hname.ne_empty, hname.relative, hname.components⟩
      have hjoin : (⟨[]⟩ : Path).join ⟨s.raw⟩ = ⟨s.raw⟩ := by
        rw [join, hfirst.2.1]
        simp
      rw [ofComponents, List.foldl_cons, hjoin, components_foldl_join hfirst.1 hss, hfirst.2.2]
      rfl

/-! ### Cleaning -/

theorem foldl_cleanStep_normal (done : List Component) (names : List OsText) :
    (names.map Component.normal).foldl cleanStep done
      = (names.map Component.normal).reverse ++ done := by
  induction names generalizing done with
  | nil => rfl
  | cons name names ih =>
    rw [List.map_cons, List.foldl_cons, ih, List.reverse_cons, List.append_assoc]
    rfl

/-- Names at the end of a path survive its cleaning. -/
theorem cleanComponents_append (cs : List Component) (names : List OsText) :
    cleanComponents (cs ++ names.map .normal) = cleanComponents cs ++ names.map .normal := by
  rw [cleanComponents, List.foldl_append, foldl_cleanStep_normal, List.reverse_append,
    List.reverse_reverse]
  rfl

/-- The cleaned steps so far, last first: steps, and behind them the root or nothing. -/
def AreDone (done : List Component) : Prop :=
  ∃ ss, (done = ss ++ [.root] ∨ done = ss) ∧ ∀ s ∈ ss, IsStep s

theorem AreDone.cons {done : List Component} (h : AreDone done) (hs : IsStep s) :
    AreDone (s :: done) := by
  obtain ⟨ss, hdone, hss⟩ := h
  refine ⟨s :: ss, ?_, List.forall_mem_cons.mpr ⟨hs, hss⟩⟩
  exact hdone.imp (congrArg (s :: ·)) (congrArg (s :: ·))

theorem AreDone.cleanStep {done : List Component} (h : AreDone done) (hs : IsStep s) :
    AreDone (cleanStep done s) := by
  rcases hs with rfl | ⟨name, rfl, hname⟩
  case inr => exact h.cons (.inr ⟨name, rfl, hname⟩)
  case inl =>
    obtain ⟨ss, hdone, hss⟩ := id h
    cases ss with
    | nil =>
      rcases hdone with rfl | rfl
      · exact ⟨[], .inl rfl, hss⟩
      · exact ⟨[.up], .inr rfl, List.forall_mem_singleton.mpr (.inl rfl)⟩
    | cons x rest =>
      obtain ⟨hx, hrest⟩ := List.forall_mem_cons.mp hss
      rcases hx with rfl | ⟨name, rfl, -⟩
      · -- there is no name that it could undo
        rcases hdone with rfl | rfl <;> exact h.cons (.inl rfl)
      · rcases hdone with rfl | rfl
        · exact ⟨rest, .inl rfl, hrest⟩
        · exact ⟨rest, .inr rfl, hrest⟩

theorem AreDone.foldl_cleanStep {done : List Component} (h : AreDone done)
    (hss : ∀ s ∈ ss, IsStep s) : AreDone (ss.foldl Path.cleanStep done) := by
  induction ss generalizing done with
  | nil => exact h
  | cons s ss ih =>
    obtain ⟨hs, hss⟩ := List.forall_mem_cons.mp hss
    exact ih (h.cleanStep hs) hss

theorem areClean_cleanComponents (p : Path) : AreClean (cleanComponents p.components) := by
  have hopening : AreDone (p.opening.foldl cleanStep []) := by
    unfold opening
    split
    · exact ⟨[], .inl rfl, by simp⟩
    · split <;> exact ⟨[], .inr rfl, by simp⟩
  obtain ⟨ss, hdone, hss⟩ := hopening.foldl_cleanStep fun s hs => isStep_of_mem_steps hs
  rw [cleanComponents, components_eq, List.foldl_append]
  refine ⟨ss.reverse, ?_, fun s hs => hss s (List.mem_reverse.mp hs)⟩
  rcases hdone with hdone | hdone <;> rw [hdone]
  · exact .inl List.reverse_concat
  · exact .inr rfl

theorem components_clean (p : Path) : p.clean.components = cleanComponents p.components :=
  components_ofComponents (areClean_cleanComponents p)

/-! ### The way from one path to another -/

theorem sharedPrefix_append (cs as bs : List Component) :
    sharedPrefix (cs ++ as) (cs ++ bs) = cs.length + sharedPrefix as bs := by
  induction cs with
  | nil => simp
  | cons c cs ih =>
    rw [List.cons_append, List.cons_append, sharedPrefix, if_pos rfl, ih, List.length_cons]
    omega

/-- What two paths share cancels out of the way from one to the other. -/
theorem relativeTo_of_components {target dir : Path} {goal source : List OsText}
    (htarget : target.components = cs ++ goal.map .normal)
    (hdir : dir.components = cs ++ source.map .normal) :
    target.relativeTo dir
      = ofComponents (List.replicate
          (source.length - sharedPrefix (source.map .normal) (goal.map .normal)) .up ++
          (goal.map .normal).drop (sharedPrefix (source.map .normal) (goal.map .normal))) := by
  rw [relativeTo]
  simp only [components_clean, htarget, hdir, cleanComponents_append, sharedPrefix_append,
    List.length_append, List.length_map, Nat.add_sub_add_left]
  rw [List.drop_append, List.drop_eq_nil_of_le (Nat.le_add_right _ _),
    List.nil_append, Nat.add_sub_cancel_left]

/-! ### The path above -/

/-- What pieces read as, behind a leading `/` or not. -/
def componentsOf (absolute : Bool) (ps : List OsText) : List Component :=
  if absolute then .root :: ps.filterMap component?
  else
    match ps with
    | hereName :: rest => .here :: rest.filterMap component?
    | ps => ps.filterMap component?

theorem components_eq_componentsOf (p : Path) :
    p.components = componentsOf p.isAbsolute p.pieces := rfl

theorem componentsOf_of_head? {ps : List OsText} (h : ps.head? ≠ some hereName) :
    componentsOf false ps = ps.filterMap component? := by
  unfold componentsOf
  rw [if_neg Bool.false_ne_true]
  split
  case h_1 rest => exact absurd rfl h
  case h_2 => rfl

theorem filterMap_trimBlank (ps : List OsText) :
    (trimBlank ps).filterMap component? = ps.filterMap component? := by
  induction ps with
  | nil => rfl
  | cons piece ps ih =>
    rw [trimBlank]
    cases htrim : trimBlank ps with
    | nil =>
      rw [htrim] at ih
      by_cases hblank : isBlank piece = true
      · simp [hblank, component?_of_blank hblank, ← ih]
      · simp [hblank, List.filterMap_cons, ← ih]
    | cons solid rest =>
      rw [htrim] at ih
      cases hpiece : component? piece with
      | none => rw [List.filterMap_cons_none hpiece, List.filterMap_cons_none hpiece, ih]
      | some s => rw [List.filterMap_cons_some hpiece, List.filterMap_cons_some hpiece, ih]

/-- Pieces after the last component make no difference. -/
theorem componentsOf_solidPieces (p : Path) :
    componentsOf p.isAbsolute p.solidPieces = p.components := by
  rw [components_eq_componentsOf]
  unfold solidPieces
  split
  case h_1 ps habsolute hpieces =>
    rw [habsolute, hpieces]
    exact congrArg (Component.here :: ·) (filterMap_trimBlank ps)
  case h_2 hnot =>
    cases habsolute : p.isAbsolute with
    | true => exact congrArg (Component.root :: ·) (filterMap_trimBlank p.pieces)
    | false =>
      have hhead : p.pieces.head? ≠ some hereName := by
        intro hhead
        obtain ⟨ps, hps⟩ := List.head?_eq_some_iff.mp hhead
        exact hnot ps habsolute hps
      have hhead' : (trimBlank p.pieces).head? ≠ some hereName := by
        intro hdot
        obtain ⟨ps, hps⟩ := List.head?_eq_some_iff.mp hdot
        obtain ⟨more, hmore⟩ := trimBlank_isPrefix p.pieces
        rw [hps] at hmore
        exact hhead (by rw [← hmore]; rfl)
      rw [componentsOf_of_head? hhead, componentsOf_of_head? hhead', filterMap_trimBlank]

/-- The last solid piece is a component of its own. -/
theorem componentsOf_concat {above : List OsText} {last : OsText}
    (h : p.solidPieces = above ++ [last]) :
    componentsOf p.isAbsolute above = p.components.dropLast := by
  rw [← componentsOf_solidPieces, h]
  rcases isBlank_of_solidPieces h with hblank | ⟨rfl, rfl, hrelative⟩
  case inr =>
    rw [hrelative]
    rfl
  case inl =>
    have hsolid : ¬ isBlank last = true := by simp [hblank]
    obtain ⟨s, hs⟩ := exists_component? hsolid
    have happend : ∀ xs, (xs ++ [last]).filterMap component? = xs.filterMap component? ++ [s] := by
      intro xs
      rw [List.filterMap_append, List.filterMap_cons_some hs]
      rfl
    cases p.isAbsolute with
    | true =>
      change Component.root :: _ = (Component.root :: _).dropLast
      rw [happend, ← List.cons_append, List.dropLast_concat]
    | false =>
      by_cases hhead : above.head? = some hereName
      case pos =>
        obtain ⟨rest, rfl⟩ := List.head?_eq_some_iff.mp hhead
        change Component.here :: _ = (Component.here :: (rest ++ [last]).filterMap _).dropLast
        rw [happend, ← List.cons_append, List.dropLast_concat]
      case neg =>
        have hhead' : (above ++ [last]).head? ≠ some hereName := by
          cases above with
          | nil =>
            intro hdot
            cases hdot
            exact absurd hblank (by decide)
          | cons y ys => exact hhead
        rw [componentsOf_of_head? hhead, componentsOf_of_head? hhead', happend,
          List.dropLast_concat]

theorem components_ofPieces_of_isPrefix {ps : List OsText} (h : ps <+: p.solidPieces) :
    (ofPieces p.isAbsolute ps).isAbsolute = p.isAbsolute ∧
      (ofPieces p.isAbsolute ps).components = componentsOf p.isAbsolute ps := by
  by_cases hne : ps = []
  case pos =>
    subst hne
    cases p.isAbsolute <;> decide
  case neg =>
    obtain ⟨habsolute, hpieces⟩ := pieces_ofPieces_of_isPrefix hne h
    refine ⟨habsolute, ?_⟩
    rw [components, habsolute, hpieces]
    rfl

/-- The path above a path has all its components but the last. -/
theorem components_of_parent? {parent : Path} (h : p.parent? = some parent) :
    parent.components = p.components.dropLast := by
  rw [parent?] at h
  split at h
  case h_1 => cases h
  case h_2 last above hreverse =>
    cases h
    have hsolid : p.solidPieces = above.reverse ++ [last] := by
      rw [← List.reverse_reverse p.solidPieces, hreverse, List.reverse_cons]
    obtain ⟨habsolute, hcomponents⟩ :=
      components_ofPieces_of_isPrefix (p := p) ⟨[last], hsolid.symm⟩
    -- it is written twice, the second time without blank pieces at its end
    have hagain := components_ofPieces_of_isPrefix
      (p := ofPieces p.isAbsolute above.reverse) List.prefix_rfl
    rw [componentsOf_solidPieces, habsolute] at hagain
    rw [hagain.2, hcomponents, componentsOf_concat hsolid]

theorem exists_parent? {name : OsText} (h : Component.normal name ∈ p.components) :
    ∃ parent, p.parent? = some parent := by
  have hsolid : p.solidPieces ≠ [] := by
    intro hnil
    rw [← componentsOf_solidPieces, hnil] at h
    cases hp : p.isAbsolute <;> simp [componentsOf, hp] at h
  obtain ⟨last, rest, hreverse⟩ :=
    List.exists_cons_of_ne_nil (mt List.reverse_eq_nil_iff.mp hsolid)
  rw [parent?, hreverse]
  exact ⟨_, rfl⟩

end DispatchGen.Path
