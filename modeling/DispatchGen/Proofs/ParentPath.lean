/-
DispatchGen/Proofs/ParentPath.lean

The pieces of the path above a path.

The parent of a path is written anew from the pieces before its last component.
Without the blank pieces at its end it goes by the first of the same pieces
(`exists_pieces_of_parent?`), so that a walk along a path goes along its parent first;
and what is left of the path has a piece that is not empty, so the walk goes on from
there.
-/
import DispatchGen.Proofs.LexicalPath

namespace DispatchGen.Path

/-! ### Paths that are written from pieces -/

section Pieces

variable {α : Type} [DecidableEq α]

theorem splitPieces_intercalate {sep : α} {ps : List (List α)} (hne : ps ≠ [])
    (h : ∀ piece ∈ ps, sep ∉ piece) : splitPieces sep ([sep].intercalate ps) = ps := by
  induction ps with
  | nil => exact absurd rfl hne
  | cons piece ps ih =>
    have hpiece := splitPieces_of_not_mem (h piece List.mem_cons_self)
    cases ps with
    | nil => rw [List.intercalate_singleton, hpiece]
    | cons next ps =>
      rw [List.intercalate_cons_cons, List.append_assoc, List.singleton_append,
        splitPieces_append, hpiece, ih (by simp) fun x hx => h x (List.mem_cons_of_mem _ hx)]
      rfl

/-- What is no separator is kept in the pieces. -/
theorem exists_mem_splitPieces {sep c : α} (hne : c ≠ sep) (cs : List α) :
    (∃ piece ∈ splitPieces sep cs, c ∈ piece) ↔ c ∈ cs := by
  induction cs with
  | nil => simp [splitPieces]
  | cons x xs ih =>
    obtain ⟨piece, rest, hxs⟩ := List.exists_cons_of_ne_nil (splitPieces_ne_nil sep xs)
    rw [hxs] at ih
    rw [splitPieces, hxs, List.mem_cons, ← ih]
    by_cases hx : x = sep
    · simp [hx, hne]
    · simp [hx, or_assoc]

end Pieces

theorem exists_mem_pieces {p : Path} {b : UInt8} (hne : b ≠ slash) :
    (∃ piece ∈ p.pieces, b ∈ piece) ↔ b ∈ p.raw := by
  rw [pieces, exists_mem_splitPieces hne]
  split
  case isFalse => rfl
  case isTrue habsolute =>
    obtain ⟨bs, hbs⟩ := List.head?_eq_some_iff.mp (of_decide_eq_true habsolute)
    simp [hbs, hne]

/-- A path that is written from pieces has these pieces. -/
theorem pieces_ofPieces {absolute : Bool} {ps : List OsText} (hne : ps ≠ [])
    (hslash : ∀ piece ∈ ps, slash ∉ piece)
    (hhead : absolute = false → ps.head? ≠ some []) :
    (ofPieces absolute ps).isAbsolute = absolute ∧ (ofPieces absolute ps).pieces = ps := by
  have hsplit := splitPieces_intercalate hne hslash
  have habsolute : (ofPieces absolute ps).isAbsolute = absolute := by
    rw [isAbsolute, ofPieces]
    cases absolute with
    | true => simp
    | false =>
      -- the first piece opens the path, and holds no slash
      obtain ⟨piece, rest, rfl⟩ := List.exists_cons_of_ne_nil hne
      have hpiece : piece ≠ [] := by simpa using hhead rfl
      obtain ⟨x, xs, rfl⟩ := List.exists_cons_of_ne_nil hpiece
      have hxslash : x ≠ slash := by
        rintro rfl
        exact hslash _ List.mem_cons_self List.mem_cons_self
      cases rest <;> simp [hxslash, List.intercalate_cons_cons]
  refine ⟨habsolute, ?_⟩
  rw [pieces, habsolute, ofPieces]
  cases absolute <;> exact hsplit

/-! ### Solid pieces -/

theorem trimBlank_isPrefix (ps : List OsText) : trimBlank ps <+: ps := by
  induction ps with
  | nil => exact List.prefix_rfl
  | cons piece ps ih =>
    rw [trimBlank]
    split
    case h_1 =>
      split
      · exact List.nil_prefix
      · exact List.cons_prefix_cons.mpr ⟨rfl, List.nil_prefix⟩
    case h_2 hsolid => exact List.cons_prefix_cons.mpr ⟨rfl, ih⟩

theorem isBlank_of_trimBlank {ps xs : List OsText} {x : OsText} (h : trimBlank ps = xs ++ [x]) :
    isBlank x = false := by
  induction ps generalizing xs with
  | nil => simp [trimBlank] at h
  | cons piece ps ih =>
    rw [trimBlank] at h
    split at h
    case h_1 hnone =>
      split at h
      case isTrue => simp at h
      case isFalse hpiece =>
        have hlast := congrArg List.getLast? h
        rw [List.getLast?_singleton, List.getLast?_concat] at hlast
        cases hlast
        simpa using hpiece
    case h_2 hsome =>
      cases xs with
      | nil =>
        obtain ⟨-, hnil⟩ := List.cons.inj h
        exact absurd hnil hsome
      | cons y ys => exact ih (List.cons.inj h).2

variable {p : Path}

/-- The solid pieces are the pieces of which there is no more than blank ones after the
last component. -/
theorem solidPieces_cases (p : Path) :
    p.solidPieces = trimBlank p.pieces ∨
      ∃ ps, p.pieces = hereName :: ps ∧ p.solidPieces = hereName :: trimBlank ps ∧
        p.isAbsolute = false := by
  unfold solidPieces
  split
  case h_1 ps hrelative hpieces => exact .inr ⟨ps, hpieces, rfl, hrelative⟩
  case h_2 => exact .inl rfl

theorem solidPieces_isPrefix (p : Path) : p.solidPieces <+: p.pieces := by
  rcases solidPieces_cases p with hsolid | ⟨ps, hpieces, hsolid, -⟩
  · rw [hsolid]
    exact trimBlank_isPrefix _
  · rw [hsolid, hpieces]
    exact List.cons_prefix_cons.mpr ⟨rfl, trimBlank_isPrefix ps⟩

/-- The last solid piece names a step, unless it is the `.` that a relative path opens with. -/
theorem isBlank_of_solidPieces {xs : List OsText} {x : OsText} (h : p.solidPieces = xs ++ [x]) :
    isBlank x = false ∨ xs = [] ∧ x = hereName ∧ p.isAbsolute = false := by
  rcases solidPieces_cases p with hsolid | ⟨ps, -, hsolid, hrelative⟩
  · exact .inl (isBlank_of_trimBlank (hsolid ▸ h))
  · rw [hsolid] at h
    cases xs with
    | nil => exact .inr ⟨rfl, (List.cons.inj h).1.symm, hrelative⟩
    | cons y ys => exact .inl (isBlank_of_trimBlank (List.cons.inj h).2)

theorem ne_empty_of_solidPieces {xs : List OsText} {x : OsText} (h : p.solidPieces = xs ++ [x]) :
    x ≠ [] := by
  rintro rfl
  rcases isBlank_of_solidPieces h with hblank | ⟨-, hdot, -⟩
  · exact absurd hblank (by decide)
  · exact absurd hdot (by decide)

/-- A relative path that is not empty has something before its first slash. -/
theorem head?_pieces (h : p.isAbsolute = false) (hne : p.raw ≠ []) :
    p.pieces.head? ≠ some [] := by
  rw [pieces, h]
  cases htext : p.raw with
  | nil => exact absurd htext (by simpa using hne)
  | cons x xs =>
    have hx : x ≠ slash := by
      rintro rfl
      rw [isAbsolute, htext] at h
      simp at h
    obtain ⟨piece, rest, hxs⟩ := List.exists_cons_of_ne_nil (splitPieces_ne_nil slash xs)
    simp [splitPieces, hxs, hx]

/-- Only the empty path has no piece but empty ones. -/
theorem raw_of_empty_pieces (h : p.isAbsolute = false) (hempty : ∀ piece ∈ p.pieces, piece = []) :
    p.raw = [] := by
  refine Decidable.byContradiction fun hne => ?_
  obtain ⟨x, xs, hpieces⟩ : ∃ x xs, p.pieces = x :: xs := by
    refine List.exists_cons_of_ne_nil fun hnil => ?_
    exact splitPieces_ne_nil _ _ hnil
  have hx : x = [] := hempty x (by rw [hpieces]; exact List.mem_cons_self)
  exact head?_pieces h hne (by rw [hpieces, hx]; rfl)

/-- A relative path has something before its first slash, or no solid piece. -/
theorem head?_solidPieces (h : p.isAbsolute = false) : p.solidPieces.head? ≠ some [] := by
  intro hhead
  obtain ⟨rest, hrest⟩ := List.head?_eq_some_iff.mp hhead
  by_cases hempty : p.raw = []
  · -- an empty path has one piece, which is blank
    obtain ⟨raw⟩ := p
    cases hempty
    cases hrest
  · obtain ⟨more, hmore⟩ := solidPieces_isPrefix p
    rw [hrest] at hmore
    exact head?_pieces h hempty (by rw [← hmore]; rfl)

/-- What is written from the first solid pieces of a path has these pieces. -/
theorem pieces_ofPieces_of_isPrefix {ps : List OsText} (hne : ps ≠ []) (h : ps <+: p.solidPieces) :
    (ofPieces p.isAbsolute ps).isAbsolute = p.isAbsolute ∧
      (ofPieces p.isAbsolute ps).pieces = ps := by
  refine pieces_ofPieces hne (fun piece hpiece => ?_) fun hrelative => ?_
  · exact not_mem_of_mem_pieces ((h.trans (solidPieces_isPrefix p)).subset hpiece)
  · obtain ⟨x, xs, rfl⟩ := List.exists_cons_of_ne_nil hne
    obtain ⟨more, hmore⟩ := h
    have hhead := head?_solidPieces hrelative
    rwa [← hmore] at hhead

/-! ### The path above -/

/-- The parent of a path goes by the first of its pieces; among those that it leaves is
one that is not empty. -/
theorem exists_pieces_of_parent? {parent : Path} (h : p.parent? = some parent)
    (hne : parent.raw ≠ []) :
    parent.isAbsolute = p.isAbsolute ∧ ∃ ps rest, p.pieces = ps ++ rest ∧
      (∃ piece ∈ rest, piece ≠ []) ∧ (parent.pieces = ps ∨ parent.pieces = [[]] ∧ ps = []) := by
  rw [parent?] at h
  split at h
  case h_1 => cases h
  case h_2 last above hreverse =>
    cases h
    have hsolid : p.solidPieces = above.reverse ++ [last] := by
      rw [← List.reverse_reverse p.solidPieces, hreverse, List.reverse_cons]
    have hlast := ne_empty_of_solidPieces hsolid
    have habove : above.reverse <+: p.solidPieces := ⟨[last], hsolid.symm⟩
    -- blank pieces before the last component are dropped as well
    have hprefix : (ofPieces p.isAbsolute above.reverse).solidPieces <+: above.reverse := by
      by_cases hnil : above.reverse = []
      · rw [hnil]
        cases p.isAbsolute <;> exact List.prefix_rfl
      · have hpieces := (pieces_ofPieces_of_isPrefix hnil habove).2
        have hprefix := solidPieces_isPrefix (ofPieces p.isAbsolute above.reverse)
        rwa [hpieces] at hprefix
    revert hne
    generalize (ofPieces p.isAbsolute above.reverse).solidPieces = ps at hprefix
    intro hne
    have hps : ps <+: p.solidPieces := hprefix.trans habove
    obtain ⟨more, hmore⟩ := hprefix
    obtain ⟨blanks, hblanks⟩ := solidPieces_isPrefix p
    have hpieces : p.pieces = ps ++ (more ++ [last] ++ blanks) := by
      rw [← hblanks, hsolid, ← hmore]
      simp
    have hrest : ∃ piece ∈ more ++ [last] ++ blanks, piece ≠ [] := ⟨last, by simp, hlast⟩
    by_cases hnil : ps = []
    case pos =>
      -- without a piece it is the root, since it is not empty
      subst hnil
      cases habsolute : p.isAbsolute with
      | true => exact ⟨rfl, [], _, hpieces, hrest, .inr ⟨rfl, rfl⟩⟩
      | false =>
        rw [habsolute] at hne
        exact absurd rfl hne
    case neg =>
      obtain ⟨habsolute, hparent⟩ := pieces_ofPieces_of_isPrefix hnil hps
      exact ⟨habsolute, ps, _, hpieces, hrest, .inl hparent⟩

/-- A path has every byte of its parent. -/
theorem notMem_of_parent? {parent : Path} (h : p.parent? = some parent) {b : UInt8}
    (hb : b ≠ slash) (hnot : b ∉ p.raw) : b ∉ parent.raw := by
  by_cases hne : parent.raw = []
  case pos => simp [hne]
  case neg =>
    obtain ⟨-, ps, rest, hpieces, -, hparent⟩ := exists_pieces_of_parent? h hne
    rw [← exists_mem_pieces hb] at hnot ⊢
    rintro ⟨piece, hpiece, hmem⟩
    rcases hparent with hsame | ⟨hroot, -⟩
    · refine hnot ⟨piece, ?_, hmem⟩
      rw [hpieces]
      exact List.mem_append_left _ (hsame ▸ hpiece)
    · rw [hroot, List.mem_singleton] at hpiece
      simp [hpiece] at hmem

end DispatchGen.Path
