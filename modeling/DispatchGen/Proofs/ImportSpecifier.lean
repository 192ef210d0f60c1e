/-
DispatchGen/Proofs/ImportSpecifier.lean

An import specifier resolves to its module.

The extension is taken off the last component alone (`components_withoutExtension_join`), and
the specifier writes the steps that are left, with `./` in front unless they begin with `../`
(`importSpecifier_eq`).  It writes them as they are displayed, so read as a path it goes by what
is shown of them (`steps_specifierOfSteps`); that is the steps again exactly if they are texts,
for what a name shows is a name (`IsName.shown`), though it may be another one.

The way to a module is the way to its directory and then its name (`way_concat`), so the specifier
leads from the importing directory to the directory of the module, and there to the name without
its extension.  That is where it matters that the module is no directory on the way: the way would
be `..` only, and have no name to take an extension off.

What is known of the module from a specifier that shows all is the same: its directory, and its
name without the extension.
-/
import DispatchGen.Proofs.JoinedPath
import DispatchGen.Proofs.RelativePath

namespace DispatchGen.Path

variable {p q dir target : Path} {name : OsText} {s : Component} {ss cs as bs : List Component}

/-! ### Names and their extensions -/

/-- A name has no extension, or is its stem, a dot and its extension. -/
theorem splitName_cases (name : OsText) :
    splitName name = (name, none) ∨
      ∃ stem ext, stem ≠ [] ∧ name = stem ++ dot :: ext ∧ splitName name = (stem, some ext) := by
  have hsplit := List.takeWhile_append_dropWhile (p := (· ≠ dot)) (l := name.reverse)
  have hhead := List.head?_dropWhile_not (· ≠ dot) name.reverse
  unfold splitName
  dsimp only
  generalize List.takeWhile (· ≠ dot) name.reverse = after at hsplit
  generalize List.dropWhile (· ≠ dot) name.reverse = rest at hsplit hhead
  split
  case h_1 => exact .inl rfl
  case h_2 => exact .inl rfl
  case h_3 mark before hne =>
    have hdot : mark = dot := by simpa using hhead
    have hbefore : before ≠ [] := fun hnil => hne hnil
    refine .inr ⟨_, _, by simpa using hbefore, ?_, rfl⟩
    rw [← List.reverse_reverse name, ← hsplit, hdot]
    simp

/-- A dot at the end of a name opens an empty extension. -/
theorem splitName_dot {stem : OsText} (h : stem ≠ []) :
    splitName (stem ++ [dot]) = (stem, some []) := by
  obtain ⟨x, xs, hstem⟩ : ∃ x xs, stem.reverse = x :: xs :=
    List.exists_cons_of_ne_nil (by simpa using h)
  have hreverse : (stem ++ [dot]).reverse = dot :: stem.reverse := by simp
  unfold splitName
  dsimp only
  rw [hreverse, List.takeWhile_cons_of_neg (by simp), List.dropWhile_cons_of_neg (by simp), hstem]
  dsimp only
  rw [← hstem, List.reverse_reverse]
  rfl

/-- The stem of a name is a name as well, unless it reads as a step of another kind. -/
theorem IsName.stem (h : IsName name) (hhere : (splitName name).1 ≠ hereName)
    (hup : (splitName name).1 ≠ upName) : IsName (splitName name).1 := by
  rcases splitName_cases name with hsplit | ⟨stem, ext, hne, hname, hsplit⟩
  · rwa [hsplit]
  · rw [hsplit] at hhere hup ⊢
    refine ⟨by simp [isBlank, hne, hhere], hup, fun hslash => h.whole ?_⟩
    simp [hname, hslash]

/-- A stem with a dot behind it is a name. -/
theorem IsName.dot {stem : OsText} (h : IsName stem) : IsName (stem ++ [dot]) := by
  have hone : stem ++ [Path.dot] ≠ hereName := by
    intro heq
    have heq : stem ++ [Path.dot] = [] ++ [Path.dot] := heq
    exact h.ne_empty (List.append_cancel_right heq)
  have htwo : stem ++ [Path.dot] ≠ upName := by
    intro heq
    have heq : stem ++ [Path.dot] = hereName ++ [Path.dot] := heq
    exact h.ne_dot (List.append_cancel_right heq)
  have hmark : slash ≠ Path.dot := by decide
  exact ⟨by simp [isBlank, hone], htwo, by simp [h.whole, hmark]⟩

/-! ### Taking an extension off -/

/-- What a name is joined to is read the same for all names. -/
theorem exists_components_join_name (q : Path) :
    ∃ cs, ∀ name, IsName name → (q.join ⟨name⟩).components = cs ++ [.normal name] := by
  by_cases hempty : q.raw = []
  · refine ⟨[], fun name hname => ?_⟩
    rw [join_of_raw_empty hempty, hname.components]
    rfl
  · refine ⟨q.components, fun name hname => ?_⟩
    rw [components_join hempty hname.relative, hname.steps]

theorem fileName?_eq_some (h : p.components = cs ++ [.normal name]) :
    p.fileName? = some name := by
  rw [fileName?, h, List.getLast?_concat]

/-- A name at the end of the pieces is the last component. -/
theorem componentsOf_concat_name {absolute : Bool} {ps : List OsText} (h : IsName name) :
    componentsOf absolute (ps ++ [name]) = componentsOf absolute ps ++ [.normal name] := by
  have hname : ∀ ps : List OsText,
      (ps ++ [name]).filterMap component? = ps.filterMap component? ++ [.normal name] := by
    intro ps
    rw [List.filterMap_append, List.filterMap_cons_some h.component?_eq]
    rfl
  cases absolute with
  | true => exact congrArg (Component.root :: ·) (hname ps)
  | false =>
    by_cases hhead : ps.head? = some hereName
    case pos =>
      obtain ⟨rest, rfl⟩ := List.head?_eq_some_iff.mp hhead
      exact congrArg (Component.here :: ·) (hname rest)
    case neg =>
      have hhead' : (ps ++ [name]).head? ≠ some hereName := by
        cases ps with
        | nil => simpa using h.ne_dot
        | cons x xs => exact hhead
      rw [componentsOf_of_head? hhead, componentsOf_of_head? hhead', hname]

/-- A path that is written anew with another name at its end differs in its last component. -/
theorem components_ofPieces_name {last : OsText} (h : p.components = cs ++ [.normal last])
    (hname : IsName name) :
    (ofPieces p.isAbsolute (p.solidPieces.dropLast ++ [name])).components
      = cs ++ [.normal name] := by
  have hsolid : p.solidPieces ≠ [] := by
    intro hnil
    rw [← componentsOf_solidPieces, hnil] at h
    have hlast := congrArg List.getLast? h
    rw [List.getLast?_concat] at hlast
    cases hp : p.isAbsolute <;> simp [componentsOf, hp] at hlast
  obtain ⟨above, piece, habove⟩ : ∃ above piece, p.solidPieces = above ++ [piece] :=
    ⟨_, _, (List.dropLast_concat_getLast hsolid).symm⟩
  have hopens : above <+: p.solidPieces := ⟨[piece], habove.symm⟩
  have hslash : ∀ x ∈ above ++ [name], slash ∉ x := by
    intro x hx
    rcases List.mem_append.mp hx with hx | hx
    · exact not_mem_of_mem_pieces ((hopens.trans (solidPieces_isPrefix p)).subset hx)
    · exact List.mem_singleton.mp hx ▸ hname.whole
  have hhead : p.isAbsolute = false → (above ++ [name]).head? ≠ some [] := by
    intro hrelative
    cases above with
    | nil => simpa using hname.ne_empty
    | cons x xs =>
      have hsolidHead := head?_solidPieces hrelative
      rwa [habove] at hsolidHead
  obtain ⟨habsolute, hpieces⟩ := pieces_ofPieces (by simp) hslash hhead
  rw [habove, List.dropLast_concat, components_eq_componentsOf, habsolute, hpieces,
    componentsOf_concat_name hname, componentsOf_concat habove, h, List.dropLast_concat]

theorem withoutExtension_of_none (hfile : p.fileName? = some name) (hext : p.extension? = none) :
    p.withoutExtension
      = ofPieces p.isAbsolute (p.solidPieces.dropLast ++ [(splitName name).1]) := by
  unfold withoutExtension
  simp only [hext, hfile]

theorem withoutExtension_of_some {ext : OsText} (hext : p.extension? = some ext)
    (hq : q = ⟨p.raw.take (p.raw.length - ext.length)⟩)
    (hfile : q.fileName? = some name) :
    p.withoutExtension
      = ofPieces q.isAbsolute (q.solidPieces.dropLast ++ [(splitName name).1]) := by
  subst hq
  unfold withoutExtension
  simp only [hext, hfile]

/-- The extension goes off the last component, and leaves the others alone. -/
theorem components_withoutExtension_join (q : Path) (hname : IsName name)
    (hstem : IsName (splitName name).1) :
    ∃ cs, (q.join ⟨name⟩).components = cs ++ [.normal name] ∧
      (q.join ⟨name⟩).withoutExtension.components = cs ++ [.normal (splitName name).1] := by
  obtain ⟨cs, hcs⟩ := exists_components_join_name q
  refine ⟨cs, hcs name hname, ?_⟩
  have hfile := fileName?_eq_some (hcs name hname)
  have hext : (q.join ⟨name⟩).extension? = (splitName name).2 := by
    rw [extension?, hfile, Option.bind_some]
  rcases splitName_cases name with hsplit | ⟨stem, ext, hne, heq, hsplit⟩
  case inl =>
    -- there is nothing to take off
    rw [withoutExtension_of_none hfile (hext.trans (congrArg Prod.snd hsplit))]
    exact components_ofPieces_name (hcs name hname) hstem
  case inr =>
    -- the extension goes first, and then the dot before it
    have hext : (q.join ⟨name⟩).extension? = some ext := hext.trans (congrArg Prod.snd hsplit)
    have hstem : IsName stem := by rwa [hsplit] at hstem
    have hdot := hcs _ hstem.dot
    have hbare : q.join ⟨stem ++ [dot]⟩
        = ⟨(q.join ⟨name⟩).raw.take ((q.join ⟨name⟩).raw.length - ext.length)⟩ := by
      have hraw : (q.join ⟨name⟩).raw = (q.join ⟨stem ++ [dot]⟩).raw ++ ext := by
        rw [join_raw hname.relative, join_raw hstem.dot.relative, heq]
        simp only [List.append_assoc, List.singleton_append]
      rw [hraw, List.length_append, Nat.add_sub_cancel, List.take_left]
    rw [withoutExtension_of_some hext hbare (fileName?_eq_some hdot), splitName_dot hne, hsplit]
    exact components_ofPieces_name hdot hstem

/-! ### Steps as a specifier writes them -/

/-- A component as a specifier shows it. -/
def shown : Component → Component
  | .normal name => .normal name.display
  | s => s

/-- A specifier writes what it shows. -/
theorem raw_shown (s : Component) : (shown s).raw = s.raw.display := by
  cases s <;> rfl

/-- A name that is shown as a text without U+FFFD is that text. -/
theorem eq_ofText_of_shown (text : String) (h : (name.display : OsText) = text)
    (htext : '\ufffd' ∉ text.toList) : name = text :=
  OsText.eq_ofText_of_display (OsText.ofText_injective h) htext

/-- What is shown of a name is a name. -/
theorem IsName.shown (h : IsName name) : IsName name.display where
  solid := by
    rw [isBlank, Bool.or_eq_false_iff, decide_eq_false_iff_not, decide_eq_false_iff_not]
    exact ⟨fun hempty => h.ne_empty (eq_ofText_of_shown "" hempty (by decide)),
      fun hdot => h.ne_dot (eq_ofText_of_shown "." hdot (by decide))⟩
  down hup := h.down (eq_ofText_of_shown ".." hup (by decide))
  whole hslash := by
    have hsmall : '/'.toNat < 0x80 := by decide
    exact h.whole (OsText.mem_of_mem_display hsmall ((OsText.mem_ofText_iff hsmall).mp hslash))

theorem isStep_shown (h : IsStep s) : IsStep (shown s) := by
  rcases h with rfl | ⟨name, rfl, hname⟩
  · exact .inl rfl
  · exact .inr ⟨_, rfl, hname.shown⟩

/-- A step is read as itself. -/
theorem component?_raw (h : IsStep s) : component? s.raw = some s := by
  rcases h with rfl | ⟨name, rfl, hname⟩
  · rfl
  · exact hname.component?_eq

theorem notMem_raw (h : IsStep s) : slash ∉ s.raw := by
  rcases h with rfl | ⟨name, rfl, hname⟩
  · decide
  · exact hname.whole

theorem raw_ne_empty (h : IsStep s) : s.raw ≠ [] := by
  rcases h with rfl | ⟨name, rfl, hname⟩
  · decide
  · exact hname.ne_empty

theorem filterMap_raw (h : ∀ s ∈ ss, IsStep s) :
    (ss.map Component.raw).filterMap component? = ss := by
  induction ss with
  | nil => rfl
  | cons s ss ih =>
    obtain ⟨hs, hss⟩ := List.forall_mem_cons.mp h
    rw [List.map_cons, List.filterMap_cons_some (component?_raw hs), ih hss]

/-- The specifier that is written for steps. -/
def specifierOfSteps (ss : List Component) : String :=
  let joined := String.intercalate "/" (ss.map fun s => s.raw.display)
  if joined.startsWith "../" then joined else "./" ++ joined

theorem importSpecifier_eq (target dir : Path) :
    target.importSpecifier dir
      = specifierOfSteps (target.relativeTo dir).withoutExtension.components := rfl

/-- A specifier tells by its start that it is relative. -/
theorem startsWith_specifierOfSteps (ss : List Component) :
    (specifierOfSteps ss).startsWith "./" = true ∨
      (specifierOfSteps ss).startsWith "../" = true := by
  unfold specifierOfSteps
  dsimp only
  split
  case isTrue hup => exact .inr hup
  case isFalse =>
    refine .inl (String.startsWith_string_iff.mpr ?_)
    rw [String.toList_append]
    exact List.prefix_append _ _

/-- As a path, a specifier is what is shown of the steps, with a `.` in front or none. -/
theorem specifierOfSteps_cases (hne : ss ≠ []) :
    (⟨specifierOfSteps ss⟩ : Path) = ofPieces false ((ss.map shown).map Component.raw) ∨
      (⟨specifierOfSteps ss⟩ : Path)
        = ofPieces false (hereName :: (ss.map shown).map Component.raw) := by
  have hpieces : (ss.map fun s => s.raw.display).map OsText.ofText
      = (ss.map shown).map Component.raw := by
    rw [List.map_map, List.map_map]
    exact List.map_congr_left fun s _ => (raw_shown s).symm
  have hjoined : OsText.ofText (String.intercalate "/" (ss.map fun s => s.raw.display))
      = [slash].intercalate ((ss.map shown).map Component.raw) := by
    rw [OsText.ofText_intercalate, hpieces]
    rfl
  unfold specifierOfSteps ofPieces
  dsimp only
  split
  case isTrue =>
    left
    rw [hjoined]
    rfl
  case isFalse =>
    right
    obtain ⟨s, rest, rfl⟩ := List.exists_cons_of_ne_nil hne
    rw [OsText.ofText_append, hjoined]
    rfl

/-- A specifier is a relative path and goes by what is shown of its steps. -/
theorem steps_specifierOfSteps (h : ∀ s ∈ ss, IsStep s) (hne : ss ≠ []) :
    (⟨specifierOfSteps ss⟩ : Path).isAbsolute = false ∧
      (⟨specifierOfSteps ss⟩ : Path).steps = ss.map shown := by
  have hshown : ∀ s ∈ ss.map shown, IsStep s :=
    List.forall_mem_map.mpr fun s hs => isStep_shown (h s hs)
  have hslash : ∀ piece ∈ (ss.map shown).map Component.raw, slash ∉ piece :=
    List.forall_mem_map.mpr fun s hs => notMem_raw (hshown s hs)
  have hread : ∀ ps : List OsText, ps ≠ [] → (∀ piece ∈ ps, slash ∉ piece) →
      ps.head? ≠ some [] →
      (ofPieces false ps).isAbsolute = false ∧ (ofPieces false ps).pieces = ps :=
    fun _ hne hslash hhead => pieces_ofPieces hne hslash fun _ => hhead
  rcases specifierOfSteps_cases hne with hwritten | hwritten
  · obtain ⟨s, rest, rfl⟩ := List.exists_cons_of_ne_nil hne
    obtain ⟨hrelative, hpieces⟩ := hread _ (by simp) hslash
      fun hhead => raw_ne_empty (hshown _ List.mem_cons_self) (Option.some.inj hhead)
    rw [hwritten, steps, hpieces, filterMap_raw hshown]
    exact ⟨hrelative, rfl⟩
  · have hslash : ∀ piece ∈ hereName :: (ss.map shown).map Component.raw, slash ∉ piece :=
      List.forall_mem_cons.mpr ⟨by decide, hslash⟩
    obtain ⟨hrelative, hpieces⟩ := hread _ (by simp) hslash (by simp [hereName])
    rw [hwritten, steps, hpieces]
    exact ⟨hrelative, filterMap_raw hshown⟩

/-! ### The way to a module -/

/-- A component that is no directory on the way is not shared. -/
theorem sharedPrefix_concat (h : ¬ bs ++ [s] <+: as) :
    sharedPrefix as (bs ++ [s]) = sharedPrefix as bs ∧ sharedPrefix as bs ≤ bs.length := by
  induction as generalizing bs with
  | nil =>
    cases bs <;> exact ⟨rfl, Nat.zero_le _⟩
  | cons a as ih =>
    cases bs with
    | nil =>
      have hne : a ≠ s := by
        rintro rfl
        exact h (List.cons_prefix_cons.mpr ⟨rfl, List.nil_prefix⟩)
      exact ⟨if_neg hne, Nat.le_refl _⟩
    | cons b bs =>
      rw [List.cons_append, sharedPrefix, sharedPrefix]
      by_cases heq : a = b
      case pos =>
        obtain ⟨hshared, hle⟩ := ih fun hinside =>
          h (List.cons_prefix_cons.mpr ⟨heq.symm, hinside⟩)
        rw [if_pos heq, if_pos heq, hshared]
        exact ⟨rfl, Nat.succ_le_succ hle⟩
      case neg =>
        rw [if_neg heq, if_neg heq]
        exact ⟨rfl, Nat.zero_le _⟩

/-- The way to a module is the way to its directory, and then its name. -/
theorem way_concat (h : ¬ bs ++ [s] <+: as) : way as (bs ++ [s]) = way as bs ++ [s] := by
  obtain ⟨hshared, hle⟩ := sharedPrefix_concat h
  rw [way, way, hshared, List.drop_append_of_le_length hle, List.append_assoc]

/-- A module that can be imported from a directory: both start at the root, or both do not; the
module is not further down than the directory can tell, has a name with a stem of its own, and is
no directory on the way to the importing one.  All this is said of the cleaned paths, so it does
not matter how they are written. -/
structure Importable (target dir : Path) : Prop where
  sameStart : dir.isAbsolute = target.isAbsolute
  climbs_le : dir.clean.climbs ≤ target.clean.climbs
  named : ∃ name, target.clean.fileName? = some name ∧
    (splitName name).1 ≠ hereName ∧ (splitName name).1 ≠ upName
  beside : ¬ target.clean.components <+: dir.clean.components

instance (target dir : Path) : Decidable (Importable target dir) :=
  decidable_of_iff (dir.isAbsolute = target.isAbsolute ∧
      dir.clean.climbs ≤ target.clean.climbs ∧
      (∃ name ∈ target.clean.fileName?,
        (splitName name).1 ≠ hereName ∧ (splitName name).1 ≠ upName) ∧
      ¬ target.clean.components <+: dir.clean.components)
    ⟨fun h => ⟨h.1, h.2.1, h.2.2.1, h.2.2.2⟩,
      fun h => ⟨h.sameStart, h.climbs_le, h.named, h.beside⟩⟩

/-- A module of which the specifier shows all: what it writes are texts. -/
def Spelled (target dir : Path) : Prop :=
  ∀ s ∈ (target.relativeTo dir).withoutExtension.components, s.raw.toText?.isSome = true

instance (target dir : Path) : Decidable (Spelled target dir) :=
  inferInstanceAs (Decidable (∀ s ∈ _, _))

/-- Where a module is, and what an import of it says: `above` are the components of its
directory, `stem` is its name without the extension. -/
structure Located (target dir : Path) (above : List Component) (stem : OsText) : Prop where
  isName : IsName stem
  isStep : ∀ s ∈ way dir.clean.components above, IsStep s
  upThenDown : UpThenDown (way dir.clean.components above)
  bare : target.clean.withoutExtension.components = above ++ [.normal stem]
  written : (target.relativeTo dir).withoutExtension.components
    = way dir.clean.components above ++ [.normal stem]
  leads : (way dir.clean.components above).foldl cleanStep dir.clean.components.reverse
    = above.reverse

/-- Steps, and then a name. -/
theorem isStep_of_mem_concat (hsteps : ∀ s ∈ ss, IsStep s) (hname : IsName name) :
    ∀ s ∈ ss ++ [.normal name], IsStep s := by
  intro s hs
  rcases List.mem_append.mp hs with hs | hs
  · exact hsteps s hs
  · rw [List.mem_singleton.mp hs]
    exact .inr ⟨name, rfl, hname⟩

theorem isName_of_isStep (h : IsStep (.normal name)) : IsName name := by
  rcases h with hup | ⟨_, heq, hname⟩
  · cases hup
  · cases heq
    exact hname

theorem ofComponents_concat (cs : List Component) (name : OsText) :
    ofComponents (cs ++ [.normal name]) = (ofComponents cs).join ⟨name⟩ := by
  rw [ofComponents, List.foldl_append]
  rfl

/-- The extension goes off the last of the components that a path was made from. -/
theorem components_withoutExtension (hp : (ofComponents (cs ++ [.normal name])).components
      = cs ++ [.normal name]) (hname : IsName name) (hstem : IsName (splitName name).1) :
    (ofComponents (cs ++ [.normal name])).withoutExtension.components
      = cs ++ [.normal (splitName name).1] := by
  rw [ofComponents_concat] at hp ⊢
  obtain ⟨cs', hjoin, hbare⟩ := components_withoutExtension_join (ofComponents cs) hname hstem
  rw [hbare, List.append_cancel_right (hjoin.symm.trans hp)]

theorem clean_eq_ofComponents (p : Path) : p.clean = ofComponents p.clean.components := by
  rw [components_clean]
  rfl

/-- There is no name among the climbs of a path. -/
theorem normal_notMem_base (absolute : Bool) (n : Nat) :
    Component.normal name ∉ base absolute n := by
  cases absolute with
  | true => simp [base_true]
  | false => simp [base_false]

theorem getLast?_of_fileName? (h : p.fileName? = some name) :
    p.components.getLast? = some (.normal name) := by
  unfold fileName? at h
  split at h
  case h_1 last hlast =>
    cases h
    exact hlast
  case h_2 => cases h

/-- What a module has behind the climbs of the directory: the directories above it, and its
name. -/
theorem Importable.exists_above (h : Importable target dir) :
    ∃ (bs : List Component) (name : OsText) (n : Nat) (names : List OsText),
      target.clean.components = base dir.isAbsolute dir.clean.climbs ++ bs ++ [.normal name] ∧
      base dir.isAbsolute dir.clean.climbs ++ bs = base dir.isAbsolute n ++ names.map .normal ∧
      UpThenDown bs ∧ (∀ s ∈ bs, IsStep s) ∧ IsName name ∧ IsName (splitName name).1 := by
  obtain ⟨name, hfile, hhere, hup⟩ := h.named
  have hlast := getLast?_of_fileName? hfile
  obtain ⟨-, source, hsource⟩ := exists_components_clean dir
  obtain ⟨-, goal, hgoal⟩ := exists_components_clean target
  obtain ⟨bs, hbs, hdown, hsteps⟩ := exists_components_behind h.sameStart h.climbs_le
  -- with nothing behind the climbs, the module would be on the way to the directory
  have hne : bs ≠ [] := by
    rintro rfl
    apply h.beside
    rw [hbs, hsource, List.append_nil]
    exact List.prefix_append _ _
  obtain ⟨above, s, rfl⟩ : ∃ above s, bs = above ++ [s] :=
    ⟨_, _, (List.dropLast_concat_getLast hne).symm⟩
  rw [hbs, ← List.append_assoc, List.getLast?_concat] at hlast
  cases hlast
  -- and a name is no climb
  have hgoalne : goal ≠ [] := by
    rintro rfl
    rw [hbs, List.map_nil, List.append_nil, ← List.append_assoc] at hgoal
    exact normal_notMem_base target.isAbsolute target.clean.climbs
      (hgoal ▸ List.mem_append_right _ List.mem_cons_self)
  obtain ⟨names, last, rfl⟩ : ∃ names last, goal = names ++ [last] :=
    ⟨_, _, (List.dropLast_concat_getLast hgoalne).symm⟩
  rw [hbs, List.map_append, ← List.append_assoc, ← List.append_assoc, ← h.sameStart] at hgoal
  have hname : IsName name :=
    isName_of_isStep (hsteps _ (List.mem_append_right _ List.mem_cons_self))
  refine ⟨above, name, target.clean.climbs, names, ?_, (List.append_inj' hgoal rfl).1,
    hdown.of_prefix (List.prefix_append _ _), ?_, hname, hname.stem hhere hup⟩
  · rw [hbs, List.append_assoc]
  · exact fun s hs => hsteps s (List.mem_append_left _ hs)

/-- What can be imported is somewhere, and an import says where. -/
theorem Importable.exists_located (h : Importable target dir) :
    ∃ above stem, Located target dir above stem := by
  obtain ⟨-, source, hsource⟩ := exists_components_clean dir
  obtain ⟨bs, name, n, names, htarget, hshape, hdown, hsteps, hname, hstem⟩ := h.exists_above
  have hbeside := h.beside
  have hway : way dir.clean.components (base dir.isAbsolute dir.clean.climbs ++ bs)
      = way (source.map .normal) bs := by
    rw [hsource, way_append]
  have hisStep : ∀ s ∈ way dir.clean.components (base dir.isAbsolute dir.clean.climbs ++ bs),
      IsStep s := by
    rw [hway]
    exact fun s hs => isStep_of_mem_way hsteps hs
  refine ⟨base dir.isAbsolute dir.clean.climbs ++ bs, (splitName name).1, hstem, hisStep,
    hway ▸ hdown.way _, ?_, ?_, ?_⟩
  · -- the cleaned module
    have hclean := clean_eq_ofComponents target
    rw [htarget] at hclean
    have hcomponents := htarget
    rw [hclean] at hcomponents ⊢
    exact components_withoutExtension hcomponents hname hstem
  · -- the way to it, where the specifier takes off the extension
    have hrelative : ∀ s ∈ way dir.clean.components
        (base dir.isAbsolute dir.clean.climbs ++ bs) ++ [.normal name], IsStep s :=
      isStep_of_mem_concat hisStep hname
    have hcomponents := components_ofComponents ⟨_, .inr rfl, hrelative⟩
    rw [htarget] at hbeside
    rw [relativeTo_eq_ofComponents_way, htarget, way_concat hbeside,
      components_withoutExtension hcomponents hname hstem]
  · rw [hway, hsource]
    exact foldl_cleanStep_way hshape

/-- A climb is shown as it is. -/
theorem map_shown (n : Nat) (names : List OsText) :
    (List.replicate n Component.up ++ names.map Component.normal).map shown
      = List.replicate n Component.up
        ++ (names.map fun name => (name.display : OsText)).map .normal := by
  rw [List.map_append, List.map_replicate, List.map_map, List.map_map]
  rfl

/-- Steps are texts exactly if the names among them are displayed as they are. -/
theorem forall_toText?_iff {n : Nat} {names : List OsText} :
    (∀ s ∈ List.replicate n Component.up ++ names.map Component.normal,
        s.raw.toText?.isSome = true) ↔
      (names.map fun name => (name.display : OsText)) = names := by
  have hup : (Component.raw .up).toText?.isSome = true :=
    OsText.isSome_toText?_iff.mpr rfl
  have hsame := List.map_inj_left (l := names) (f := fun name => (name.display : OsText)) (g := id)
  rw [List.map_id] at hsame
  rw [hsame, List.forall_mem_append, List.forall_mem_map]
  refine ⟨fun h name hname => OsText.isSome_toText?_iff.mp (h.2 name hname), fun h => ⟨?_, ?_⟩⟩
  · intro s hs
    rw [List.eq_of_mem_replicate hs]
    exact hup
  · exact fun name hname => OsText.isSome_toText?_iff.mpr (h name hname)

/-- The specifier leads from the importing directory to the module without its extension, if it
shows all of the way. -/
theorem Located.components_clean_join_iff {above : List Component} {stem : OsText}
    (h : Located target dir above stem) :
    (dir.join ⟨target.importSpecifier dir⟩).clean.components = above ++ [.normal stem] ↔
      Spelled target dir := by
  have hsteps := isStep_of_mem_concat h.isStep h.isName
  obtain ⟨hrelative, hspecifier⟩ := steps_specifierOfSteps hsteps (by simp)
  have hgoal : above ++ [Component.normal stem] =
      ((way dir.clean.components above ++ [Component.normal stem]).foldl cleanStep
        dir.clean.components.reverse).reverse := by
    rw [List.foldl_append, h.leads]
    simp [cleanStep]
  obtain ⟨n, names, hway⟩ := h.upThenDown.concat stem
  -- the names of the way stand at the end, whichever they are
  rw [Spelled, importSpecifier_eq, h.written, Path.components_clean_join dir hrelative, hspecifier,
    hgoal, hway, map_shown, List.foldl_append, List.foldl_append, foldl_cleanStep_normal,
    foldl_cleanStep_normal, List.reverse_inj, List.append_cancel_right_eq, List.reverse_inj,
    forall_toText?_iff]
  have hinjective : Function.Injective (List.map Component.normal) :=
    List.map_injective_iff.mpr fun _ _ h => Component.normal.inj h
  exact hinjective.eq_iff

/-! ### Main statement -/

/-- **Import specifiers resolve.**  A specifier begins with `./` or `../`.  Followed from the
importing directory, it leads to the module without the extension of its name exactly if what it
is written for are texts, since it shows them as they are displayed.  So two modules of which the
specifiers show all have the same specifier in a directory exactly if they are the same path but
for their extensions. -/
theorem importSpecifier_resolves {target dir : Path} (h : Importable target dir) :
    ((target.importSpecifier dir).startsWith "./" = true ∨
      (target.importSpecifier dir).startsWith "../" = true) ∧
    ((dir.join ⟨target.importSpecifier dir⟩).clean.same target.clean.withoutExtension = true ↔
      Spelled target dir) ∧
    ∀ other : Path, Importable other dir → Spelled target dir → Spelled other dir →
      (target.importSpecifier dir = other.importSpecifier dir ↔
        target.clean.withoutExtension.same other.clean.withoutExtension = true) := by
  obtain ⟨above, stem, hlocated⟩ := h.exists_located
  refine ⟨startsWith_specifierOfSteps _, ?_, fun other hother hspelled hspelled' => ?_⟩
  · rw [same, decide_eq_true_iff, hlocated.bare, hlocated.components_clean_join_iff]
  · obtain ⟨above', stem', hlocated'⟩ := hother.exists_located
    have hresolves := hlocated.components_clean_join_iff.mpr hspelled
    have hresolves' := hlocated'.components_clean_join_iff.mpr hspelled'
    rw [same, decide_eq_true_iff, hlocated.bare, hlocated'.bare]
    constructor
    · intro hsame
      rw [← hresolves, ← hresolves', hsame]
    · intro hsame
      obtain ⟨habove, hstem⟩ := List.append_inj' hsame rfl
      cases habove
      cases hstem
      rw [importSpecifier_eq, importSpecifier_eq, hlocated.written, hlocated'.written]

/-- A module that is named like the importing directory, and another one in its place whose name
begins with two dots and has more of them further on. -/
theorem importSpecifier_resolves_dotted :
    Importable ⟨"./src/api/../..a.b.ts"⟩ ⟨"src/..a.b"⟩ ∧
      Importable ⟨"src/..a.b.tsx"⟩ ⟨"src/..a.b"⟩ ∧
      ((⟨"src/..a.b"⟩ : Path).join
          ⟨(⟨"./src/api/../..a.b.ts"⟩ : Path).importSpecifier ⟨"src/..a.b"⟩⟩).clean.same
        (⟨"./src/api/../..a.b.ts"⟩ : Path).clean.withoutExtension = true ∧
      (⟨"./src/api/../..a.b.ts"⟩ : Path).importSpecifier ⟨"src/..a.b"⟩
        = (⟨"src/..a.b.tsx"⟩ : Path).importSpecifier ⟨"src/..a.b"⟩ := by
  have hmodule : Importable ⟨"./src/api/../..a.b.ts"⟩ ⟨"src/..a.b"⟩ := by decide +kernel
  have hother : Importable ⟨"src/..a.b.tsx"⟩ ⟨"src/..a.b"⟩ := by decide +kernel
  have hspelled : Spelled ⟨"./src/api/../..a.b.ts"⟩ ⟨"src/..a.b"⟩ := by decide +kernel
  have hspelled' : Spelled ⟨"src/..a.b.tsx"⟩ ⟨"src/..a.b"⟩ := by decide +kernel
  obtain ⟨-, hleads, hsame⟩ := importSpecifier_resolves hmodule
  exact ⟨hmodule, hother, hleads.mpr hspelled,
    (hsame _ hother hspelled hspelled').mpr (by decide +kernel)⟩

/-- A name that is no text, though it is one in Latin-1. -/
def latinName : OsText := OsText.ofText "caf" ++ [0xe9]

/-- Two modules whose specifiers mislead, though as paths they do not lead to the importing
directory.  The first is on the way to it all the same, for its own path takes another way there:
what is left of the way is `..`, which has no extension, and the specifier leads to a directory.
The second is in a directory whose name is no text, so its specifier is that of another module. -/
theorem importSpecifier_misleads :
    ((⟨"src/a.ts/gen"⟩ : Path).isAbsolute = (⟨"x/../src/a.ts"⟩ : Path).isAbsolute ∧
      (⟨"src/a.ts/gen"⟩ : Path).clean.climbs ≤ (⟨"x/../src/a.ts"⟩ : Path).clean.climbs ∧
      (∃ name, (⟨"x/../src/a.ts"⟩ : Path).clean.fileName? = some name ∧
        (splitName name).1 ≠ hereName ∧ (splitName name).1 ≠ upName) ∧
      ¬ (⟨"x/../src/a.ts"⟩ : Path).components <+: (⟨"src/a.ts/gen"⟩ : Path).components ∧
      (⟨"x/../src/a.ts"⟩ : Path).importSpecifier ⟨"src/a.ts/gen"⟩ = "./.." ∧
      ((⟨"src/a.ts/gen"⟩ : Path).join
          ⟨(⟨"x/../src/a.ts"⟩ : Path).importSpecifier ⟨"src/a.ts/gen"⟩⟩).clean.same
        (⟨"x/../src/a.ts"⟩ : Path).clean.withoutExtension = false) ∧
    (Importable ⟨latinName ++ "/a.ts"⟩ ⟨"gen"⟩ ∧ Importable ⟨"caf\ufffd/a.ts"⟩ ⟨"gen"⟩ ∧
      ¬ (⟨latinName ++ "/a.ts"⟩ : Path).components <+: (⟨"gen"⟩ : Path).components ∧
      (⟨latinName ++ "/a.ts"⟩ : Path).importSpecifier ⟨"gen"⟩ = "../caf\ufffd/a" ∧
      (⟨"caf\ufffd/a.ts"⟩ : Path).importSpecifier ⟨"gen"⟩ = "../caf\ufffd/a" ∧
      ((⟨"gen"⟩ : Path).join ⟨(⟨latinName ++ "/a.ts"⟩ : Path).importSpecifier ⟨"gen"⟩⟩).clean.same
        (⟨latinName ++ "/a.ts"⟩ : Path).clean.withoutExtension = false ∧
      (⟨latinName ++ "/a.ts"⟩ : Path).clean.withoutExtension.same
        (⟨"caf\ufffd/a.ts"⟩ : Path).clean.withoutExtension = false) :=
  ⟨⟨by decide, by decide +kernel, ⟨"a.ts", by decide +kernel, by decide, by decide⟩,
      by decide +kernel, by decide +kernel, by decide +kernel⟩,
    by decide +kernel⟩

end DispatchGen.Path
