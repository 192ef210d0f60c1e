/-
DispatchGen/Proofs/RoutePattern.lean

The normal form of route patterns.

A pattern is made by one pass that leaves out each slash behind another.  What it makes is told
without the pass: the pieces of the text between slashes, less the empty ones, each behind one
slash, and one more slash at the end if the text has one there or is empty
(`toList_normalizePattern`).  So a text has one pattern only.  The induction is over the pieces of
the text (`pieceInduction`), since neither the pieces nor the end of a text follow its characters.

The pass itself gives the laws: what it has been through once goes through unchanged, in front of
anything (`collapse_collapse_append`), and it changes nothing exactly where no slash stands behind
another (`collapse_eq_self_iff`).

Main statement: `joinPattern_normalForm`.
-/
import DispatchGen.Proofs.LexicalPath
import DispatchGen.Proofs.RecordOrder
import DispatchGen.Route.Pattern

namespace DispatchGen.Route

/-! ### The pass over a text -/

/-- What the pass has been through goes through it again, whatever comes behind. -/
theorem collapse_collapse_append (slash : Bool) (cs ds : List Char) :
    collapse slash (collapse slash cs ++ ds) = collapse slash (cs ++ ds) := by
  induction cs generalizing slash with
  | nil => rfl
  | cons c cs ih =>
    rw [List.cons_append, collapse, collapse]
    split
    case isTrue hskip =>
      obtain rfl : slash = true := by simpa using (Bool.and_eq_true _ _ ▸ hskip).2
      exact ih true
    case isFalse hkeep => rw [List.cons_append, collapse, if_neg hkeep, ih]

/-- Collapsing slashes makes no text longer. -/
theorem length_collapse_le (slash : Bool) (cs : List Char) :
    (collapse slash cs).length ≤ cs.length := by
  induction cs generalizing slash with
  | nil => exact Nat.le_refl _
  | cons c cs ih =>
    rw [collapse]
    split
    · exact Nat.le_succ_of_le (ih true)
    · exact Nat.succ_le_succ (ih _)

/-- The pass changes nothing where no slash stands behind another, the one before the text
included. -/
theorem collapse_eq_self_iff (slash : Bool) (cs : List Char) :
    collapse slash cs = cs ↔ ¬ ['/', '/'] <:+: (if slash then '/' :: cs else cs) := by
  induction cs generalizing slash with
  | nil => cases slash <;> exact iff_of_true rfl (by decide)
  | cons c cs ih =>
    rw [collapse]
    by_cases hc : c = '/'
    case pos =>
      subst hc
      cases slash with
      | true =>
        -- the slash is left out, and the text is shorter without it
        have hlength := length_collapse_le true cs
        refine iff_of_false (fun h => ?_) (not_not_intro ?_)
        · have hsame := congrArg List.length h
          simp only [decide_true, Bool.and_self, if_true, List.length_cons] at hsame
          omega
        · exact (List.prefix_append ['/', '/'] cs).isInfix
      | false => simpa using ih true
    case neg =>
      have hkeep : collapse false cs = cs ↔ ¬ ['/', '/'] <:+: cs := ih false
      cases slash <;> simp [hc, hkeep, List.infix_cons_iff, Ne.symm hc]

/-! ### Pieces -/

/-- A text has no slash, or it goes on behind its first one. -/
theorem pieceInduction {P : List Char → Prop} (last : ∀ p, '/' ∉ p → P p)
    (cut : ∀ p cs, '/' ∉ p → P cs → P (p ++ '/' :: cs)) (cs : List Char) : P cs := by
  by_cases h : '/' ∈ cs
  · obtain ⟨p, rest, hcs, hp⟩ := List.eq_append_cons_of_mem h
    rw [hcs]
    exact cut p rest hp (pieceInduction last cut rest)
  · exact last cs h
termination_by cs.length
decreasing_by
  rw [hcs, List.length_append, List.length_cons]
  omega

/-- A piece without a slash stays as it is. -/
theorem collapse_of_notMem {p : List Char} (hp : '/' ∉ p) (slash : Bool) :
    collapse slash p = p := by
  induction p generalizing slash with
  | nil => rfl
  | cons c p ih =>
    have hc : c ≠ '/' := (List.ne_of_not_mem_cons hp).symm
    simp [collapse, hc, ih (List.not_mem_of_not_mem_cons hp)]

/-- A piece and the first slash behind it stay as they are. -/
theorem collapse_append_of_notMem {p : List Char} (hp : '/' ∉ p) (hne : p ≠ []) (slash : Bool)
    (cs : List Char) : collapse slash (p ++ '/' :: cs) = p ++ '/' :: collapse true cs := by
  induction p generalizing slash with
  | nil => exact absurd rfl hne
  | cons c p ih =>
    have hc : c ≠ '/' := (List.ne_of_not_mem_cons hp).symm
    have hrest : collapse false (p ++ '/' :: cs) = p ++ '/' :: collapse true cs := by
      cases p with
      | nil => simp [collapse]
      | cons d p => exact ih (List.not_mem_of_not_mem_cons hp) (List.cons_ne_nil d p) false
    simp [collapse, hc, hrest]

/-- The pieces of a text between slashes that are not empty. -/
def solidPieces (cs : List Char) : List (List Char) :=
  (Path.splitPieces '/' cs).filter (· ≠ [])

/-- The pieces of two texts with a slash between them. -/
theorem solidPieces_append (cs ds : List Char) :
    solidPieces (cs ++ '/' :: ds) = solidPieces cs ++ solidPieces ds := by
  rw [solidPieces, Path.splitPieces_append, List.filter_append]
  rfl

@[simp] theorem solidPieces_nil : solidPieces [] = [] := rfl

@[simp] theorem solidPieces_cons_slash (cs : List Char) :
    solidPieces ('/' :: cs) = solidPieces cs :=
  solidPieces_append [] cs

theorem solidPieces_of_notMem {p : List Char} (hp : '/' ∉ p) (hne : p ≠ []) :
    solidPieces p = [p] := by
  rw [solidPieces, Path.splitPieces_of_not_mem hp]
  exact List.filter_cons_of_pos (decide_eq_true hne)

/-- A piece that `solidPieces` lists. -/
structure IsSolid (p : List Char) : Prop where
  whole : '/' ∉ p
  nonempty : p ≠ []

/-- A solid piece is not empty and has no slash. -/
theorem isSolid_of_mem_solidPieces {p cs : List Char} (h : p ∈ solidPieces cs) : IsSolid p := by
  obtain ⟨hmem, hne⟩ := List.mem_filter.mp h
  exact ⟨Path.not_mem_of_mem_splitPieces hmem, of_decide_eq_true hne⟩

/-- Whether a text is empty or ends with a slash. -/
def closes (cs : List Char) : Bool := cs.getLastD '/' = '/'

theorem closes_concat (cs : List Char) (c : Char) : closes (cs ++ [c]) = decide (c = '/') := by
  simp [closes]

/-- A text closes a pattern if it is empty or ends in a slash. -/
theorem closes_iff {cs : List Char} :
    closes cs = true ↔ cs = [] ∨ cs.getLast? = some '/' := by
  rcases List.eq_nil_or_concat' cs with rfl | ⟨cs, c, rfl⟩ <;> simp [closes]

theorem closes_append (cs ds : List Char) : closes (cs ++ '/' :: ds) = closes ds := by
  rcases List.eq_nil_or_concat' ds with rfl | ⟨ds, d, rfl⟩
  · exact closes_concat cs '/'
  · rw [← List.cons_append, ← List.append_assoc, closes_concat, closes_concat]

/-! ### Patterns by their pieces -/

/-- The pieces one behind another, each behind a slash, and one more slash if asked. -/
def spell (ps : List (List Char)) (closed : Bool) : List Char :=
  ps.flatMap ('/' :: ·) ++ if closed then ['/'] else []

theorem spell_cons (p : List Char) (ps : List (List Char)) (closed : Bool) :
    spell (p :: ps) closed = '/' :: (p ++ spell ps closed) := by
  simp [spell]

/-- The pass spells the pieces of a text. -/
theorem cons_collapse (cs : List Char) :
    '/' :: collapse true cs = spell (solidPieces cs) (closes cs) := by
  induction cs using pieceInduction with
  | last p hp =>
    by_cases hne : p = []
    · subst hne
      rfl
    · have hopen : closes p = false := by
        rw [Bool.eq_false_iff, ne_eq, closes_iff, or_iff_right hne]
        exact fun hlast => hp (List.mem_of_getLast? hlast)
      rw [collapse_of_notMem hp, solidPieces_of_notMem hp hne, hopen, spell_cons]
      simp [spell]
  | cut p cs hp ih =>
    rw [solidPieces_append, closes_append]
    by_cases hne : p = []
    · subst hne
      exact ih
    · rw [collapse_append_of_notMem hp hne, ih, solidPieces_of_notMem hp hne,
        List.singleton_append, spell_cons]

/-- A normal pattern spells the solid pieces of the text, and keeps a slash at its end. -/
theorem toList_normalizePattern (raw : String) :
    (normalizePattern raw).toList = spell (solidPieces raw.toList) (closes raw.toList) := by
  rw [normalizePattern, String.toList_ofList, cons_collapse]

theorem spell_eq_nil_or (ps : List (List Char)) (closed : Bool) :
    spell ps closed = [] ∨ ∃ rest, spell ps closed = '/' :: rest := by
  cases ps with
  | nil => cases closed <;> simp [spell]
  | cons p ps => exact .inr ⟨_, spell_cons p ps closed⟩

/-- Spelled pieces are read again. -/
theorem solidPieces_spell {ps : List (List Char)} (h : ∀ p ∈ ps, IsSolid p) (closed : Bool) :
    solidPieces (spell ps closed) = ps := by
  induction ps with
  | nil => cases closed <;> rfl
  | cons p ps ih =>
    have hp := h p List.mem_cons_self
    have hrest := ih fun q hq => h q (List.mem_cons_of_mem p hq)
    have hpiece := solidPieces_of_notMem hp.whole hp.nonempty
    rw [spell_cons, solidPieces_cons_slash]
    -- behind a piece the text ends, or there is a slash
    rcases spell_eq_nil_or ps closed with hnil | ⟨rest, hslash⟩
    · rw [hnil, solidPieces_nil] at hrest
      rw [hnil, List.append_nil, hpiece, ← hrest]
    · rw [hslash, solidPieces_cons_slash] at hrest
      rw [hslash, solidPieces_append, hpiece, hrest, List.singleton_append]

/-- A spelled pattern ends in a slash exactly if it is closed. -/
theorem getLast?_spell {ps : List (List Char)} (h : ∀ p ∈ ps, IsSolid p) (closed : Bool) :
    (spell ps closed).getLast? = some '/' ↔ closed = true := by
  cases closed with
  | true => simp [spell]
  | false =>
    rcases List.eq_nil_or_concat' ps with rfl | ⟨ps, p, rfl⟩
    · simp [spell]
    · -- the last character is that of the last piece
      have hp := h p (by simp)
      obtain ⟨q, c, rfl⟩ := (List.eq_nil_or_concat' p).resolve_left hp.nonempty
      have hc : c ≠ '/' := by
        rintro rfl
        exact hp.whole (by simp)
      have htext : spell (ps ++ [q ++ [c]]) false = (ps.flatMap ('/' :: ·) ++ '/' :: q) ++ [c] := by
        simp [spell]
      rw [htext, List.getLast?_concat]
      simp [hc]

/-! ### The normal form -/

/-- A text that starts with a slash and has no two slashes in a row. -/
structure IsPattern (s : String) : Prop where
  starts : ['/'] <+: s.toList
  single : ¬ ['/', '/'] <:+: s.toList

/-- A pattern with the pieces of a text, that ends with a slash exactly if the text does or is
empty. -/
structure IsPatternOf (raw s : String) : Prop extends IsPattern s where
  pieces : solidPieces s.toList = solidPieces raw.toList
  closed : s.toList.getLast? = some '/' ↔ raw = "" ∨ raw.toList.getLast? = some '/'

/-- A text may be normalized before more is appended to it. -/
theorem normalizePattern_append (raw rest : String) :
    normalizePattern (normalizePattern raw ++ rest) = normalizePattern (raw ++ rest) := by
  have hpass := collapse_collapse_append true raw.toList rest.toList
  simp [normalizePattern, collapse, hpass]

/-- Normalizing twice does no more than once. -/
theorem normalizePattern_idem (raw : String) :
    normalizePattern (normalizePattern raw) = normalizePattern raw := by
  simpa using normalizePattern_append raw ""

/-- What normalizing leaves alone are the patterns. -/
theorem normalizePattern_eq_self_iff (s : String) : normalizePattern s = s ↔ IsPattern s := by
  constructor
  · intro h
    have hchars : '/' :: collapse true s.toList = s.toList := by
      rw [← String.toList_ofList (l := '/' :: collapse true s.toList), ← normalizePattern, h]
    -- the text behind the first slash is left as it is
    obtain ⟨cs, hcs⟩ : ∃ cs, s.toList = '/' :: cs := ⟨_, hchars.symm⟩
    rw [hcs, List.cons.injEq] at hchars
    refine ⟨⟨cs, hcs.symm⟩, ?_⟩
    rw [hcs]
    exact (collapse_eq_self_iff true cs).mp (by simpa [collapse] using hchars.2)
  · rintro ⟨⟨cs, hcs⟩, hsingle⟩
    have hcs : s.toList = '/' :: cs := hcs.symm
    rw [hcs] at hsingle
    have hpass : collapse true cs = cs := (collapse_eq_self_iff true cs).mpr hsingle
    refine String.toList_inj.mp ?_
    rw [normalizePattern, String.toList_ofList, hcs]
    simp [collapse, hpass]

theorem isPattern_normalizePattern (raw : String) : IsPattern (normalizePattern raw) :=
  (normalizePattern_eq_self_iff _).mp (normalizePattern_idem raw)

/-- A text has one pattern only. -/
theorem isPatternOf_iff (raw s : String) : IsPatternOf raw s ↔ s = normalizePattern raw := by
  have hsolid : ∀ p ∈ solidPieces raw.toList, IsSolid p := fun p => isSolid_of_mem_solidPieces
  constructor
  · intro h
    have hclosed : closes s.toList = closes raw.toList := by
      have hne : s.toList ≠ [] := by
        obtain ⟨rest, hrest⟩ := h.starts
        rw [← hrest]
        exact List.cons_ne_nil _ _
      rw [Bool.eq_iff_iff, closes_iff, closes_iff, or_iff_right hne, h.closed,
        String.toList_eq_nil_iff]
    refine String.toList_inj.mp ?_
    calc s.toList = (normalizePattern s).toList := by
          rw [(normalizePattern_eq_self_iff s).mpr h.toIsPattern]
      _ = spell (solidPieces s.toList) (closes s.toList) := toList_normalizePattern s
      _ = spell (solidPieces raw.toList) (closes raw.toList) := by rw [h.pieces, hclosed]
      _ = (normalizePattern raw).toList := (toList_normalizePattern raw).symm
  · rintro rfl
    refine { isPattern_normalizePattern raw with pieces := ?_, closed := ?_ }
    · rw [toList_normalizePattern, solidPieces_spell hsolid]
    · rw [toList_normalizePattern, getLast?_spell hsolid, closes_iff, String.toList_eq_nil_iff]

/-- Segments that come first may be joined first. -/
theorem joinPattern_join (xs ys : List String) :
    joinPattern (joinPattern xs :: ys) = joinPattern (xs ++ ys) := by
  rw [joinPattern, joinPattern, joinPattern, String.join_cons, normalizePattern_append,
    String.join_append]

end DispatchGen.Route

namespace DispatchGen

open Extract Syntax

/-! ### The routes of a table -/

/-- The route of a marker has a normal pattern. -/
theorem isPattern_of_record? {context : Context} {method : String} {line : Nat} {m : Marker}
    {f : Finding} {module : Path} {r : Route} (hf : m.record? context method line = some f)
    (hr : f.route? module = some r) : Route.IsPattern r.pattern := by
  unfold Marker.record? at hf
  split at hf
  · obtain ⟨path, -, rfl⟩ := Option.map_eq_some_iff.mp hf
    obtain rfl := Option.some.inj hr
    exact Route.isPattern_normalizePattern _
  · obtain ⟨queue, -, rfl⟩ := Option.map_eq_some_iff.mp hf
    cases hr
  · cases hf

theorem isPattern_of_mem_extract {p : Pipeline} {module : Path} {root : Node} {r : Route}
    (h : r ∈ (extract p module root).routes) : Route.IsPattern r.pattern := by
  rw [(fileOrder p module root).routes] at h
  obtain ⟨x, -, hx⟩ := List.mem_flatMap.mp h
  obtain ⟨f, hf, hr⟩ := List.mem_filterMap.mp hx
  rcases recordsIn_findings p x.1.site x.2 with hnone | ⟨context, name, -, -, -, hrecords⟩
  · rw [hnone] at hf
    cases hf
  · rw [hrecords] at hf
    obtain ⟨m, -, hm⟩ := List.mem_filterMap.mp hf
    exact isPattern_of_record? hm hr

/-- Every route of a table has a normal pattern. -/
theorem isPattern_of_mem_ofFiles {p : Pipeline} {files : List (Path × Node)} {r : Route}
    (h : r ∈ (Table.ofFiles p files).routes) : Route.IsPattern r.pattern := by
  rw [Table.ofFiles, Table.routes_ofFacts, List.flatMap_map] at h
  obtain ⟨file, -, hr⟩ := List.mem_flatMap.mp h
  exact isPattern_of_mem_extract hr

/-! ### Main statement -/

namespace Route

open Grammar (Reader)
open Project

/-- **The normal form of route patterns.**  The pattern of segments is the one text that starts
with a slash, has no two in a row, has the pieces between slashes that the segments have as they
are written one after another, and ends with a slash exactly if these do or are empty.  So
patterns are what the normal form leaves alone, and it is the same whether the first segments are
joined before the others or with them.  Every route has a pattern as its path, in the table of any
trees and in any table that can be built. -/
theorem joinPattern_normalForm [Reader] :
    (∀ segments s, IsPatternOf (String.join segments) s ↔ s = joinPattern segments) ∧
    (∀ s, normalizePattern (normalizePattern s) = normalizePattern s) ∧
    (∀ s, normalizePattern s = s ↔ IsPattern s) ∧
    (∀ xs ys, joinPattern (joinPattern xs :: ys) = joinPattern (xs ++ ys)) ∧
    (∀ p files, ∀ r ∈ (Table.ofFiles p files).routes, IsPattern r.pattern) ∧
    ∀ d target root c t, (buildTable d target root c).result = .ok t →
      ∀ r ∈ t.routes, IsPattern r.pattern := by
  refine ⟨fun segments s => isPatternOf_iff _ s, normalizePattern_idem,
    normalizePattern_eq_self_iff, joinPattern_join, fun p files r => isPattern_of_mem_ofFiles, ?_⟩
  intro d target root c t ht r hr
  rw [result_buildTable, map_eq_ok] at ht
  obtain ⟨files, -, rfl⟩ := ht
  exact isPattern_of_mem_ofFiles hr

/-- A controller whose path comes in parts that begin and end with slashes, and one without a
path. -/
def slashedControllers : Disk where
  root := [("src", .directory [("controllers", .directory [
    ("a.ts", .file ("@Controller('//a/') @BasePath('/b//') class A \x7b " ++
      "@Get('//c/') d() \x7b\x7d \x7d").toUTF8),
    ("e.ts", .file "@Controller('') class E \x7b @Get('') f() \x7b\x7d \x7d".toUTF8)])])]

theorem joinPattern_normalForm_slashed :
    (∃ t, (buildTable slashedControllers .http ⟨"."⟩ {}).result = .ok t ∧
      t.routes.map (·.pattern) = ["/a/b/c/", "/"] ∧ ∀ r ∈ t.routes, IsPattern r.pattern) ∧
    IsPatternOf "//a//b///c/" "/a/b/c/" := by
  obtain ⟨hjoin, -, -, -, -, hbuilt⟩ := joinPattern_normalForm
  obtain ⟨t, ht, hpatterns⟩ := exists_ok_of_map_toOption
    (r := (buildTable slashedControllers .http ⟨"."⟩ {}).result)
    (f := fun t => t.routes.map (·.pattern)) (b := ["/a/b/c/", "/"]) (by decide +kernel)
  refine ⟨⟨t, ht, hpatterns, hbuilt _ _ _ _ t ht⟩, ?_⟩
  exact (hjoin ["//a/", "/b//", "/c/"] _).mpr (by decide)

end Route

end DispatchGen
