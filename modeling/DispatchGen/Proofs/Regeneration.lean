/-
DispatchGen/Proofs/Regeneration.lean

Generating a target and checking it agree.

A check comes out well exactly if a dry run would come to the text that the output
holds (`checkTarget_eq_upToDate`), so generation and check stay together as long as
the disk that was written to has the same sources as the one before.  It has: only
the output was written, which is not among them, and new directories are empty
(`Wrote.updated`).

Main statement: `generate_check_agree`.
-/
import DispatchGen.Proofs.DiskNames

namespace DispatchGen.Project

open Grammar (Reader)

open Disk DispatchGen.Path

variable {d d' : Disk} {root : Path} {c : Config} {target : Pipeline}

/-! ### What generation and check come to -/

theorem generateTarget_eq_written [Reader] {dryRun : Bool} {output : Path} {records : Nat} :
    (generateTarget root c dryRun target).outcome d = (d', .ok (.written output records)) ↔
      c.isEnabled target = true ∧ dryRun = false ∧ output = root.join (c.output target) ∧
        ∃ prepared, (prepare d target root c).result = .ok prepared ∧
          records = prepared.table.recordCount target ∧
          (writeOutput output prepared.text).outcome d = (d', .ok ()) := by
  rw [outcome_generateTarget]
  constructor
  · intro h
    split at h
    case isFalse => cases h
    case isTrue henabled =>
      split at h
      case h_1 => cases h
      case h_2 => cases h
      case h_3 prepared hprepare =>
        split at h
        case isTrue => cases h
        case isFalse hdry =>
          split at h
          case h_1 hwrite =>
            cases h
            exact ⟨henabled, by simpa using hdry, rfl, prepared, hprepare, rfl, hwrite⟩
          case h_2 => cases h
  · rintro ⟨henabled, rfl, rfl, prepared, hprepare, rfl, hwrite⟩
    simp [henabled, hprepare, hwrite]

theorem generateTarget_eq_dryRun [Reader] {output : Path} {text : String} :
    (generateTarget root c true target).outcome d = (d', .ok (.dryRun output text)) ↔
      c.isEnabled target = true ∧ d' = d ∧ output = root.join (c.output target) ∧
        ∃ prepared, (prepare d target root c).result = .ok prepared ∧ prepared.text = text := by
  rw [outcome_generateTarget]
  constructor
  · intro h
    split at h
    case isFalse => cases h
    case isTrue henabled =>
      split at h
      case h_1 => cases h
      case h_2 => cases h
      case h_3 prepared hprepare =>
        rw [if_pos rfl] at h
        cases h
        exact ⟨henabled, rfl, rfl, prepared, hprepare, rfl⟩
  · rintro ⟨henabled, rfl, rfl, prepared, hprepare, rfl⟩
    simp [henabled, hprepare]

theorem compareOutput_eq_ok (target : Pipeline) {output : Path} {text : String} :
    compareOutput d target output text = .ok () ↔ d.readText output = .ok text := by
  unfold compareOutput
  split
  case h_1 found hread => simp [hread]
  case h_2 hread => simp [hread]
  case h_3 hread => simp [hread]

/-- A target is up to date if the text that would be generated can be read as its
output. -/
theorem checkTarget_eq_upToDate [Reader] {output : Path} :
    (checkTarget d root c target).result = .ok (.upToDate output) ↔
      c.isEnabled target = true ∧ output = root.join (c.output target) ∧
        ∃ prepared, (prepare d target root c).result = .ok prepared ∧
          d.readText output = .ok prepared.text := by
  simp only [← compareOutput_eq_ok target]
  rw [checkTarget]
  constructor
  · intro h
    split at h
    case isTrue => cases h
    case isFalse hdisabled =>
      have henabled : c.isEnabled target = true := by simpa using hdisabled
      dsimp only at h
      split at h
      case h_1 => cases h
      case h_2 => cases h
      case h_3 prepared hprepare =>
        split at h
        case h_1 => cases h
        case h_2 hcompare =>
          cases h
          exact ⟨henabled, rfl, prepared, hprepare, hcompare⟩
  · rintro ⟨henabled, rfl, prepared, hprepare, hcompare⟩
    simp only [henabled, hprepare, hcompare, Bool.not_true, Bool.false_eq_true, if_false]

/-- Preparing comes to the same on a disk that differs at the output only. -/
theorem prepare_of_updated [Reader] (hd : WellFormed d) (hroot : root.raw ≠ [])
    (hsource : (c.sourceDir target).Descends) (houtput : (c.output target).Descends)
    (hupdated : Updated (Place.follow d.current (root.join (c.output target)).components) d d')
    {prepared : Prepared} (h : (prepare d target root c).result = .ok prepared) :
    (prepare d' target root c).result = .ok prepared := by
  rw [result_prepare] at h ⊢
  obtain ⟨files, hfiles, hrender⟩ := bind_eq_ok.mp h
  rw [parseSources_of_updated hd hroot hsource houtput hupdated hfiles]
  exact hrender

/-! ### After a write -/

theorem ordered_of_writeOutput {file : Path} {text : String} (hordered : d.Ordered)
    (h : (writeOutput file text).outcome d = (d', .ok ())) : d'.Ordered := by
  obtain ⟨made, hmake, hreplace⟩ := writeOutput_eq_ok.mp h
  have hmade := hordered.makeDirectories (directoryOf file)
  rw [hmake] at hmade
  exact hmade.replaceFile hreplace

/-- The output is the only file that a write touches. -/
theorem updated_of_writeOutput {file : Path} {text : String} (hd : WellFormed d)
    (hfree : d.LinkFree) (h : (writeOutput file text).outcome d = (d', .ok ())) :
    Updated (Place.follow d.current file.components) d d' := by
  obtain ⟨made, hwrote, -⟩ := wrote_of_writeOutput hfree h
  refine ⟨hwrote.keeps hfree, fun place bytes hne => ?_, ordered_of_writeOutput hd.ordered h,
    named_of_writeOutput hd.named h⟩
  rw [hwrote.replaced.view, Function.update_of_ne hne, view_eq_file, view_eq_file]
  exact hwrote.grown.get?_file_iff place bytes

theorem status_of_writeOutput {file : Path} {text : String} (hfree : d.LinkFree)
    (h : (writeOutput file text).outcome d = (d', .ok ())) :
    d'.status file = .ok (.file text.toUTF8) := by
  obtain ⟨made, hwrote, hreplaceable⟩ := wrote_of_writeOutput hfree h
  obtain ⟨parent, name, hresolve, -⟩ := hreplaceable.target
  have hplace : parent ++ [name] = Place.follow d.current file.components := by
    rw [← hwrote.grown.current]
    exact place_of_resolve (hwrote.keeps_made hfree).linkFree' hresolve
  have hfile := hwrote.view_output
  rw [← hplace, view_eq_file] at hfile
  exact status_eq_file.mpr ⟨parent, name, (hwrote.made_keeps hfree).resolve hresolve, hfile⟩

/-! ### Checks change nothing -/

theorem outcome_runTargets_fst {σ α : Type} {op : Pipeline → Run σ α} {s : σ}
    (hop : ∀ target, ((op target).outcome s).1 = s) (targets : List Pipeline) :
    ((runTargets op targets).outcome s).1 = s := by
  have hall : ((attemptAll op targets).outcome s).1 = s := by
    induction targets with
    | nil => rfl
    | cons target rest ih =>
      rw [attemptAll]
      refine Run.outcome_bind_fst (hop target) fun result => ?_
      have hrest := Run.outcome_bind_fst (f := fun results => pure (result :: results)) ih
        fun _ => rfl
      cases result with
      | error e => exact Run.outcome_bind_fst rfl fun _ => hrest
      | ok a => exact hrest
  rw [runTargets]
  refine Run.outcome_bind_fst hall fun results => ?_
  cases failuresOf results <;> rfl

theorem outcome_checkAll_fst [Reader] (targets : List Pipeline) :
    ((checkAll root c targets).outcome d).1 = d :=
  outcome_runTargets_fst (fun _ => rfl) targets

/-! ### Main statement -/

/-- **Generating and checking agree.**  On a disk without links, where the root is
not empty and the paths of the sources and of the output descend from it, a target
that was generated is up to date, unless the system refuses to have the output
read.  Generating it again writes the same bytes, and nothing tells the disks
before and after apart.

No check changes the disk, whatever is checked.  On any disk at all a target is up
to date exactly if a dry run comes to the bytes that its output holds, and the
output can be read. -/
theorem generate_check_agree [Reader] (root : Path) (c : Config) (target : Pipeline) (d : Disk) :
    (∀ dryRun d' output records, WellFormed d → d.LinkFree → root.raw ≠ [] →
      (c.sourceDir target).Descends → (c.output target).Descends →
      (generateTarget root c dryRun target).outcome d = (d', .ok (.written output records)) →
      ∃ text : String, d'.status output = .ok (.file text.toUTF8) ∧
        (d.refusal (.read output) = none →
          (checkTarget d' root c target).result = .ok (.upToDate output)) ∧
        ∃ d'', (generateTarget root c dryRun target).outcome d'
            = (d'', .ok (.written output records)) ∧
          d''.status output = .ok (.file text.toUTF8) ∧ Alike d' d'') ∧
    (∀ targets, ((checkAll root c targets).outcome d).1 = d) ∧
    ∀ output, (checkTarget d root c target).result = .ok (.upToDate output) ↔
      ∃ text, (generateTarget root c true target).outcome d = (d, .ok (.dryRun output text)) ∧
        d.status output = .ok (.file text.toUTF8) ∧ d.refusal (.read output) = none := by
  refine ⟨?generated, outcome_checkAll_fst, fun output => ?upToDate⟩
  case generated =>
    intro dryRun d' output records hd hfree hroot hsource houtput h
    obtain ⟨henabled, hdry, rfl, prepared, hprepare, hrecords, hwrite⟩ :=
      generateTarget_eq_written.mp h
    -- only the output was written, so the same text is prepared from the new disk
    have hupdated := updated_of_writeOutput hd hfree hwrite
    have hfree' : d'.LinkFree := hupdated.keeps.linkFree'
    have hstatus := status_of_writeOutput hfree hwrite
    have hprepare' := prepare_of_updated hd hroot hsource houtput hupdated hprepare
    obtain ⟨d'', hwrite', halike⟩ := writeOutput_again hfree hwrite
    refine ⟨prepared.text, hstatus, fun hallow => ?_, d'', ?_,
      status_of_writeOutput hfree' hwrite', halike⟩
    · have hread := readText_iff.mpr ⟨hupdated.keeps.refusal ▸ hallow, hstatus⟩
      exact checkTarget_eq_upToDate.mpr ⟨henabled, rfl, prepared, hprepare', hread⟩
    · exact generateTarget_eq_written.mpr
        ⟨henabled, hdry, rfl, prepared, hprepare', hrecords, hwrite'⟩
  case upToDate =>
    -- a check and a dry run prepare from the same disk
    rw [checkTarget_eq_upToDate]
    constructor
    · rintro ⟨henabled, houtput, prepared, hprepare, hread⟩
      obtain ⟨hallow, hstatus⟩ := readText_iff.mp hread
      have hdry := generateTarget_eq_dryRun.mpr ⟨henabled, rfl, houtput, prepared, hprepare, rfl⟩
      exact ⟨prepared.text, hdry, hstatus, hallow⟩
    · rintro ⟨text, hdry, hstatus, hallow⟩
      obtain ⟨henabled, -, houtput, prepared, hprepare, rfl⟩ := generateTarget_eq_dryRun.mp hdry
      exact ⟨henabled, houtput, prepared, hprepare, readText_iff.mpr ⟨hallow, hstatus⟩⟩

/-- Two controllers, of which one is about to be overwritten: the output goes to
its path. -/
def overwritten : Disk where
  root := [("src", .directory [
    ("controllers", .directory [
      ("a.ts", .file "@Controller('a') class A \x7b @Get('/b') c() \x7b\x7d \x7d".toUTF8),
      ("b.ts", .file "@Controller('b') class B \x7b @Get('/c') d() \x7b\x7d \x7d".toUTF8)])])]

/-- The output takes the place of a source, and is not taken for one afterwards. -/
theorem generate_check_agree_overwritten :
    ∃ c : Config, c.output .http = ⟨"src/controllers/b.ts"⟩ ∧ ∃ d' d'' records,
      (generateTarget ⟨"."⟩ c false .http).outcome overwritten
        = (d', .ok (.written ⟨"./src/controllers/b.ts"⟩ records)) ∧
      (checkTarget d' ⟨"."⟩ c .http).result = .ok (.upToDate ⟨"./src/controllers/b.ts"⟩) ∧
      (generateTarget ⟨"."⟩ c false .http).outcome d'
        = (d'', .ok (.written ⟨"./src/controllers/b.ts"⟩ records)) ∧
      Alike d' d'' := by
  let c : Config := { http := { output := ⟨"src/controllers/b.ts"⟩ } }
  have hresult := eq_ok_of_toOption (r :=
    ((generateTarget ⟨"."⟩ c false .http).outcome overwritten).2)
    (a := .written ⟨"./src/controllers/b.ts"⟩ 1) (by decide +kernel)
  have hran := Run.outcome_eq hresult
  have hplain : isPlainListing overwritten.root = true := by decide +kernel
  obtain ⟨hd, hfree⟩ := wellFormed_of_isPlain hplain fun _ => rfl
  obtain ⟨text, -, hcheck, d'', hagain, -, halike⟩ :=
    (generate_check_agree ⟨"."⟩ c .http overwritten).1 _ _ _ _ hd hfree (by decide) (by decide)
      (by decide) hran
  exact ⟨c, rfl, _, d'', 1, hran, hcheck rfl, hagain, halike⟩

end DispatchGen.Project
