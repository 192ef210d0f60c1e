/-
DispatchGen/Proofs/Generation.lean

Generating a target changes its output or nothing.

Preparing a text does not touch the disk, so only `writeOutput` is to be looked
at.  It makes directories first, one after another: after any number of them the
disk is one `Grown` from the first, in which every file and link is as it was.
The replacement that follows leaves nothing behind if it fails
(`grown_of_writeOutput_error`), and if it succeeds it changes one place
(`replaced_of_writeOutput_ok`).  The text can then be read back by the path it was
written to, unless the path went through what was there before.

Main statement: `generateTarget_atomic`.
-/
import DispatchGen.Project.Target
import DispatchGen.Proofs.Replacement

namespace DispatchGen

open Grammar (Reader)

/-! ### States and results of a run -/

namespace Run

variable {σ α β : Type}

/-- What a part of a run makes of a state, without what it tells. -/
def outcome (m : Run σ α) (s : σ) : σ × Except Failure α := ((m s).1, (m s).2.result)

@[simp] theorem outcome_pure (a : α) (s : σ) : outcome (pure a) s = (s, .ok a) := rfl

@[simp] theorem outcome_throw (e : Failure) (s : σ) :
    outcome (throw e : Run σ α) s = (s, .error e) := rfl

@[simp] theorem outcome_tell (e : Effect) (s : σ) : (tell e).outcome s = (s, .ok ()) := rfl

@[simp] theorem outcome_current (s : σ) : current.outcome s = (s, .ok s) := rfl

@[simp] theorem outcome_lift (r : Report α) (s : σ) :
    outcome (monadLift r : Run σ α) s = (s, r.result) := rfl

@[simp] theorem outcome_attempt (m : Run σ α) (s : σ) :
    m.attempt.outcome s = ((m.outcome s).1, .ok (m.outcome s).2) := rfl

/-- The second of two runs goes on with the state that the first one leaves, if it succeeds. -/
theorem outcome_bind (m : Run σ α) (f : α → Run σ β) (s : σ) :
    (m >>= f).outcome s =
      match m.outcome s with
      | (s', .ok a) => (f a).outcome s'
      | (s', .error e) => (s', .error e) := by
  simp only [outcome, bind]
  split <;> simp_all

/-- A run keeps a state that both its parts keep. -/
theorem outcome_bind_fst {m : Run σ α} {f : α → Run σ β} {s : σ}
    (hm : (m.outcome s).1 = s) (hf : ∀ a, ((f a).outcome s).1 = s) :
    ((m >>= f).outcome s).1 = s := by
  rw [outcome_bind]
  split
  case h_1 s' a hran =>
    rw [hran] at hm
    cases hm
    exact hf a
  case h_2 s' e hran =>
    rw [hran] at hm
    exact hm

theorem outcome_eq {m : Run σ α} {s : σ} {result : Except Failure α}
    (h : (m.outcome s).2 = result) : m.outcome s = ((m.outcome s).1, result) :=
  Prod.ext rfl h

end Run

namespace Disk

/-! ### Making directories -/

/-- `d'` is `d` with some directories more, each where nothing was. -/
structure Grown (d d' : Disk) : Prop where
  view : ∀ place, d'.view place = d.view place ∨
    d.view place = none ∧ d'.view place = some .directory
  current : d'.current = d.current
  refusal : d'.refusal = d.refusal

namespace Grown

variable {d d' d'' : Disk}

theorem refl (d : Disk) : Grown d d := ⟨fun _ => .inl rfl, rfl, rfl⟩

theorem trans (h : Grown d d') (h' : Grown d' d'') : Grown d d'' where
  view place := by
    rcases h'.view place with hsame | ⟨hnone, hnew⟩
    · rw [hsame]
      exact h.view place
    · rcases h.view place with hsame | ⟨_, hdirectory⟩
      · exact .inr ⟨hsame.symm.trans hnone, hnew⟩
      · rw [hdirectory] at hnone
        cases hnone
  current := h'.current.trans h.current
  refusal := h'.refusal.trans h.refusal

theorem alike (h : Grown d d') (h' : Alike d' d'') : Grown d d'' where
  view place := by
    rw [h'.view]
    exact h.view place
  current := h'.current.trans h.current
  refusal := h'.refusal.trans h.refusal

/-- No file is changed, added or removed. -/
theorem get?_file_iff (h : Grown d d') (place : Place) (bytes : ByteArray) :
    d'.get? place = some (.file bytes) ↔ d.get? place = some (.file bytes) := by
  rw [← view_eq_file, ← view_eq_file]
  rcases h.view place with hsame | ⟨hnone, hnew⟩
  · rw [hsame]
  · rw [hnone, hnew]
    simp

/-- What is not a directory afterwards is as it was. -/
theorem view_eq_of_not_directory (h : Grown d d') {place : Place}
    (hplace : d'.view place ≠ some .directory) : d'.view place = d.view place :=
  (h.view place).resolve_right fun hnew => hplace hnew.2

end Grown

variable {d d' : Disk}

/-- A directory is made where nothing is, and nothing else changes. -/
theorem makeDirectory_eq_ok {p : Path} :
    d.makeDirectory p = .ok d' ↔
      d.refusal (.makeDirectory p) = none ∧ ∃ parent name slashed,
        d.resolve false p = .ok (.entry parent name slashed) ∧
        d.view (parent ++ [name]) = none ∧ d' = d.put parent name (.directory []) := by
  simp only [makeDirectory, bind_eq_ok, allow_eq_ok, view_eq_none]
  constructor
  · rintro ⟨-, hallow, spot, hspot, h⟩
    split at h
    case h_1 => cases h
    case h_2 parent name slashed =>
      split at h
      case h_1 => cases h
      case h_2 hnone =>
        cases h
        exact ⟨hallow, parent, name, slashed, hspot, hnone, rfl⟩
  · rintro ⟨hallow, parent, name, slashed, hspot, hnone, rfl⟩
    refine ⟨(), hallow, _, hspot, ?_⟩
    simp only [hnone]
    rfl

/-- Where a directory was made, nothing stood, and elsewhere nothing has changed. -/
theorem view_of_makeDirectory {p : Path} (h : d.makeDirectory p = .ok d') :
    ∃ parent name slashed, d.resolve false p = .ok (.entry parent name slashed) ∧
      d.view (parent ++ [name]) = none ∧
      d'.view = Function.update d.view (parent ++ [name]) (some .directory) := by
  obtain ⟨-, parent, name, slashed, hspot, hnone, rfl⟩ := makeDirectory_eq_ok.mp h
  have hparent : d.view parent = some .directory := view_base_of_resolve hspot
  refine ⟨parent, name, slashed, hspot, hnone, view_put hparent ?_ Entry.bare_empty⟩
  rw [hnone]
  exact fun h => by cases h

/-- To make a directory adds it and nothing else. -/
theorem grown_makeDirectory {p : Path} (h : d.makeDirectory p = .ok d') : Grown d d' := by
  obtain ⟨parent, name, -, -, hnone, hview⟩ := view_of_makeDirectory h
  obtain ⟨-, _, _, _, -, -, rfl⟩ := makeDirectory_eq_ok.mp h
  refine ⟨fun place => ?_, current_put _ _ _ _, refusal_put _ _ _ _⟩
  rw [hview]
  by_cases hplace : place = parent ++ [name]
  · subst hplace
    rw [Function.update_self]
    exact .inr ⟨hnone, rfl⟩
  · rw [Function.update_of_ne hplace]
    exact .inl rfl

/-- What making one directory preserves, making all of them preserves. -/
theorem makeDirectoriesWithin_invariant {R : Disk → Prop}
    (hmake : ∀ d d' p, R d → d.makeDirectory p = .ok d' → R d') (steps : Nat) (d : Disk) (p : Path)
    (h : R d) : R (d.makeDirectoriesWithin steps p).1 := by
  have hensure : ∀ d p, R d → R (d.ensureDirectory p).1 := by
    intro d p h
    unfold ensureDirectory
    split
    case h_1 made hmade => exact hmake d made p h hmade
    case h_2 => exact h
  induction steps generalizing d p with
  | zero => exact h
  | succ steps ih =>
    unfold makeDirectoriesWithin
    split
    case isTrue => exact h
    case isFalse =>
      split
      case h_1 =>
        split
        case h_1 => exact h
        case h_2 parent _ =>
          have hparent := ih d parent h
          -- the directories above come first, and stay if this one fails
          split
          case h_1 above habove =>
            rw [habove] at hparent
            exact hensure above p hparent
          case h_2 => exact hparent
      case h_2 => exact hensure d p h

theorem grown_makeDirectoriesWithin (steps : Nat) (d : Disk) (p : Path) :
    Grown d (d.makeDirectoriesWithin steps p).1 :=
  makeDirectoriesWithin_invariant (fun _ _ _ h hmake => h.trans (grown_makeDirectory hmake))
    steps d p (.refl d)

/-- To make directories adds them and nothing else. -/
theorem grown_makeDirectories (d : Disk) (p : Path) : Grown d (d.makeDirectories p).1 :=
  grown_makeDirectoriesWithin _ d p

end Disk

namespace Project

open Disk

/-- What a generation does, step by step. -/
theorem outcome_generateTarget [Reader] (root : Path) (c : Config) (dryRun : Bool)
    (target : Pipeline)
    (d : Disk) :
    (generateTarget root c dryRun target).outcome d =
      if c.isEnabled target then
        match (prepare d target root c).result with
        | .error (.missingSourceDir _ directory) => (d, .ok (.skipped directory))
        | .error e => (d, .error e)
        | .ok prepared =>
            if dryRun then (d, .ok (.dryRun (root.join (c.output target)) prepared.text))
            else
              match (writeOutput (root.join (c.output target)) prepared.text).outcome d with
              | (d', .ok ()) =>
                  (d', .ok (.written (root.join (c.output target))
                    (prepared.table.recordCount target)))
              | (d', .error e) => (d', .error e)
      else (d, .ok .disabled) := by
  rw [generateTarget]
  cases c.isEnabled target with
  | false => rfl
  | true =>
    simp only [Bool.not_true, Bool.false_eq_true, if_false, if_true, Run.outcome_bind,
      Run.outcome_current, Run.outcome_attempt, Run.outcome_lift]
    cases (prepare d target root c).result with
    | error e => cases e <;> rfl
    | ok prepared =>
      cases dryRun with
      | true => rfl
      | false =>
        simp only [Bool.false_eq_true, if_false, Run.outcome_bind, Run.outcome_tell,
          Run.outcome_pure]
        rcases (writeOutput (root.join (c.output target)) prepared.text).outcome d with
          ⟨d', _ | _⟩ <;> rfl

/-! ### Writing the output -/

/-- A write that fails has made directories at most. -/
theorem grown_of_writeOutput_error {file : Path} {text : String} {d d' : Disk} {e : Failure}
    (h : (writeOutput file text).outcome d = (d', .error e)) : Grown d d' := by
  have hmade := grown_makeDirectories d (directoryOf file)
  simp only [Run.outcome, writeOutput] at h
  split at h
  case h_1 made _ hmake =>
    cases h
    rw [hmake] at hmade
    exact hmade
  case h_2 made hmake =>
    rw [hmake] at hmade
    split at h
    case h_1 step fault hreplace =>
      cases h
      exact hmade.alike (replaceFile_of_error hreplace)
    case h_2 => cases h

/-- A write makes the directory of the file and replaces the file. -/
theorem writeOutput_eq_ok {file : Path} {text : String} {d d' : Disk} :
    (writeOutput file text).outcome d = (d', .ok ()) ↔
      ∃ made, d.makeDirectories (directoryOf file) = (made, .ok ()) ∧
        made.replaceFile (directoryOf file) file text.toUTF8 = (d', .ok ()) := by
  simp only [Run.outcome, writeOutput]
  constructor
  · intro h
    split at h
    case h_1 => cases h
    case h_2 made hmake =>
      split at h
      case h_1 => cases h
      case h_2 hreplace =>
        cases h
        exact ⟨made, hmake, hreplace⟩
  · rintro ⟨made, hmake, hreplace⟩
    simp only [hmake, hreplace]
    rfl

/-- A write that succeeds puts the text where the path of the file leads. -/
theorem replaced_of_writeOutput_ok {file : Path} {text : String} {d d' : Disk}
    (h : (writeOutput file text).outcome d = (d', .ok ())) :
    ∃ parent name,
      (d.makeDirectories (directoryOf file)).1.resolve false file
        = .ok (.entry parent name false) ∧
      (d.makeDirectories (directoryOf file)).1.view (parent ++ [name]) ≠ some .directory ∧
      Replaced (parent ++ [name]) text.toUTF8 (d.makeDirectories (directoryOf file)).1 d' := by
  obtain ⟨made, hmake, hreplace⟩ := writeOutput_eq_ok.mp h
  rw [hmake]
  exact replaceFile_of_ok hreplace

/-- What a path leads to after a file is put there, unless a link was. -/
theorem readText_of_replaced {d d' : Disk} {p : Path} {parent : Place} {name : OsText}
    {text : String} (hresolve : d.resolve false p = .ok (.entry parent name false))
    (hreplaced : Replaced (parent ++ [name]) text.toUTF8 d d')
    (hsolid : Solid (d.view (parent ++ [name]))) (hallow : d'.refusal (.read p) = none) :
    d'.readText p = .ok text := by
  have hfile : d'.view (parent ++ [name]) = some (.file text.toUTF8) := by
    rw [hreplaced.view, Function.update_self]
  have hsame : SameBut (parent ++ [name]) d d' := by
    refine ⟨fun place hne => ?_, hsolid, ?_, hreplaced.current⟩
    · rw [hreplaced.view, Function.update_of_ne hne]
    · rw [hfile]
      trivial
  exact readText_iff.mpr ⟨hallow, status_eq_file.mpr
    ⟨parent, name, resolve_of_sameBut hsame (fun _ => rfl) hresolve, view_eq_file.mp hfile⟩⟩

/-! ### What becomes of a target -/

/-- The ends that generating a target can come to: the disk is kept, preparing
fails, writing fails, or the output is written. -/
inductive Generated [Reader] (root : Path) (c : Config) (target : Pipeline) (d : Disk) :
    Disk × Except Failure Outcome → Prop where
  | kept {o : Outcome} : (∀ output records, o ≠ .written output records) →
      Generated root c target d (d, .ok o)
  | refused {e : Failure} : (prepare d target root c).result = .error e →
      Generated root c target d (d, .error e)
  | failed {prepared : Prepared} {d' : Disk} {e : Failure} :
      (prepare d target root c).result = .ok prepared →
      (writeOutput (root.join (c.output target)) prepared.text).outcome d = (d', .error e) →
      Generated root c target d (d', .error e)
  | written {prepared : Prepared} {d' : Disk} :
      (prepare d target root c).result = .ok prepared →
      (writeOutput (root.join (c.output target)) prepared.text).outcome d = (d', .ok ()) →
      Generated root c target d
        (d', .ok (.written (root.join (c.output target)) (prepared.table.recordCount target)))

/-- A generation leaves what `Generated` says, for each of its endings. -/
theorem generated [Reader] (root : Path) (c : Config) (dryRun : Bool) (target : Pipeline)
    (d : Disk) :
    Generated root c target d ((generateTarget root c dryRun target).outcome d) := by
  rw [outcome_generateTarget]
  split
  case isFalse => exact .kept fun _ _ h => by cases h
  case isTrue =>
    split
    case h_1 => exact .kept fun _ _ h => by cases h
    case h_2 hprepare => exact .refused hprepare
    case h_3 hprepare =>
      split
      case isTrue => exact .kept fun _ _ h => by cases h
      case isFalse =>
        split
        case h_1 hwrite => exact .written hprepare hwrite
        case h_2 hwrite => exact .failed hprepare hwrite

/-! ### Main statement -/

/-- **Generation changes the output or nothing.**  A failure leaves every file as
it was, and none is added or removed: at most some directories are new, and none
if it was preparing that failed.  Any outcome but a written output leaves the disk
itself.  A written output is the text that was prepared from the disk as it was,
at the place where its path leads, and elsewhere at most some directories are new;
so no temporary file is left either. -/
theorem generateTarget_atomic [Reader] (root : Path) (c : Config) (dryRun : Bool)
    (target : Pipeline)
    (d d' : Disk) :
    (∀ e, (generateTarget root c dryRun target).outcome d = (d', .error e) →
      (∀ place bytes, d'.get? place = some (.file bytes) ↔ d.get? place = some (.file bytes)) ∧
      Grown d d' ∧
      ((∃ e', (prepare d target root c).result = .error e') → d' = d)) ∧
    (∀ o, (generateTarget root c dryRun target).outcome d = (d', .ok o) →
      (∀ output records, o ≠ .written output records) → d' = d) ∧
    ∀ output records,
      (generateTarget root c dryRun target).outcome d = (d', .ok (.written output records)) →
      output = root.join (c.output target) ∧ ∃ prepared parent name,
        (prepare d target root c).result = .ok prepared ∧
        records = prepared.table.recordCount target ∧
        (d.makeDirectories (directoryOf output)).1.resolve false output
          = .ok (.entry parent name false) ∧
        d'.get? (parent ++ [name]) = some (.file prepared.text.toUTF8) ∧
        (∀ place, place ≠ parent ++ [name] → d'.view place = d.view place ∨
          d.view place = none ∧ d'.view place = some .directory) ∧
        ((∀ old, d.view (parent ++ [name]) ≠ some (.link old)) →
          d.refusal (.read output) = none → d'.readText output = .ok prepared.text) := by
  have hgenerated := generated root c dryRun target d
  refine ⟨fun e h => ?failed, fun o h hwritten => ?kept, fun output records h => ?written⟩
  case failed =>
    rw [h] at hgenerated
    have hgrown : Grown d d' ∧ ((∃ e', (prepare d target root c).result = .error e') → d' = d) := by
      cases hgenerated with
      | refused _ => exact ⟨.refl d, fun _ => rfl⟩
      | failed hprepare hwrite =>
        refine ⟨grown_of_writeOutput_error hwrite, fun ⟨_, herror⟩ => ?_⟩
        rw [hprepare] at herror
        cases herror
    exact ⟨hgrown.1.get?_file_iff, hgrown⟩
  case kept =>
    rw [h] at hgenerated
    cases hgenerated with
    | kept _ => rfl
    | written _ _ => exact absurd rfl (hwritten _ _)
  case written =>
    rw [h] at hgenerated
    cases hgenerated with
    | kept hother => exact absurd rfl (hother _ _)
    | @written prepared _ hprepare hwrite =>
      -- first the directories, then one place
      have hmade := grown_makeDirectories d (directoryOf (root.join (c.output target)))
      obtain ⟨parent, name, hresolve, hold, hreplaced⟩ := replaced_of_writeOutput_ok hwrite
      refine ⟨rfl, prepared, parent, name, hprepare, rfl, hresolve, ?_, fun place hne => ?_,
        fun hlink hallow => ?_⟩
      · rw [← view_eq_file, hreplaced.view, Function.update_self]
      · rw [hreplaced.view, Function.update_of_ne hne]
        exact hmade.view place
      · refine readText_of_replaced hresolve hreplaced ?_ ?_
        · -- what was replaced is no new directory, so it was there from the start
          have hsame := hmade.view_eq_of_not_directory hold
          rw [hsame] at hold ⊢
          match hthing : d.view (parent ++ [name]) with
          | none => trivial
          | some (.file _) => trivial
          | some .directory => exact absurd hthing hold
          | some (.link old) => exact absurd hthing (hlink old)
        · rw [hreplaced.refusal, hmade.refusal]
          exact hallow

/-- One controller and the output of an earlier run, on a disk that refuses what
it is told to. -/
def regenerated (refusal : Operation → Option Fault) : Disk where
  root := [("src", .directory [
    ("controllers", .directory [
      ("a.ts", .file "@Controller('a') class A \x7b @Get('/b') c() \x7b\x7d \x7d".toUTF8)]),
    ("generated", .directory [("router.ts", .file "old".toUTF8)])])]
  refusal := refusal

/-- The new output is there when every step succeeds, and the old one when the
last step is refused; a target without sources leaves the disk alone. -/
theorem generateTarget_atomic_regenerated :
    (∃ d' prepared,
      (generateTarget ⟨"."⟩ {} false .http).outcome (regenerated fun _ => none)
        = (d', .ok (.written ⟨"./src/generated/router.ts"⟩ 1)) ∧
      (prepare (regenerated fun _ => none) .http ⟨"."⟩ {}).result = .ok prepared ∧
      d'.get? ["src", "generated", "router.ts"] = some (.file prepared.text.toUTF8) ∧
      d'.readText ⟨"./src/generated/router.ts"⟩ = .ok prepared.text) ∧
    (∃ d' refusal e,
      (generateTarget ⟨"."⟩ {} false .http).outcome (regenerated refusal) = (d', .error e) ∧
      d'.get? ["src", "generated", "router.ts"] = some (.file "old".toUTF8)) ∧
    (generateTarget ⟨"."⟩ {} false .queue).outcome (regenerated fun _ => none)
      = (regenerated fun _ => none, .ok (.skipped ⟨"./src/consumers"⟩)) := by
  refine ⟨?written, ?refused, ?skipped⟩
  case written =>
    have hresult := eq_ok_of_toOption (r :=
      ((generateTarget ⟨"."⟩ {} false .http).outcome (regenerated fun _ => none)).2)
      (a := .written ⟨"./src/generated/router.ts"⟩ 1) (by decide +kernel)
    have hplace := eq_ok_of_toOption (r := ((regenerated fun _ => none).makeDirectories
      (directoryOf ⟨"./src/generated/router.ts"⟩)).1.resolve false ⟨"./src/generated/router.ts"⟩)
      (a := .entry ["src", "generated"] "router.ts" false) (by decide +kernel)
    have hran := Run.outcome_eq hresult
    obtain ⟨-, prepared, parent, name, hprepare, -, hresolve, hfile, -, hread⟩ :=
      (generateTarget_atomic _ _ _ _ _ _).2.2 _ _ hran
    rw [hplace] at hresolve
    cases hresolve
    have hold : (regenerated fun _ => none).view ["src", "generated", "router.ts"]
        = some (.file "old".toUTF8) := rfl
    refine ⟨_, prepared, hran, hprepare, hfile, hread (fun _ hlink => ?_) rfl⟩
    have hthing := hold.symm.trans hlink
    cases hthing
  case refused =>
    let refusal : Operation → Option Fault
      | .persist _ => some .busy
      | _ => none
    obtain ⟨e, hresult⟩ := exists_error_of_toOption (r :=
      ((generateTarget ⟨"."⟩ {} false .http).outcome (regenerated refusal)).2) (by decide +kernel)
    have hran := Run.outcome_eq hresult
    have hfiles := ((generateTarget_atomic _ _ _ _ _ _).1 e hran).1
    exact ⟨_, refusal, e, hran, (hfiles _ _).mpr rfl⟩
  case skipped =>
    have hresult := eq_ok_of_toOption (r :=
      ((generateTarget ⟨"."⟩ {} false .queue).outcome (regenerated fun _ => none)).2)
      (a := .skipped ⟨"./src/consumers"⟩) (by decide +kernel)
    have hran := Run.outcome_eq hresult
    have hkept := (generateTarget_atomic _ _ _ _ _ _).2.1 _ hran (fun _ _ h => by cases h)
    rw [hran, hkept]

end Project

end DispatchGen
