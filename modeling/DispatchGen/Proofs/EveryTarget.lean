/-
DispatchGen/Proofs/EveryTarget.lean

Every target has its turn.

An operation on targets may fail and may change the state it runs on, both at once.  Its calls
over a list of targets are recorded as a `Chain`: one call an element, each on the state that
the one before it left.  A run over the list makes exactly these calls, which shows when the
operation keeps a record of its calls itself (`recorded`): what it finds in the record
afterwards is the chain.

What the calls make together is told by their failures alone: none, and the results stand in
order; one, and it is the failure of the run; several, and the run fails with a list of them.

Main statement: `every_target_attempted`.
-/
import DispatchGen.Project.Target
import Mathlib.Data.List.Basic

namespace DispatchGen.Project

open Grammar (Reader)

/-! ### Calls -/

/-- One call of an operation: for which target, on which state, and what came of it. -/
structure Call (σ α : Type) where
  target : Pipeline
  before : σ
  after : σ
  report : Report α

section Runs

variable {σ α : Type} {op : Pipeline → Run σ α} {s s' : σ} {calls : List (Call σ α)}
  {targets : List Pipeline}

/-- What the call fails with. -/
def Call.failure? (call : Call σ α) : Option Failure :=
  match call.report.result with
  | .error e => some e
  | .ok _ => none

/-- What leaves the program with a call: all that the operation tells, and after it the log's
note of a failure. -/
def Call.effects (call : Call σ α) : List Effect :=
  call.report.effects ++
    (call.failure?.map fun e => Effect.log (.targetFailed call.target e.message)).toList

/-- Calls of an operation, one after another: each meets the state that the one before it left,
whether or not that one failed. -/
inductive Chain (op : Pipeline → Run σ α) : σ → List (Call σ α) → σ → Prop where
  | nil (s : σ) : Chain op s [] s
  | cons {target : Pipeline} {s s₁ s' : σ} {report : Report α} {calls : List (Call σ α)}
      (hcall : op target s = (s₁, report)) (hrest : Chain op s₁ calls s') :
      Chain op s (⟨target, s, s₁, report⟩ :: calls) s'

/-- Any list of targets has its calls. -/
theorem exists_chain (op : Pipeline → Run σ α) (targets : List Pipeline) (s : σ) :
    ∃ calls s', calls.map Call.target = targets ∧ Chain op s calls s' := by
  induction targets generalizing s with
  | nil => exact ⟨[], s, rfl, .nil s⟩
  | cons target rest ih =>
    obtain ⟨calls, s', htargets, hchain⟩ := ih (op target s).1
    refine ⟨_ :: calls, s', ?_, .cons rfl hchain⟩
    rw [List.map_cons, htargets]

/-- Calls of an operation that changes nothing leave what they met. -/
theorem Chain.eq_of_unchanging (hop : ∀ target s, (op target s).1 = s) (h : Chain op s calls s') :
    s' = s := by
  induction h with
  | nil s => rfl
  | @cons target s s₁ s' report calls hcall hrest ih =>
    have hsame := hop target s
    rw [hcall] at hsame
    rw [ih]
    exact hsame

/-! ### The run over a list of targets -/

/-- The first target's call, and then the others' on what it left. -/
theorem attemptAll_cons_apply {target : Pipeline} {rest : List Pipeline} {s₁ : σ}
    {report : Report α} {results : List (Except Failure α)} {effects : List Effect}
    (hcall : op target s = (s₁, report))
    (hrest : attemptAll op rest s₁ = (s', ⟨.ok results, effects⟩)) :
    attemptAll op (target :: rest) s
      = (s', ⟨.ok (report.result :: results),
          Call.effects ⟨target, s, s₁, report⟩ ++ effects⟩) := by
  obtain ⟨result, told⟩ := report
  -- the log is told of a failure before the others have their turn
  cases result <;>
    simp [attemptAll, bind, pure, Run.attempt, Run.tell, Report.tell, hcall, hrest, Call.effects,
      Call.failure?]

/-- The attempts over a list of targets are the calls of a chain. -/
theorem Chain.attemptAll_eq (h : Chain op s calls s') :
    attemptAll op (calls.map Call.target) s
      = (s', ⟨.ok (calls.map fun call => call.report.result), calls.flatMap Call.effects⟩) := by
  induction h with
  | nil s => rfl
  | cons hcall hrest ih => exact attemptAll_cons_apply hcall ih

/-- The operation, with a record of its calls beside its state. -/
def recorded (op : Pipeline → Run σ α) (target : Pipeline) : Run (σ × List (Call σ α)) α :=
  fun (s, calls) =>
    let (s', report) := op target s
    ((s', calls ++ [⟨target, s, s', report⟩]), report)

/-- The record of the attempts is the chain, call by call. -/
theorem Chain.attemptAll_recorded (h : Chain op s calls s') (earlier : List (Call σ α)) :
    attemptAll (recorded op) (calls.map Call.target) (s, earlier)
      = ((s', earlier ++ calls),
          ⟨.ok (calls.map fun call => call.report.result), calls.flatMap Call.effects⟩) := by
  induction h generalizing earlier with
  | nil s =>
    rw [List.append_nil]
    rfl
  | @cons target s s₁ s' report calls hcall hrest ih =>
    have hrecorded : recorded op target (s, earlier)
        = ((s₁, earlier ++ [⟨target, s, s₁, report⟩]), report) := by
      rw [recorded, hcall]
    rw [List.append_cons]
    exact attemptAll_cons_apply hrecorded (ih _)

/-! ### The result of the run -/

theorem failuresOf_eq_nil_iff {results : List (Except Failure α)} :
    failuresOf results = [] ↔ results = (successesOf results).map .ok := by
  induction results with
  | nil => simp [failuresOf, successesOf]
  | cons result rest ih =>
    cases result with
    | error e =>
      constructor
      · exact fun h => by cases h
      · intro h
        have hmem : Except.error e ∈ (successesOf (.error e :: rest)).map .ok := by
          rw [← h]
          exact List.mem_cons_self
        obtain ⟨a, -, ha⟩ := List.mem_map.mp hmem
        cases ha
    | ok a => simpa [failuresOf, successesOf] using ih

theorem successesOf_map_ok (as : List α) : successesOf (as.map .ok) = as := by
  simp [successesOf, List.filterMap_map]

/-- What calls make together: all that they told, in order, and a result that their failures
decide. -/
structure Gathers (calls : List (Call σ α)) (report : Report (List α)) : Prop where
  effects : report.effects = calls.flatMap Call.effects
  succeeds_iff : (∃ as, report.result = .ok as) ↔ ∀ call ∈ calls, call.failure? = none
  outcomes : ∀ as, report.result = .ok as →
    (calls.map fun call => call.report.result) = as.map .ok
  only : ∀ e, calls.filterMap Call.failure? = [e] → report.result = .error e
  several : 2 ≤ (calls.filterMap Call.failure?).length → ∃ e, report.result = .error e ∧
    e.message = toString (calls.filterMap Call.failure?).length ++ " targets failed:\n" ++
      "\n".intercalate ((calls.filterMap Call.failure?).map fun e => "  - " ++ e.message)

/-- What a run makes of the results of its attempts. -/
def verdict (results : List (Except Failure α)) : Except Failure (List α) :=
  match failuresOf results with
  | [] => .ok (successesOf results)
  | failures => .error (.ofMany failures)

theorem runTargets_apply {results : List (Except Failure α)} {effects : List Effect}
    (h : attemptAll op targets s = (s', ⟨.ok results, effects⟩)) :
    runTargets op targets s = (s', ⟨verdict results, effects⟩) := by
  cases hfailures : failuresOf results <;>
    simp [runTargets, verdict, bind, pure, throw, throwThe, MonadExceptOf.throw, h, hfailures]

theorem message_several (es : List Failure) : (Failure.several es).message
    = toString es.length ++ " targets failed:" ++ Failure.listed es := rfl

/-- A list of failures: a line break before each, or one before all and one between any two. -/
theorem listed_eq_intercalate (e : Failure) (es : List Failure) :
    Failure.listed (e :: es)
      = "\n" ++ "\n".intercalate ((e :: es).map fun e => "  - " ++ e.message) := by
  have hitem : "\n  - " = "\n" ++ "  - " := by decide
  induction es generalizing e with
  | nil =>
    rw [Failure.listed, Failure.listed, String.append_empty, hitem, String.append_assoc]
    rfl
  | cons e' es ih =>
    rw [Failure.listed, ih, hitem]
    simp only [List.map_cons, String.intercalate_cons_cons, String.append_assoc]

theorem gathers_verdict (calls : List (Call σ α)) :
    Gathers calls
      ⟨verdict (calls.map fun call => call.report.result), calls.flatMap Call.effects⟩ := by
  have hfailures : failuresOf (calls.map fun call => call.report.result)
      = calls.filterMap Call.failure? := by
    rw [failuresOf, List.filterMap_map]
    rfl
  unfold verdict
  rw [hfailures]
  cases hcalls : calls.filterMap Call.failure? with
  | nil =>
    have hresults := failuresOf_eq_nil_iff.mp (hfailures.trans hcalls)
    refine ⟨rfl, ⟨fun _ => List.filterMap_eq_nil_iff.mp hcalls, fun _ => ⟨_, rfl⟩⟩, ?_, ?_, ?_⟩
    · rintro as has
      rw [hresults, Except.ok.inj has]
    · rintro e he
      rw [hcalls] at he
      cases he
    · intro hmany
      rw [hcalls] at hmany
      cases hmany
  | cons failure failures =>
    have hnot : ¬ ∀ call ∈ calls, call.failure? = none := by
      rw [← List.filterMap_eq_nil_iff, hcalls]
      exact List.cons_ne_nil _ _
    refine ⟨rfl, ⟨?_, fun h => absurd h hnot⟩, ?_, ?_, ?_⟩
    · rintro ⟨as, has⟩
      cases has
    · rintro as has
      cases has
    · rintro e he
      rw [hcalls] at he
      cases he
      rfl
    · intro hmany
      rw [hcalls] at hmany ⊢
      cases failures with
      | nil => exact absurd hmany (Nat.not_succ_le_self 1)
      | cons second rest =>
        refine ⟨.several (failure :: second :: rest), rfl, ?_⟩
        have hheading : " targets failed:\n" = " targets failed:" ++ "\n" := by decide
        rw [message_several, listed_eq_intercalate, hheading]
        simp only [String.append_assoc]

/-- The calls of a chain are what a run over their targets comes to, and the record that an
operation keeps of its calls in the run is the chain. -/
theorem Chain.exists_report (h : Chain op s calls s') :
    ∃ report, Gathers calls report ∧
      runTargets op (calls.map Call.target) s = (s', report) ∧
      ∀ earlier, runTargets (recorded op) (calls.map Call.target) (s, earlier)
        = ((s', earlier ++ calls), report) :=
  ⟨_, gathers_verdict calls, runTargets_apply h.attemptAll_eq,
    fun earlier => runTargets_apply (h.attemptAll_recorded earlier)⟩

end Runs

/-! ### Main statement -/

/-- **Every target is attempted.**  Over any list of targets, repetitions included, a run makes
one call an element, in order, each on the state that the one before it left, whether or not that
one failed; an operation that keeps a record of its calls finds exactly these.  The run succeeds
exactly if no call failed, with their results in order.  The failure of a single call is the
failure of the run; two or more are counted and listed in one failure, each with its full message,
in the order of the targets.  This is so for any operation on any state; generating and checking
are two such operations, and the calls of a check all meet the same disk. -/
theorem every_target_attempted [Reader] :
    (∀ (σ α : Type) (op : Pipeline → Run σ α) (targets : List Pipeline) (s : σ),
      ∃ calls s' report, calls.map Call.target = targets ∧ Chain op s calls s' ∧
        Gathers calls report ∧ runTargets op targets s = (s', report) ∧
        ∀ earlier, runTargets (recorded op) targets (s, earlier)
          = ((s', earlier ++ calls), report)) ∧
    (∀ (root : Path) (c : Config) (dryRun : Bool) (targets : List Pipeline) (d : Disk),
      ∃ calls d' report, calls.map Call.target = targets ∧
        Chain (generateTarget root c dryRun) d calls d' ∧ Gathers calls report ∧
        generateAll root c dryRun targets d = (d', report)) ∧
    (∀ (root : Path) (c : Config) (targets : List Pipeline) (d : Disk),
      ∃ calls report, calls.map Call.target = targets ∧
        Chain (fun target d => (d, checkTarget d root c target)) d calls d ∧
        Gathers calls report ∧ checkAll root c targets d = (d, report)) := by
  refine ⟨fun σ α op targets s => ?_, fun root c dryRun targets d => ?_,
    fun root c targets d => ?_⟩
  · obtain ⟨calls, s', rfl, hchain⟩ := exists_chain op targets s
    obtain ⟨report, hgathers, hrun, hrecorded⟩ := hchain.exists_report
    exact ⟨calls, s', report, rfl, hchain, hgathers, hrun, hrecorded⟩
  · obtain ⟨calls, d', rfl, hchain⟩ := exists_chain (generateTarget root c dryRun) targets d
    obtain ⟨report, hgathers, hrun, -⟩ := hchain.exists_report
    exact ⟨calls, d', report, rfl, hchain, hgathers, hrun⟩
  · obtain ⟨calls, d', rfl, hchain⟩ :=
      exists_chain (fun target d => (d, checkTarget d root c target)) targets d
    obtain rfl := hchain.eq_of_unchanging fun target d => rfl
    obtain ⟨report, hgathers, hrun, -⟩ := hchain.exists_report
    exact ⟨calls, report, rfl, hchain, hgathers, hrun⟩

end DispatchGen.Project
