/-
DispatchGen/Proofs/Independence.lean

The two targets, generated in either order.

A target reads its sources and writes its output, and nothing keeps it from reading what
the other one writes: an output may go to the path of the other, to a source of it, to a
link to its sources, or bring their directory into being.  Then the order can show on the disk
afterwards (`order_matters`).

Where targets keep `Apart`, the second comes to the text that it would have come to alone
(`Since.prepare`), since the first one wrote nothing that declares anything for it: there are no
decorators in a text that is generated (`BareOutputs`).  The two writes then leave the same disk in
either order, and a check finds every output as its target would write it.

Main statement: `targets_independent`.
-/
import DispatchGen.Proofs.EveryTarget
import DispatchGen.Proofs.Regeneration
import DispatchGen.Proofs.Rendering
import DispatchGen.Proofs.SilentSources
import DispatchGen.Proofs.WriteOrder

namespace DispatchGen.Project

open Grammar (Reader)

open Disk

variable {root : Path} {c : Config} {p q : Pipeline} {d d' : Disk}

/-! ### Several targets, one after another -/

section Runs

variable {σ α : Type} {op : Pipeline → Run σ α} {s s' : σ}

theorem attemptAll_cons_eq_ok {target : Pipeline} {rest : List Pipeline}
    {results : List (Except Failure α)} :
    (attemptAll op (target :: rest)).outcome s = (s', .ok results) ↔
      ∃ others, (attemptAll op rest).outcome ((op target).outcome s).1 = (s', .ok others) ∧
        results = ((op target).outcome s).2 :: others := by
  rw [attemptAll, Run.outcome_bind, Run.outcome_attempt]
  obtain ⟨s₁, result⟩ := (op target).outcome s
  -- the log is told of a failure, and the others have their turn either way
  cases result <;>
  · dsimp only
    simp only [Run.outcome_bind, Run.outcome_tell, Run.outcome_pure]
    obtain ⟨s₂, others | others⟩ := (attemptAll op rest).outcome s₁
    · simp
    · simp [eq_comm, and_comm]

theorem runTargets_eq_ok {targets : List Pipeline} {as : List α} :
    (runTargets op targets).outcome s = (s', .ok as) ↔
      (attemptAll op targets).outcome s = (s', .ok (as.map .ok)) := by
  rw [runTargets, Run.outcome_bind]
  obtain ⟨s₁, e | results⟩ := (attemptAll op targets).outcome s
  case error => simp
  dsimp only
  cases hfailures : failuresOf results with
  | nil =>
    have hresults := failuresOf_eq_nil_iff.mp hfailures
    rw [Run.outcome_pure, Prod.mk.injEq, Prod.mk.injEq, Except.ok.injEq, Except.ok.injEq]
    refine and_congr_right fun _ => ⟨fun h => ?_, fun h => ?_⟩
    · rw [hresults, h]
    · rw [h, successesOf_map_ok]
  | cons failure failures =>
    simp only [Run.outcome_throw, Prod.mk.injEq, Except.ok.injEq, reduceCtorEq, and_false,
      false_iff, not_and]
    rintro - rfl
    rw [failuresOf_eq_nil_iff.mpr (by rw [successesOf_map_ok])] at hfailures
    cases hfailures

/-- Targets succeed together if each of them succeeds on what those before it leave. -/
theorem runTargets_cons_eq_ok {target : Pipeline} {rest : List Pipeline} {as : List α} :
    (runTargets op (target :: rest)).outcome s = (s', .ok as) ↔
      ∃ s₁ a others, (op target).outcome s = (s₁, .ok a) ∧
        (runTargets op rest).outcome s₁ = (s', .ok others) ∧ as = a :: others := by
  simp only [runTargets_eq_ok, attemptAll_cons_eq_ok]
  constructor
  · rintro ⟨results, hrest, hresults⟩
    cases as with
    | nil => cases hresults
    | cons a others =>
      obtain ⟨ha, rfl⟩ := List.cons.inj hresults
      exact ⟨_, a, others, Run.outcome_eq ha.symm, hrest, rfl⟩
  · rintro ⟨s₁, a, others, ha, hrest, rfl⟩
    rw [ha]
    exact ⟨_, hrest, rfl⟩

theorem runTargets_nil : (runTargets op []).outcome s = (s, .ok []) := rfl

/-- Targets that each succeed and change nothing succeed together. -/
theorem exists_runTargets_eq_ok {targets : List Pipeline}
    (h : ∀ target ∈ targets, ∃ a, (op target).outcome s = (s, .ok a)) :
    ∃ as, (runTargets op targets).outcome s = (s, .ok as) := by
  induction targets with
  | nil => exact ⟨[], runTargets_nil⟩
  | cons target rest ih =>
    obtain ⟨a, ha⟩ := h target List.mem_cons_self
    obtain ⟨as, has⟩ := ih fun t ht => h t (List.mem_cons_of_mem _ ht)
    exact ⟨a :: as, runTargets_cons_eq_ok.mpr ⟨s, a, as, ha, has, rfl⟩⟩

end Runs

/-- Two targets are generated one after the other. -/
theorem generateAll_pair_eq_ok [Reader] {os : List Outcome}
    (h : (generateAll root c false [p, q]).outcome d = (d', .ok os)) :
    ∃ d₁ o₁ o₂, (generateTarget root c false p).outcome d = (d₁, .ok o₁) ∧
      (generateTarget root c false q).outcome d₁ = (d', .ok o₂) := by
  obtain ⟨d₁, o₁, others, hp, hrest, -⟩ := runTargets_cons_eq_ok.mp h
  obtain ⟨d₂, o₂, others', hq, hnone, -⟩ := runTargets_cons_eq_ok.mp hrest
  rw [runTargets_nil] at hnone
  cases hnone
  exact ⟨d₁, o₁, o₂, hp, hq⟩

/-! ### What a target comes to -/

/-- A target is left alone if its source directory is missing, and else it fails for
something else or not at all. -/
theorem prepare_eq_missing_iff [Reader] {directory : Path} :
    (prepare d p root c).result = .error (.missingSourceDir q directory) ↔
      d.isDirectory (root.join (c.sourceDir p)) = false ∧ q = p ∧
        directory = root.join (c.sourceDir p) := by
  have hrender : ∀ t, renderTable p root c t ≠ .error (.missingSourceDir q directory) := by
    intro t h
    unfold renderTable at h
    split at h
    case h_1 => split at h <;> cases h
    case h_2 => cases h
  rw [result_prepare]
  refine bind_eq_error.trans ?_
  simp only [hrender, and_false, exists_false, or_false]
  constructor
  · intro h
    rcases parseSources_eq_error h with ⟨hmissing, he⟩ | ⟨_, _, he⟩ | ⟨_, he⟩
    · cases he
      exact ⟨hmissing, rfl, rfl⟩
    · cases he
    · cases he
  · rintro ⟨hmissing, rfl, rfl⟩
    have hnone := Option.isSome_eq_false_iff.mp hmissing
    rw [Option.isNone_iff_eq_none] at hnone
    refine bind_eq_error.mpr (.inl ?_)
    rw [scan, hnone]

theorem prepare_of_missing [Reader] (hmissing : d.isDirectory (root.join (c.sourceDir p)) = false) :
    (prepare d p root c).result = .error (.missingSourceDir p (root.join (c.sourceDir p))) :=
  prepare_eq_missing_iff.mpr ⟨hmissing, rfl, rfl⟩

/-- Generating a target succeeds if its sources are missing or its output is written. -/
theorem generateTarget_eq_ok [Reader] (henabled : c.isEnabled p = true) {o : Outcome} :
    (generateTarget root c false p).outcome d = (d', .ok o) ↔
      (d.isDirectory (root.join (c.sourceDir p)) = false ∧ d' = d ∧
        o = .skipped (root.join (c.sourceDir p))) ∨
      ∃ prepared, (prepare d p root c).result = .ok prepared ∧
        (writeOutput (root.join (c.output p)) prepared.text).outcome d = (d', .ok ()) ∧
        o = .written (root.join (c.output p)) (prepared.table.recordCount p) := by
  rw [outcome_generateTarget, if_pos henabled]
  split
  case h_1 q directory hprepare =>
    obtain ⟨hmissing, rfl, rfl⟩ := prepare_eq_missing_iff.mp hprepare
    simp [hmissing, hprepare, eq_comm]
  case h_2 e hother hprepare =>
    have hpresent : d.isDirectory (root.join (c.sourceDir p)) ≠ false := fun hmissing =>
      hother p _ (Except.error.inj (hprepare.symm.trans (prepare_of_missing hmissing)))
    simp [hpresent, hprepare]
  case h_3 prepared hprepare =>
    have hpresent : d.isDirectory (root.join (c.sourceDir p)) ≠ false := fun hmissing => by
      cases hprepare.symm.trans (prepare_of_missing hmissing)
    simp only [hpresent, hprepare, Bool.false_eq_true, if_false, Except.ok.injEq,
      exists_eq_left']
    obtain ⟨d₁, _ | _⟩ :=
      (writeOutput (root.join (c.output p)) prepared.text).outcome d
    · simp
    · simp [eq_comm]

/-- A target has its sources, or is left alone. -/
theorem isDirectory_of_prepare [Reader] {prepared : Prepared}
    (h : (prepare d p root c).result = .ok prepared) :
    d.isDirectory (root.join (c.sourceDir p)) = true := by
  by_contra hmissing
  rw [Bool.not_eq_true] at hmissing
  cases h.symm.trans (prepare_of_missing hmissing)

/-! ### Targets that keep apart -/

/-- A target puts a text at a place: this is the text that it comes to, and there its output
leads when the directory of the output is made. -/
structure Puts [Reader] (root : Path) (c : Config) (d : Disk) (p : Pipeline) (out : Place)
    (text : String) : Prop where
  prepared : ∃ prepared, (prepare d p root c).result = .ok prepared ∧ prepared.text = text
  place : ∃ parent name, out = parent ++ [name] ∧
    (d.makeDirectories (directoryOf (root.join (c.output p)))).1.resolve false
      (root.join (c.output p)) = .ok (.entry parent name false)

/-- `p` puts its text where `q` reads a source, which the names lead to from the directory of
these. -/
structure PutsSource [Reader] (root : Path) (c : Config) (d : Disk) (p q : Pipeline) (text : String)
    (place names : Place) : Prop where
  puts : Puts root c d p (place ++ names) text
  directory : d.directoryPlace (root.join (c.sourceDir q)) = .ok place
  reads : reads c (some (root.join (c.output q))) (root.join (c.sourceDir q)) names = true

/-- What targets must not do to one another. -/
structure Apart [Reader] (root : Path) (c : Config) (d : Disk) : Prop where
  /-- No two outputs go to one place. -/
  outputs : ∀ p q out text more, Puts root c d p out text → Puts root c d q out more → p = q
  /-- The path of an output does not go through a link that the output takes the place of. -/
  own : ∀ p out text, Puts root c d p out text →
    Bypasses (d.makeDirectories (directoryOf (root.join (c.output p)))).1 out false
      (root.join (c.output p))
  /-- Nor does the path of the sources of the other target. -/
  links : ∀ p q out text, p ≠ q → Puts root c d p out text →
    Bypasses d out true (root.join (c.sourceDir q))
  /-- A source directory that is missing is not made for the output of another target. -/
  missing : ∀ p q out text, Puts root c d p out text →
    d.isDirectory (root.join (c.sourceDir q)) = false →
    (d.makeDirectories (directoryOf (root.join (c.output p)))).1.isDirectory
      (root.join (c.sourceDir q)) = false
  /-- What stands at the place of an output, and is read as a source, declares nothing. -/
  sources : ∀ p q text place names, PutsSource root c d p q text place names →
    ∀ found : String, d.view (place ++ names) = some (.file found.toUTF8) →
      Silent root c q names found

/-- Where a text that is generated is read as a source, the reader finds no decorator in it. -/
def BareOutputs [Reader] (root : Path) (c : Config) (d : Disk) : Prop :=
  ∀ p q text place names, PutsSource root c d p q text place names →
    ∀ tree, treeOf? ((root.join (c.sourceDir q)).descend names) text = some tree →
      Undecorated tree

/-- The system lets outputs be read, by their own paths and by those of the sources that they
are among, and the reader gives these a tree. -/
structure Readable [Reader] (root : Path) (c : Config) (d : Disk) : Prop where
  outputs : ∀ p, d.refusal (.read (root.join (c.output p))) = none
  sources : ∀ p q text place names, PutsSource root c d p q text place names →
    d.refusal (.read ((root.join (c.sourceDir q)).descend names)) = none
  trees : ∀ p q text place names, PutsSource root c d p q text place names →
    ∃ tree, treeOf? ((root.join (c.sourceDir q)).descend names) text = some tree

/-! ### What targets leave behind -/

theorem puts_of_writes [Reader] {prepared : Prepared} {out : Place} {made : Disk}
    (hprepare : (prepare d p root c).result = .ok prepared)
    (w : Writes (root.join (c.output p)) prepared.text out d made d') :
    Puts root c d p out prepared.text := by
  refine ⟨⟨prepared, hprepare, rfl⟩, ?_⟩
  rw [w.make]
  exact w.place

/-- `d'` is what is left of `d` after some targets have put their texts in place. -/
structure Since [Reader] (root : Path) (c : Config) (d d' : Disk) : Prop where
  tidy : Tidy d'
  later : Later d d'
  files : ∀ place, (∀ bytes, d'.view place = some (.file bytes) ↔
      d.view place = some (.file bytes)) ∨
    ∃ p text, Puts root c d p place text ∧ d'.view place = some (.file text.toUTF8)

namespace Since

theorem refl [Reader] (hd : Tidy d) : Since root c d d := ⟨hd, .refl d, fun _ => .inl fun _ => .rfl⟩

/-- What another target leaves behind. -/
theorem write [Reader] (h : Since root c d d') {out : Place} {text : String}
    (hputs : Puts root c d p out text) {made d'' : Disk}
    (w : Writes (root.join (c.output p)) text out d' made d'')
    (hwrite : (writeOutput (root.join (c.output p)) text).outcome d' = (d'', .ok ())) :
    Since root c d d'' where
  tidy := h.tidy.of_writeOutput hwrite
  later := h.later.trans w.later
  files place := by
    by_cases hplace : place = out
    · rw [hplace]
      exact .inr ⟨p, text, hputs, w.view_out⟩
    · rcases h.files place with hsame | ⟨q, more, hmore, hview⟩
      · exact .inl fun bytes => (w.view_file_iff hplace bytes).trans (hsame bytes)
      · exact .inr ⟨q, more, hmore, (w.view_file_iff hplace _).mpr hview⟩

/-- A target comes to the text that it would have come to before. -/
theorem prepare [Reader] (h : Since root c d d') (hapart : Apart root c d)
    (hbare : BareOutputs root c d) (hd : Tidy d) {prepared : Prepared}
    (hprepare : (Project.prepare d p root c).result = .ok prepared)
    (hparse : ∃ files, parseSources d' p root c = .ok files) :
    ∃ prepared', (Project.prepare d' p root c).result = .ok prepared' ∧
      prepared'.text = prepared.text ∧
      prepared'.table.recordCount p = prepared.table.recordCount p := by
  refine prepare_of_later hd h.tidy h.later (fun place names hplace hreads => ?_) hprepare hparse
  rcases h.files (place ++ names) with hsame | ⟨q, text, hputs, hview⟩
  case inl => exact .inl hsame
  case inr =>
    refine .inr fun found hfound => ?_
    rcases hfound with hnew | hold
    · -- a text that was put there has no decorators
      have hbytes := Thing.file.inj (Option.some.inj (hnew.symm.trans hview))
      obtain rfl : found = text := Option.some.inj
        ((OsText.fromUTF8?_eq_some.mpr rfl).symm.trans (OsText.fromUTF8?_eq_some.mpr hbytes))
      exact fun tree htree => (hbare q p found place names ⟨hputs, hplace, hreads⟩ tree
        htree).declares_eq_false p _
    · exact hapart.sources q p text place names ⟨hputs, hplace, hreads⟩ found hold

/-- A target can parse its sources again, if they are there and it may read the outputs that are
among them. -/
theorem exists_parseSources [Reader] (h : Since root c d d') (hreadable : Readable root c d)
    (hd : Sound d) (hthere : d'.isDirectory (root.join (c.sourceDir p)) = true)
    {files : List (Path × Syntax.Node)} (hparse : parseSources d p root c = .ok files) :
    ∃ files', parseSources d' p root c = .ok files' := by
  refine exists_parseSources_of_later hd h.tidy h.later hthere
    (fun place names hplace hreads => ?_) hparse
  rcases h.files (place ++ names) with hsame | ⟨q, text, hputs, hview⟩
  · exact .inl fun bytes => (hsame bytes).mp
  · exact .inr ⟨hreadable.sources q p text place names ⟨hputs, hplace, hreads⟩, text, hview,
      hreadable.trees q p text place names ⟨hputs, hplace, hreads⟩⟩

end Since

namespace Apart

variable {out : Place} {text : String} {made : Disk}

/-- The path of a target's output goes through no link that the output takes the place of. -/
theorem bypasses_of_writes [Reader] (hapart : Apart root c d) (hputs : Puts root c d p out text)
    (w : Writes (root.join (c.output p)) text out d made d') :
    Bypasses made out false (root.join (c.output p)) := by
  have hown := hapart.own p out text hputs
  rwa [w.make] at hown

/-- A source directory that is missing is missing still when another target was written. -/
theorem isDirectory_of_writes [Reader] (hapart : Apart root c d) (hputs : Puts root c d p out text)
    (w : Writes (root.join (c.output p)) text out d made d')
    (hmissing : d.isDirectory (root.join (c.sourceDir q)) = false) :
    d'.isDirectory (root.join (c.sourceDir q)) = false := by
  have hmade := hapart.missing p q out text hputs hmissing
  rw [w.make] at hmade
  by_contra hthere
  rw [Bool.not_eq_false] at hthere
  cases hmade.symm.trans (w.isDirectory_made hthere)

/-- The sources of one target are where they were when the other was written. -/
theorem isDirectory_of_prepare [Reader] (hapart : Apart root c d) (hne : p ≠ q)
    (hputs : Puts root c d p out text)
    (w : Writes (root.join (c.output p)) text out d made d') {prepared : Prepared}
    (hprepare : (prepare d q root c).result = .ok prepared) :
    d'.isDirectory (root.join (c.sourceDir q)) = true := by
  obtain ⟨place, hplace⟩ := isDirectory_iff.mp (Project.isDirectory_of_prepare hprepare)
  obtain ⟨spot, hresolve, rfl, hdirectory⟩ := directoryPlace_eq_ok.mp hplace
  have hleads := (hapart.links p q out text hne hputs spot hresolve).later w.later
    (fun place target hne hlink => w.view_link hne hlink) (.inl rfl)
  exact isDirectory_iff.mpr ⟨spot.place, directoryPlace_eq_ok.mpr
    ⟨spot, hleads.resolve, rfl, w.later.directory _ hdirectory⟩⟩

end Apart

/-- A target that is settled on `d'` as it would be alone: left alone for want of sources, or
with the text in its output that it comes to. -/
inductive Settled [Reader] (root : Path) (c : Config) (d d' : Disk) (p : Pipeline) : Prop
  | skipped (before : d.isDirectory (root.join (c.sourceDir p)) = false)
      (after : d'.isDirectory (root.join (c.sourceDir p)) = false)
  | written {alone : Disk} {prepared : Prepared}
      (prepare : (Project.prepare d p root c).result = .ok prepared)
      (write : (writeOutput (root.join (c.output p)) prepared.text).outcome d = (alone, .ok ()))
      (before : alone.status (root.join (c.output p)) = .ok (.file prepared.text.toUTF8))
      (after : d'.status (root.join (c.output p)) = .ok (.file prepared.text.toUTF8))

/-- Generating a settled target alone leaves it alone, or leaves what its output holds. -/
theorem Settled.alone [Reader] (h : Settled root c d d' p) (henabled : c.isEnabled p = true) :
    ∃ alone o, (generateTarget root c false p).outcome d = (alone, .ok o) ∧
      (o = .skipped (root.join (c.sourceDir p)) ∧ alone = d ∨
        ∃ records, ∃ text : String, o = .written (root.join (c.output p)) records ∧
          alone.status (root.join (c.output p)) = .ok (.file text.toUTF8) ∧
          d'.status (root.join (c.output p)) = .ok (.file text.toUTF8)) := by
  cases h with
  | skipped before after =>
    exact ⟨d, _, (generateTarget_eq_ok henabled).mpr (.inl ⟨before, rfl, rfl⟩), .inl ⟨rfl, rfl⟩⟩
  | written prepare write before after =>
    exact ⟨_, _, (generateTarget_eq_ok henabled).mpr (.inr ⟨_, prepare, write, rfl⟩),
      .inr ⟨_, _, rfl, before, after⟩⟩

/-- A settled target can be checked, if outputs may be read. -/
theorem Settled.check [Reader] (h : Settled root c d d' p) (hd : Sound d) (hapart : Apart root c d)
    (hbare : BareOutputs root c d) (hsince : Since root c d d') (henabled : c.isEnabled p = true)
    (hreadable : Readable root c d) :
    ∃ o, (checkTarget d' root c p).result = .ok o := by
  by_cases hthere : d'.isDirectory (root.join (c.sourceDir p)) = true
  case neg =>
    -- there is nothing to check, be it that the output took the place of a link to the sources
    have hprepare := prepare_of_missing (Bool.not_eq_true _ ▸ hthere)
    refine ⟨.skipped (root.join (c.sourceDir p)), ?_⟩
    rw [checkTarget]
    simp only [henabled, hprepare, Bool.not_true, Bool.false_eq_true, if_false]
  case pos =>
    cases h with
    | skipped before after => cases after.symm.trans hthere
    | written prepare write before after =>
      obtain ⟨files, hfiles⟩ := exists_parseSources_of_prepare prepare
      obtain ⟨prepared', hprepare', htext, -⟩ := hsince.prepare hapart hbare hd.toTidy prepare
        (hsince.exists_parseSources hreadable hd hthere hfiles)
      have hread := readText_iff.mpr ⟨hsince.later.refusal ▸ hreadable.outputs p, after⟩
      exact ⟨_, checkTarget_eq_upToDate.mpr
        ⟨henabled, rfl, prepared', hprepare', htext ▸ hread⟩⟩

/-! ### Two targets in either order -/

section Order

variable {d₁ d₂ d₁₂ d₂₁ : Disk} {o₁ o₂ o₁₂ o₂₁ : Outcome}

/-- A target without sources changes nothing for the other. -/
theorem settled_of_missing [Reader] (hd : Tidy d) (hapart : Apart root c d)
    (henabled : ∀ p, c.isEnabled p = true)
    (hmissing : d.isDirectory (root.join (c.sourceDir p)) = false)
    (hp : (generateTarget root c false p).outcome d = (d₁, .ok o₁))
    (hpq : (generateTarget root c false q).outcome d₁ = (d₁₂, .ok o₁₂))
    (hq : (generateTarget root c false q).outcome d = (d₂, .ok o₂))
    (hqp : (generateTarget root c false p).outcome d₂ = (d₂₁, .ok o₂₁)) :
    d₁₂ = d₂₁ ∧ Since root c d d₁₂ ∧ Settled root c d d₁₂ p ∧ Settled root c d d₁₂ q := by
  -- a target writes nothing where its sources are missing
  have hskip : ∀ {e e' : Disk} {o : Outcome}, e.isDirectory (root.join (c.sourceDir p)) = false →
      (generateTarget root c false p).outcome e = (e', .ok o) → e' = e := by
    intro e e' o hmissing h
    rcases (generateTarget_eq_ok (henabled p)).mp h with ⟨-, rfl, -⟩ | ⟨prepared, hprepare, -⟩
    · rfl
    · rw [isDirectory_of_prepare hprepare] at hmissing
      cases hmissing
  cases hskip hmissing hp
  cases hq.symm.trans hpq
  rcases (generateTarget_eq_ok (henabled q)).mp hq with ⟨hmissing', rfl, -⟩ |
    ⟨prepared, hprepare, hwrite, -⟩
  · cases hskip hmissing hqp
    exact ⟨rfl, .refl hd, .skipped hmissing hmissing, .skipped hmissing' hmissing'⟩
  · obtain ⟨made, out, w⟩ := exists_writes hwrite
    have hputs := puts_of_writes hprepare w
    have hmissing₂ := hapart.isDirectory_of_writes hputs w hmissing
    have hstatus := w.status (hapart.bypasses_of_writes hputs w)
    cases hskip hmissing₂ hqp
    exact ⟨rfl, (Since.refl hd).write hputs w hwrite, .skipped hmissing hmissing₂,
      .written hprepare hwrite hstatus hstatus⟩

/-- Two targets with sources come to the same texts in either order, and put them in the same
places. -/
theorem settled_of_prepare [Reader] (hd : Tidy d) (hapart : Apart root c d)
    (hbare : BareOutputs root c d) (henabled : ∀ p, c.isEnabled p = true) (hne : p ≠ q)
    {preparedP preparedQ : Prepared}
    (hprepareP : (prepare d p root c).result = .ok preparedP)
    (hwriteP : (writeOutput (root.join (c.output p)) preparedP.text).outcome d = (d₁, .ok ()))
    (hpq : (generateTarget root c false q).outcome d₁ = (d₁₂, .ok o₁₂))
    (hprepareQ : (prepare d q root c).result = .ok preparedQ)
    (hwriteQ : (writeOutput (root.join (c.output q)) preparedQ.text).outcome d = (d₂, .ok ()))
    (hqp : (generateTarget root c false p).outcome d₂ = (d₂₁, .ok o₂₁)) :
    d₁₂ = d₂₁ ∧ Since root c d d₁₂ ∧ Settled root c d d₁₂ p ∧ Settled root c d d₁₂ q := by
  -- the second target writes what it would have written first
  have hsecond : ∀ {p : Pipeline} {e e' : Disk} {o : Outcome} {prepared : Prepared},
      Since root c d e → e.isDirectory (root.join (c.sourceDir p)) = true →
      (prepare d p root c).result = .ok prepared →
      (generateTarget root c false p).outcome e = (e', .ok o) →
      (writeOutput (root.join (c.output p)) prepared.text).outcome e = (e', .ok ()) := by
    intro p e e' o prepared hsince hthere hprepare h
    rcases (generateTarget_eq_ok (henabled p)).mp h with ⟨hmissing, -⟩ |
      ⟨prepared', hprepare', hwrite, -⟩
    · cases hmissing.symm.trans hthere
    · obtain ⟨prepared'', hprepare'', htext, -⟩ :=
        hsince.prepare hapart hbare hd hprepare (exists_parseSources_of_prepare hprepare')
      cases hprepare'.symm.trans hprepare''
      rwa [htext] at hwrite
  obtain ⟨m₁, out, w₁⟩ := exists_writes hwriteP
  obtain ⟨m₂, next, w₂⟩ := exists_writes hwriteQ
  have hputsP := puts_of_writes hprepareP w₁
  have hputsQ := puts_of_writes hprepareQ w₂
  have hsince₁ : Since root c d d₁ := (Since.refl hd).write hputsP w₁ hwriteP
  have hsince₂ : Since root c d d₂ := (Since.refl hd).write hputsQ w₂ hwriteQ
  have hwritePQ := hsecond hsince₁ (hapart.isDirectory_of_prepare hne hputsP w₁ hprepareQ)
    hprepareQ hpq
  have hwriteQP := hsecond hsince₂ (hapart.isDirectory_of_prepare hne.symm hputsQ w₂ hprepareP)
    hprepareP hqp
  obtain ⟨m₁₂, next', w₁₂⟩ := exists_writes hwritePQ
  obtain ⟨m₂₁, out', w₂₁⟩ := exists_writes hwriteQP
  obtain rfl : next' = next := w₂.place_eq w₁₂ hsince₁.later
  obtain rfl : out' = out := w₁.place_eq w₂₁ hsince₂.later
  have hplaces : out' ≠ next' := by
    rintro rfl
    exact hne (hapart.outputs p q _ _ _ hputsP hputsQ)
  have hownP := hapart.bypasses_of_writes hputsP w₁
  have hownQ := hapart.bypasses_of_writes hputsQ w₂
  have hboth : Writes.Both _ _ _ _ out' next' d m₁ d₁ m₁₂ d₁₂ m₂ d₂ m₂₁ d₂₁ :=
    ⟨w₁, w₁₂, w₂, w₂₁, hplaces, hownP, hownQ⟩
  have hsince₁₂ := hsince₁.write hputsQ w₁₂ hwritePQ
  have hsince₂₁ := hsince₂.write hputsP w₂₁ hwriteQP
  obtain rfl := hboth.alike.eq hsince₁₂.tidy.ordered hsince₂₁.tidy.ordered
  exact ⟨rfl, hsince₁₂, .written hprepareP hwriteP (w₁.status hownP) hboth.status,
    .written hprepareQ hwriteQ (w₂.status hownQ) hboth.symm.status⟩

theorem settled_of_generate [Reader] (hd : Tidy d) (hapart : Apart root c d)
    (hbare : BareOutputs root c d) (henabled : ∀ p, c.isEnabled p = true) (hne : p ≠ q)
    (hp : (generateTarget root c false p).outcome d = (d₁, .ok o₁))
    (hpq : (generateTarget root c false q).outcome d₁ = (d₁₂, .ok o₁₂))
    (hq : (generateTarget root c false q).outcome d = (d₂, .ok o₂))
    (hqp : (generateTarget root c false p).outcome d₂ = (d₂₁, .ok o₂₁)) :
    d₁₂ = d₂₁ ∧ Since root c d d₁₂ ∧ Settled root c d d₁₂ p ∧ Settled root c d d₁₂ q := by
  rcases (generateTarget_eq_ok (henabled p)).mp hp with ⟨hmissing, -⟩ |
    ⟨preparedP, hprepareP, hwriteP, -⟩
  · exact settled_of_missing hd hapart henabled hmissing hp hpq hq hqp
  rcases (generateTarget_eq_ok (henabled q)).mp hq with ⟨hmissing, -⟩ |
    ⟨preparedQ, hprepareQ, hwriteQ, -⟩
  · obtain ⟨rfl, hsince, hsettledQ, hsettledP⟩ :=
      settled_of_missing hd hapart henabled hmissing hq hqp hp hpq
    exact ⟨rfl, hsince, hsettledP, hsettledQ⟩
  exact settled_of_prepare hd hapart hbare henabled hne hprepareP hwriteP hpq hprepareQ hwriteQ hqp

end Order

/-! ### Main statement -/

/-- **Targets that keep apart are independent.**  Let both be enabled, and let generating them
succeed in either order.  Then both orders end in the same disk.  In it each target is as it
would be if it alone had been generated: it is left alone for want of a source directory, or
its output holds the same bytes.  So checking the targets succeeds, unless the system refuses
to have an output read.

This is said of any disk, links included, and of any paths; an output may well be among the
sources of the other target, or take the place of a link.  What the targets have to keep
from is spelled out by `Apart`: where one of them writes to the place of the other, to a link
on its way or to a source that declares something, or makes the directory that it lacks, the
order shows (`order_matters`).  Of the reader it is assumed that it finds no decorators in what is
generated. -/
theorem targets_independent [Reader] {d₁ d₂ : Disk} {os os' : List Outcome} (hd : Sound d)
    (henabled : ∀ p, c.isEnabled p = true) (hapart : Apart root c d) (hbare : BareOutputs root c d)
    (h₁ : (generateAll root c false [.http, .queue]).outcome d = (d₁, .ok os))
    (h₂ : (generateAll root c false [.queue, .http]).outcome d = (d₂, .ok os')) :
    d₁ = d₂ ∧
    (∀ p, ∃ alone o, (generateTarget root c false p).outcome d = (alone, .ok o) ∧
      (o = .skipped (root.join (c.sourceDir p)) ∧ alone = d ∨
        ∃ records, ∃ text : String, o = .written (root.join (c.output p)) records ∧
          alone.status (root.join (c.output p)) = .ok (.file text.toUTF8) ∧
          d₁.status (root.join (c.output p)) = .ok (.file text.toUTF8))) ∧
    (Readable root c d → ∃ os, (checkAll root c Pipeline.all).outcome d₁ = (d₁, .ok os)) := by
  obtain ⟨e₁, _, _, hhttp, hhttpQueue⟩ := generateAll_pair_eq_ok h₁
  obtain ⟨e₂, _, _, hqueue, hqueueHttp⟩ := generateAll_pair_eq_ok h₂
  obtain ⟨heq, hsince, hsettledHttp, hsettledQueue⟩ := settled_of_generate hd.toTidy hapart hbare
    henabled (by decide) hhttp hhttpQueue hqueue hqueueHttp
  have hsettled : ∀ p, Settled root c d d₁ p := by
    intro p
    cases p with
    | http => exact hsettledHttp
    | queue => exact hsettledQueue
  refine ⟨heq, fun p => (hsettled p).alone (henabled p), fun hreadable => ?_⟩
  refine exists_runTargets_eq_ok fun p _ => ?_
  obtain ⟨o, ho⟩ := (hsettled p).check hd hapart hbare hsince (henabled p) hreadable
  exact ⟨o, Prod.ext rfl ho⟩

/-- A consumer. -/
def consumer : OsText × Entry :=
  ("b.ts", .file ("@Consumer('g') class B \x7b @Consumer(\x7b channel: 'q' \x7d) h() \x7b\x7d \x7d"
    ).toUTF8)

/-- Source directories of both targets.  There is an old file among the consumers, and a link
where queues are to be dispatched. -/
def servedWith (old : String) : Disk where
  root := [("src", .directory [
    ("consumers", .directory [consumer, ("router.ts", .file old.toUTF8)]),
    ("controllers", .directory []),
    ("generated", .directory [("queue.ts", .link ⟨"../old.ts"⟩)])])]

/-- The old file declares nothing. -/
def served : Disk := servedWith "export \x7b\x7d;"

/-- The router goes to the directory of the consumers, where it is a source. -/
def beside : Config := {
  http := {
    output := ⟨"src/consumers/router.ts"⟩, middleware := []
    containerType := "C", containerPackage := "c", routerPackage := "r" } }

theorem sound_served : Sound served := sound_of_isTidy (by decide) fun _ => rfl

theorem puts_beside {out : Place} {text : String} (h : Puts ⟨"."⟩ beside served p out text) :
    out = match p with
      | .http => ["src", "consumers", "router.ts"]
      | .queue => ["src", "generated", "queue.ts"] := by
  obtain ⟨-, parent, name, rfl, hresolve⟩ := h
  have hplace : ∀ spot, ((served.makeDirectories
      (directoryOf ((⟨"."⟩ : Path).join (beside.output p)))).1.resolve false
        ((⟨"."⟩ : Path).join (beside.output p))).toOption = some spot →
      .entry parent name false = spot := fun spot hspot =>
    Except.ok.inj (hresolve.symm.trans (eq_ok_of_toOption hspot))
  cases p with
  | http =>
    cases hplace (.entry ["src", "consumers"] "router.ts" false) rfl
    rfl
  | queue =>
    cases hplace (.entry ["src", "generated"] "queue.ts" false) rfl
    rfl

theorem directoryPlace_beside (q : Pipeline) :
    served.directoryPlace ((⟨"."⟩ : Path).join (beside.sourceDir q)) = .ok (match q with
      | .http => ["src", "controllers"]
      | .queue => ["src", "consumers"]) := by
  cases q <;> rfl

/-- The router is the one output that is read as a source, by the other target. -/
theorem putsSource_beside {text : String} {place names : Place}
    (h : PutsSource ⟨"."⟩ beside served p q text place names) :
    p = .http ∧ q = .queue ∧ place = (["src", "consumers"] : Place) ∧
      names = (["router.ts"] : Place) := by
  obtain ⟨hputs, hplace, -⟩ := h
  have hnames := puts_beside hputs
  rw [directoryPlace_beside q] at hplace
  cases hplace
  cases p <;> cases q <;> simp at hnames
  exact ⟨rfl, rfl, rfl, hnames⟩

theorem apart_beside : Apart ⟨"."⟩ beside served where
  outputs p q out _ _ hp hq := by
    have heq := (puts_beside hp).symm.trans (puts_beside hq)
    cases p <;> cases q <;> simp_all
  own p out _ _ := bypasses_of_walk (by cases p <;> rfl)
  links p q out _ _ _ := bypasses_of_walk (by cases q <;> rfl)
  missing p q out _ _ hmissing := by
    have hthere := isDirectory_iff.mpr ⟨_, directoryPlace_beside q⟩
    rw [hthere] at hmissing
    cases hmissing
  sources p q text place names h found hfound tree htree := by
    obtain ⟨rfl, rfl, rfl, rfl⟩ := putsSource_beside h
    have hbytes : "export \x7b\x7d;".toUTF8 = found.toUTF8 :=
      Thing.file.inj (Option.some.inj hfound)
    obtain rfl : found = "export \x7b\x7d;" := Option.some.inj
      ((OsText.fromUTF8?_eq_some.mpr hbytes).symm.trans (OsText.fromUTF8?_eq_some.mpr rfl))
    obtain rfl := Option.some.inj htree
    exact Undecorated.declares_eq_false (by decide +kernel) _ _

/-- The router is read as a source, and there is no decorator in it. -/
theorem bareOutputs_beside : BareOutputs ⟨"."⟩ beside served := by
  intro p q text place names h tree htree
  obtain ⟨rfl, rfl, rfl, rfl⟩ := putsSource_beside h
  obtain ⟨prepared, hprepare, rfl⟩ := h.puts.prepared
  obtain ⟨m, hm, htext⟩ := Emit.render_http_eq_ok.mp (render_of_prepare hprepare)
  -- evaluated by lines, since a long text takes long to be taken apart
  have hread : ((prepare served .http ⟨"."⟩ beside).result.toOption.bind fun prepared =>
      (Emit.routerModule prepared.table beside.http ⟨"."⟩).toOption).all (fun m =>
        Undecorated (Grammar.readSource .typeScript
          (.ofChars (m.lines.flatMap fun l => l.toList ++ ['\n'])))) = true := by
    decide +kernel
  rw [hprepare] at hread
  change ((Emit.routerModule prepared.table beside.http ⟨"."⟩).toOption).all _ = true at hread
  rw [hm] at hread
  obtain rfl := Option.some.inj htree
  rw [← htext, Grammar.read, Emit.toList_linesText]
  exact of_decide_eq_true hread

theorem readable_beside : Readable ⟨"."⟩ beside served where
  outputs _ := rfl
  sources _ _ _ _ _ _ := rfl
  trees _ _ _ _ _ _ := ⟨_, rfl⟩

theorem isEnabled_beside (p : Pipeline) : beside.isEnabled p = true := by cases p <;> rfl

theorem exists_outcome {σ α : Type} {op : Run σ α} {s : σ}
    (h : (op.outcome s).2.toOption.isSome = true) : ∃ s' a, op.outcome s = (s', .ok a) := by
  obtain ⟨a, ha⟩ := Option.isSome_iff_exists.mp h
  exact ⟨_, a, Run.outcome_eq (eq_ok_of_toOption ha)⟩

/-- What each target of `served` comes to by itself can be written after the other. -/
theorem exists_generateAll_beside : ∃ d' os os',
    (generateAll ⟨"."⟩ beside false [.http, .queue]).outcome served = (d', .ok os) ∧
    (generateAll ⟨"."⟩ beside false [.queue, .http]).outcome served = (d', .ok os') := by
  have hran : ((generateTarget ⟨"."⟩ beside false .http).outcome served).2.toOption.isSome
      = true := by decide +kernel
  obtain ⟨d₁, o₁, h₁⟩ := exists_outcome hran
  -- what is left to be written does not depend on the router
  have hwrites : (prepare served .queue ⟨"."⟩ beside).result.toOption.any (fun prepared =>
      ((writeOutput ((⟨"."⟩ : Path).join (beside.output .queue)) prepared.text).outcome
        ((generateTarget ⟨"."⟩ beside false .http).outcome served).1).2.toOption.isSome)
          = true := by
    decide +kernel
  rw [h₁, Option.any_eq_true] at hwrites
  obtain ⟨preparedQ, hprepareQ, hwriteQ⟩ := hwrites
  have hprepareQ := eq_ok_of_toOption hprepareQ
  obtain ⟨d₂, _, hwriteQ⟩ := exists_outcome hwriteQ
  rcases (generateTarget_eq_ok (isEnabled_beside .http)).mp h₁ with ⟨hmissing, -⟩ |
    ⟨prepared, hprepare, hwrite, -⟩
  · cases hmissing.symm.trans (isDirectory_iff.mpr ⟨_, directoryPlace_beside .http⟩)
  obtain ⟨made, out, w⟩ := exists_writes hwrite
  have hputs := puts_of_writes hprepare w
  have hsince : Since ⟨"."⟩ beside served d₁ :=
    (Since.refl sound_served.toTidy).write hputs w hwrite
  have hthere := apart_beside.isDirectory_of_prepare (by decide) hputs w hprepareQ
  obtain ⟨files, hfiles⟩ := exists_parseSources_of_prepare hprepareQ
  obtain ⟨prepared', hprepare', htext, -⟩ :=
    hsince.prepare apart_beside bareOutputs_beside sound_served.toTidy hprepareQ
      (hsince.exists_parseSources readable_beside sound_served hthere hfiles)
  have h₂ := (generateTarget_eq_ok (isEnabled_beside .queue)).mpr
    (.inr ⟨prepared', hprepare', htext ▸ hwriteQ, rfl⟩)
  -- the other order is short enough to be run
  have hother : ((generateAll ⟨"."⟩ beside false [.queue, .http]).outcome served).2.toOption.isSome
      = true := by decide +kernel
  obtain ⟨d₂', os', h'⟩ := exists_outcome hother
  obtain ⟨_, _, _, hqueue, hqueueHttp⟩ := generateAll_pair_eq_ok h'
  obtain ⟨rfl, -⟩ := settled_of_generate sound_served.toTidy apart_beside bareOutputs_beside
    isEnabled_beside (by decide) h₁ h₂ hqueue hqueueHttp
  exact ⟨d₂, _, os', runTargets_cons_eq_ok.mpr ⟨d₁, o₁, _, h₁,
    runTargets_cons_eq_ok.mpr ⟨d₂, _, _, h₂, runTargets_nil, rfl⟩, rfl⟩, h'⟩

/-- Both targets are generated and found up to date, though one writes a source of the other,
and that one to a link. -/
theorem targets_independent_beside : ∃ d' os os' os'',
    (generateAll ⟨"."⟩ beside false [.http, .queue]).outcome served = (d', .ok os) ∧
    (generateAll ⟨"."⟩ beside false [.queue, .http]).outcome served = (d', .ok os') ∧
    (checkAll ⟨"."⟩ beside Pipeline.all).outcome d' = (d', .ok os'') := by
  obtain ⟨d', os, os', h₁, h₂⟩ := exists_generateAll_beside
  obtain ⟨-, -, hcheck⟩ := targets_independent sound_served isEnabled_beside apart_beside
    bareOutputs_beside h₁ h₂
  obtain ⟨os'', hos''⟩ := hcheck readable_beside
  exact ⟨d', os, os', os'', h₁, h₂, hos''⟩

/-! ### Targets that do not -/

/-- Two runs over enabled targets that succeed, of which the disk tells the order. -/
def OrderMatters (root : Path) (c : Config) (d : Disk) : Prop :=
  (∀ p, c.isEnabled p = true) ∧ ∃ d₁ d₂ os os',
    (generateAll root c false [.http, .queue]).outcome d = (d₁, .ok os) ∧
    (generateAll root c false [.queue, .http]).outcome d = (d₂, .ok os') ∧ d₁ ≠ d₂

/-- How long the file at a place is, if there is one. -/
def sizeAt (place : Place) (d : Disk) : Option Nat :=
  match d.get? place with
  | some (.file bytes) => some bytes.size
  | _ => none

/-- Whether two runs succeed and one place tells their disks apart. -/
def differAt (place : Place) (r₁ r₂ : Disk × Except Failure (List Outcome)) : Bool :=
  r₁.2.toOption.isSome && r₂.2.toOption.isSome && decide (sizeAt place r₁.1 ≠ sizeAt place r₂.1)

theorem orderMatters_of_differAt (henabled : ∀ p, c.isEnabled p = true) (place : Place)
    (h : differAt place ((generateAll root c false [.http, .queue]).outcome d)
      ((generateAll root c false [.queue, .http]).outcome d) = true) : OrderMatters root c d := by
  simp only [differAt, Bool.and_eq_true, decide_eq_true_eq] at h
  obtain ⟨⟨h₁, h₂⟩, hne⟩ := h
  obtain ⟨d₁, os, h₁⟩ := exists_outcome h₁
  obtain ⟨d₂, os', h₂⟩ := exists_outcome h₂
  rw [h₁, h₂] at hne
  exact ⟨henabled, d₁, d₂, os, os', h₁, h₂, fun heq => hne (congrArg (sizeAt place) heq)⟩

/-- A run that succeeds, and another one that then fails. -/
theorem exists_failure {σ α β : Type} {op : Run σ α} {check : Run σ β} {s : σ}
    (h : ((op.outcome s).2.toOption.isSome &&
      (check.outcome (op.outcome s).1).2.toOption.isNone) = true) :
    ∃ s' a e, op.outcome s = (s', .ok a) ∧ (check.outcome s').2 = .error e := by
  rw [Bool.and_eq_true] at h
  obtain ⟨s', a, hop⟩ := exists_outcome h.1
  rw [hop] at h
  cases hcheck : (check.outcome s').2 with
  | error e => exact ⟨s', a, e, hop, hcheck⟩
  | ok _ =>
    rw [hcheck] at h
    cases h.2

/-- The consumers, behind a link. -/
def linked : Disk where
  root := [
    ("src", .directory [("consumers", .link ⟨"../store"⟩), ("controllers", .directory [])]),
    ("store", .directory [consumer])]

def another : String :=
  "@Consumer('g') class C \x7b @Consumer(\x7b channel: 'r' \x7d) h() \x7b\x7d \x7d"

/-- Where the router goes there is another consumer. -/
def replaced : Disk := servedWith another

theorem exists_writes_beside {old text : String}
    (h : (writeOutput ((⟨"."⟩ : Path).join (beside.output .http)) text).outcome (servedWith old) =
      (d', .ok ())) :
    Writes ((⟨"."⟩ : Path).join (beside.output .http)) text ["src", "consumers", "router.ts"]
      (servedWith old) (servedWith old) d' := by
  obtain ⟨made, out, w⟩ := exists_writes h
  have hmade : ((servedWith old).makeDirectories
      (directoryOf ((⟨"."⟩ : Path).join (beside.output .http)))).1 = servedWith old := rfl
  rw [w.make] at hmade
  obtain rfl : made = servedWith old := hmade
  obtain ⟨parent, name, rfl, hresolve⟩ := w.place
  cases hresolve.symm.trans (eq_ok_of_toOption (show _ =
    some (Spot.entry ["src", "consumers"] "router.ts" false) by rfl))
  exact w

/-- The router does not depend on what stands in its place, and can be written there. -/
theorem exists_prepare_replaced {prepared : Prepared}
    (h : (prepare served .http ⟨"."⟩ beside).result = .ok prepared) :
    ∃ prepared' e, (prepare replaced .http ⟨"."⟩ beside).result = .ok prepared' ∧
      prepared'.table = prepared.table ∧ prepared'.text = prepared.text ∧
      (writeOutput ((⟨"."⟩ : Path).join (beside.output .http)) prepared'.text).outcome replaced =
        (e, .ok ()) := by
  have hran : ((prepare served .http ⟨"."⟩ beside).result.toOption.all fun prepared =>
      (prepare replaced .http ⟨"."⟩ beside).result.toOption.any fun prepared' =>
        decide (prepared'.table = prepared.table ∧ prepared'.text = prepared.text) &&
        ((writeOutput ((⟨"."⟩ : Path).join (beside.output .http)) prepared'.text).outcome
          replaced).2.toOption.isSome) = true := by
    decide +kernel
  have hany := (Option.all_eq_true _ _).mp hran prepared (by rw [h]; rfl)
  obtain ⟨prepared', hprepare, hsame⟩ := (Option.any_eq_true _ _).mp hany
  rw [Bool.and_eq_true, decide_eq_true_eq] at hsame
  obtain ⟨e, _, hwrite⟩ := exists_outcome hsame.2
  exact ⟨prepared', e, eq_ok_of_toOption hprepare, hsame.1.1, hsame.1.2, hwrite⟩

/-- What is served differs in the place of the router only. -/
theorem view_replaced : replaced.view =
    Function.update served.view ["src", "consumers", "router.ts"] (some (.file another.toUTF8)) :=
  have hparent : served.view ["src", "consumers"] = some .directory := rfl
  have hold : served.view (["src", "consumers"] ++ ["router.ts"]) ≠ some .directory := nofun
  view_put hparent hold (Entry.bare_file _)

theorem tidy_replaced : Tidy replaced := (sound_of_isTidy (by decide) fun _ => rfl).toTidy

/-- When the router is generated it does not matter what stood in its place. -/
theorem outcome_replaced {o : Outcome}
    (h : (generateTarget ⟨"."⟩ beside false .http).outcome served = (d', .ok o)) :
    (generateTarget ⟨"."⟩ beside false .http).outcome replaced = (d', .ok o) := by
  rcases (generateTarget_eq_ok (isEnabled_beside .http)).mp h with ⟨hmissing, -⟩ |
    ⟨prepared, hprepare, hwrite, rfl⟩
  · cases hmissing.symm.trans (isDirectory_iff.mpr ⟨_, directoryPlace_beside .http⟩)
  obtain ⟨prepared', e, hprepare', htable, htext, hwrite'⟩ := exists_prepare_replaced hprepare
  have w := exists_writes_beside hwrite
  have w' := exists_writes_beside hwrite'
  have halike : Alike d' e := by
    refine ⟨?_, w'.replaced.current.trans w.replaced.current.symm,
      w'.replaced.refusal.trans w.replaced.refusal.symm⟩
    rw [w'.replaced.view, w.replaced.view, htext]
    change Function.update replaced.view _ _ = Function.update served.view _ _
    rw [view_replaced, Function.update_idem]
  obtain rfl : d' = e := halike.eq (sound_served.toTidy.of_writeOutput hwrite).ordered
    (tidy_replaced.of_writeOutput hwrite').ordered
  exact (generateTarget_eq_ok (isEnabled_beside .http)).mpr (.inr ⟨prepared', hprepare', hwrite',
    by rw [htable]⟩)

/-- With the router in its place, the consumer may as well never have been there. -/
theorem orderMatters_replaced : OrderMatters ⟨"."⟩ beside replaced := by
  obtain ⟨d', os, os', h₁, h₂⟩ := exists_generateAll_beside
  obtain ⟨e, o, others, hhttp, hqueue, -⟩ := runTargets_cons_eq_ok.mp h₁
  have h₁' := runTargets_cons_eq_ok.mpr ⟨e, o, others, outcome_replaced hhttp, hqueue, rfl⟩
  have hother : differAt ["src", "generated", "queue.ts"]
      ((generateAll ⟨"."⟩ beside false [.queue, .http]).outcome served)
      ((generateAll ⟨"."⟩ beside false [.queue, .http]).outcome replaced) = true := by
    decide +kernel
  simp only [differAt, Bool.and_eq_true, decide_eq_true_eq] at hother
  obtain ⟨⟨-, hran⟩, hsizes⟩ := hother
  obtain ⟨d'', os'', h₂'⟩ := exists_outcome hran
  rw [h₂, h₂'] at hsizes
  exact ⟨isEnabled_beside, d', d'', _, os'', h₁', h₂', fun heq => hsizes (congrArg _ heq)⟩

/-- A controller. -/
def controllers : Entry := .directory [
  ("a.ts", .file "@Controller('a') class A \x7b @Get('/b') c() \x7b\x7d \x7d".toUTF8)]

/-- A link beside the controllers. -/
def looped : Disk where
  root := [("lnk", .link ⟨"src"⟩), ("src", .directory [("controllers", controllers)])]

/-- The router takes the place of a link on the way to it. -/
def through : Config := { http := { output := ⟨"lnk/../lnk"⟩, middleware := [] } }

/-- Outputs at one place; an output whose directory is the source directory that the other
lacked; an output in the place of the link to the sources of the other, and one in the place of
a source that declares something.  And an output that cannot be read by its own path once it has
taken the place of a link on it. -/
theorem order_matters :
    OrderMatters ⟨"."⟩ { http := { output := ⟨"out.ts"⟩, middleware := [] },
                         queue := { output := ⟨"out.ts"⟩ } } served ∧
    OrderMatters ⟨"."⟩ { http := { output := ⟨"lib/router.js"⟩, middleware := [] },
                         queue := { sourceDir := ⟨"lib"⟩ } } served ∧
    OrderMatters ⟨"."⟩ { http := { output := ⟨"src/consumers"⟩, middleware := [] } } linked ∧
    OrderMatters ⟨"."⟩ beside replaced ∧
    ∃ d₁ os e, (generateAll ⟨"."⟩ through false [.http, .queue]).outcome looped = (d₁, .ok os) ∧
      ((checkAll ⟨"."⟩ through [.http]).outcome d₁).2 = .error e := by
  have henabled : ∀ c : Config, c.http.enabled = true → c.queue.enabled = true →
      ∀ p, c.isEnabled p = true := by
    intro c hhttp hqueue p
    cases p with
    | http => exact hhttp
    | queue => exact hqueue
  refine ⟨?output, ?directory, ?link, ?source, ?own⟩
  case output =>
    exact orderMatters_of_differAt (henabled _ rfl rfl) ["out.ts"] (by decide +kernel)
  case directory =>
    exact orderMatters_of_differAt (henabled _ rfl rfl) ["src", "generated", "queue.ts"]
      (by decide +kernel)
  case link =>
    exact orderMatters_of_differAt (henabled _ rfl rfl) ["src", "generated", "queue.ts"]
      (by decide +kernel)
  case source => exact orderMatters_replaced
  case own => exact exists_failure (by decide +kernel)

end DispatchGen.Project
