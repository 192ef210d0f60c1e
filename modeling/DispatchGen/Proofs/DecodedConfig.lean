/-
DispatchGen/Proofs/DecodedConfig.lean

Which documents are configurations, and of what.

The structures of a configuration are told by their fields (`configuration` and what it is made
of).  Each setting of the decoder implements one of them (`implements_settings` and the like), so
the decoder takes the documents that fit, and what it makes of one is what the document means,
field by field.  A middleware entry is decoded by way of one whose fields may be missing, which is
then looked through (`readBy_middleware`).

Main statement: `decode_overrides_defaults`.
-/
import DispatchGen.Proofs.FieldKinds
import Mathlib

namespace DispatchGen.Config

open Toml

/-! ### The structures of a configuration -/

/-- A middleware entry has no default: both fields must be given. -/
def middlewareEntry : Struct Middleware where
  fields := [
    ⟨"name", .string, (·.name)⟩,
    ⟨"path", .path, (·.path)⟩]
  default := none

def httpTarget : Struct HttpTarget where
  fields := [
    ⟨"enabled", .boolean, (·.enabled)⟩,
    ⟨"source_dir", .path, (·.sourceDir)⟩,
    ⟨"output", .path, (·.output)⟩,
    ⟨"router_package", .string, (·.routerPackage)⟩,
    ⟨"container_package", .string, (·.containerPackage)⟩,
    ⟨"container_type", .string, (·.containerType)⟩,
    ⟨"health_path", .string, (·.healthPath)⟩,
    ⟨"middleware", .list (.struct middlewareEntry), (·.middleware)⟩]
  default := some {}

def queueTarget : Struct QueueTarget where
  fields := [
    ⟨"enabled", .boolean, (·.enabled)⟩,
    ⟨"source_dir", .path, (·.sourceDir)⟩,
    ⟨"output", .path, (·.output)⟩,
    ⟨"container_package", .string, (·.containerPackage)⟩,
    ⟨"container_type", .string, (·.containerType)⟩,
    ⟨"env_type", .string, (·.envType)⟩,
    ⟨"env_module", .optional .path, (·.envModule)⟩]
  default := some {}

def configuration : Struct Config where
  fields := [
    ⟨"extensions", .list .string, (·.extensions)⟩,
    ⟨"exclude", .list .string, (·.exclude)⟩,
    ⟨"http", .struct httpTarget, (·.http)⟩,
    ⟨"queue", .struct queueTarget, (·.queue)⟩]
  default := some {}

/-! ### Middleware entries -/

/-- A middleware entry under construction. -/
def partialMiddleware : Struct PartialMiddleware where
  fields := [
    ⟨"name", .optional .string, (·.name)⟩,
    ⟨"path", .optional .path, (·.path)⟩]
  default := some {}

theorem implements_middleware : ImplementsAll middlewareSettings partialMiddleware.fields where
  names := by decide
  each := by
    refine .cons (implements_wrapped Kind.readBy_string.optional (fun _ _ => rfl) ?_) <|
      .cons (implements_wrapped Kind.readBy_path.optional (fun _ _ => rfl) ?_) .nil
    all_goals simp [partialMiddleware]

/-- An entry is decoded if both of its fields have been found. -/
theorem middleware_eq_ok {v : Value} {m : Middleware} :
    middleware v = .ok m ↔ overriding "struct MiddlewareImport" middlewareSettings {} v
      = .ok ⟨some m.name, some m.path⟩ := by
  unfold middleware
  rw [bind_eq_ok]
  constructor
  · rintro ⟨⟨name, path⟩, hm, h⟩
    cases name <;> cases path <;> cases h
    exact hm
  · exact fun h => ⟨_, h, rfl⟩

section Entries

variable {entries : List (String × Value)}

theorem takes_partialMiddleware (h : middlewareEntry.Takes entries) :
    partialMiddleware.Takes entries where
  known := by simpa [partialMiddleware, middlewareEntry] using h.known
  typed := by simpa [partialMiddleware, middlewareEntry, Kind.optional] using h.typed
  complete hnone := by cases hnone

/-- A field that is given has been found. -/
theorem exists_of_describes_partial {m : PartialMiddleware}
    (hm : partialMiddleware.Describes entries m)
    (hkeys : ∀ f ∈ middlewareEntry.fields, f.name ∈ entries.map Prod.fst) :
    ∃ name path, m = ⟨some name, some path⟩ := by
  have hkey : ∀ key ∈ entries.map Prod.fst, ∃ v, (key, v) ∈ entries := by
    rw [List.forall_mem_map]
    exact fun e he => ⟨e.2, he⟩
  obtain ⟨v, hv⟩ := hkey "name" (hkeys _ (.head _))
  obtain ⟨name, hname, -⟩ := hm.given _ (.head _) v hv
  obtain ⟨w, hw⟩ := hkey "path" (hkeys _ (.tail _ (.head _)))
  obtain ⟨path, hpath, -⟩ := hm.given _ (.tail _ (.head _)) w hw
  obtain ⟨mname, mpath⟩ := m
  obtain rfl : mname = some name := hname
  obtain rfl : mpath = some path := hpath
  exact ⟨name, path, rfl⟩

/-- A field that has been found was given. -/
theorem describes_of_describes_partial {m : Middleware}
    (h : partialMiddleware.Describes entries ⟨some m.name, some m.path⟩) :
    middlewareEntry.Describes entries m where
  known := by simpa [partialMiddleware, middlewareEntry] using h.known
  given := by simpa [partialMiddleware, middlewareEntry, Kind.optional] using h.given
  absent f hf habsent := by
    -- what is absent would be missing from the entry under construction
    have hgiven : ∀ g ∈ middlewareEntry.fields, g.name ∈ entries.map Prod.fst := by
      simpa [partialMiddleware, middlewareEntry] using h.absent
    exact absurd (hgiven f hf) habsent

end Entries

/-- A middleware entry is read as its struct says. -/
theorem readBy_middleware : (Kind.struct middlewareEntry).ReadBy middleware := by
  have hpartial := implements_middleware.readBy "struct MiddlewareImport" {}
  have htabular : ∀ v, (Kind.struct middlewareEntry).Tabular v →
      (Kind.struct partialMiddleware).Tabular v := fun v h =>
    ⟨h.1, by simp [partialMiddleware, Kind.optional, Kind.string, Kind.path, Kind.written]⟩
  constructor
  case total =>
    rintro v hv ht ⟨entries, rfl, htakes⟩
    have hfits : (Kind.struct partialMiddleware).Fits (.table entries) :=
      ⟨entries, rfl, takes_partialMiddleware htakes⟩
    obtain ⟨m, hm⟩ := hpartial.total _ hv (htabular _ ht) hfits
    obtain ⟨_, hentries, hdescribes⟩ := hpartial.sound _ m hv (htabular _ ht) hm
    cases hentries
    obtain ⟨name, path, rfl⟩ := exists_of_describes_partial hdescribes (htakes.complete rfl)
    exact ⟨⟨name, path⟩, middleware_eq_ok.mpr hm⟩
  case sound =>
    intro v m hv ht hm
    obtain ⟨entries, rfl, hdescribes⟩ :=
      hpartial.sound v _ hv (htabular v ht) (middleware_eq_ok.mp hm)
    exact ⟨entries, rfl, describes_of_describes_partial hdescribes⟩

/-! ### Targets -/

theorem implements_http : ImplementsAll httpSettings httpTarget.fields where
  names := by decide
  each := by
    refine .cons (implements_of Kind.readBy_boolean (fun _ _ => rfl) ?_) <|
      .cons (implements_of Kind.readBy_path (fun _ _ => rfl) ?_) <|
      .cons (implements_of Kind.readBy_path (fun _ _ => rfl) ?_) <|
      .cons (implements_of Kind.readBy_string (fun _ _ => rfl) ?_) <|
      .cons (implements_of Kind.readBy_string (fun _ _ => rfl) ?_) <|
      .cons (implements_of Kind.readBy_string (fun _ _ => rfl) ?_) <|
      .cons (implements_of Kind.readBy_string (fun _ _ => rfl) ?_) <|
      .cons (implements_of readBy_middleware.list (fun _ _ => rfl) ?_) .nil
    -- every setting leaves the fields of the others alone
    all_goals simp [httpTarget]

theorem implements_queue : ImplementsAll queueSettings queueTarget.fields where
  names := by decide
  each := by
    refine .cons (implements_of Kind.readBy_boolean (fun _ _ => rfl) ?_) <|
      .cons (implements_of Kind.readBy_path (fun _ _ => rfl) ?_) <|
      .cons (implements_of Kind.readBy_path (fun _ _ => rfl) ?_) <|
      .cons (implements_of Kind.readBy_string (fun _ _ => rfl) ?_) <|
      .cons (implements_of Kind.readBy_string (fun _ _ => rfl) ?_) <|
      .cons (implements_of Kind.readBy_string (fun _ _ => rfl) ?_) <|
      .cons (implements_wrapped Kind.readBy_path.optional (fun _ _ => rfl) ?_) .nil
    all_goals simp [queueTarget]

theorem implements_settings : ImplementsAll settings configuration.fields where
  names := by decide
  each := by
    refine .cons (implements_of Kind.readBy_string.list (fun _ _ => rfl) ?_) <|
      .cons (implements_of Kind.readBy_string.list (fun _ _ => rfl) ?_) <|
      .cons (implements_of (implements_http.readBy _ _) (fun _ _ => rfl) ?_) <|
      .cons (implements_of (implements_queue.readBy _ _) (fun _ _ => rfl) ?_) .nil
    all_goals simp [configuration]

/-- A configuration is read as its struct says. -/
theorem readBy_decode : (Kind.struct configuration).ReadBy decode := implements_settings.readBy _ _

/-! ### Laws -/

theorem lawful_middlewareEntry : (Kind.struct middlewareEntry).Lawful := by
  refine Kind.lawful_struct ?_ ?_
  · simp [middlewareEntry, Kind.lawful_string, Kind.lawful_path]
  · rintro ⟨⟩ ⟨⟩ h
    simpa [middlewareEntry] using h

theorem lawful_httpTarget : (Kind.struct httpTarget).Lawful := by
  refine Kind.lawful_struct ?_ ?_
  · simp [httpTarget, Kind.lawful_boolean, Kind.lawful_string, Kind.lawful_path,
      lawful_middlewareEntry.list]
  · rintro ⟨⟩ ⟨⟩ h
    simpa [httpTarget] using h

theorem lawful_queueTarget : (Kind.struct queueTarget).Lawful := by
  refine Kind.lawful_struct ?_ ?_
  · simp [queueTarget, Kind.lawful_boolean, Kind.lawful_string, Kind.lawful_path,
      Kind.lawful_path.optional]
  · rintro ⟨⟩ ⟨⟩ h
    simpa [queueTarget] using h

/-- A configuration means one thing only, in whatever order its keys are written. -/
theorem lawful_configuration : (Kind.struct configuration).Lawful := by
  refine Kind.lawful_struct ?_ ?_
  · simp [configuration, Kind.lawful_string.list, lawful_httpTarget, lawful_queueTarget]
  · rintro ⟨⟩ ⟨⟩ h
    simpa [configuration] using h

/-! ### Main statement -/

/-- **Documents override the defaults, field by field.**  Of every document that has no key twice
in a table and whose structures are written as tables: it is a configuration exactly if at every
level all keys are fields, all values have the types of their fields, and every middleware entry
has both of its fields; and it is the configuration that has in each field what the document gives
for it, or else the default.  Any order of the keys gives the same.  What is read from a text has
no key twice. -/
theorem decode_overrides_defaults :
    (∀ text document, read? text = some document → document.Distinct) ∧
    ∀ document : Value, document.Distinct → (Kind.struct configuration).Tabular document →
      ((∃ c, decode document = .ok c) ↔ (Kind.struct configuration).Fits document) ∧
      (∀ c, decode document = .ok c ↔ (Kind.struct configuration).Means document c) ∧
      ∀ other, Reordered document other → ∀ c, decode other = .ok c ↔ decode document = .ok c := by
  refine ⟨fun _ _ => distinct_of_read?, fun document hkeys htables => ?_⟩
  refine ⟨?_, fun c => ?_, fun other hother c => ?_⟩
  · exact readBy_decode.exists_eq_ok_iff lawful_configuration hkeys htables
  · exact readBy_decode.eq_ok_iff lawful_configuration hkeys htables
  · exact readBy_decode.eq_ok_iff_of_reordered lawful_configuration hkeys htables hother

/-- A text that gives some of the fields, and those of a middleware entry in no order. -/
def partialText : String :=
  "extensions = [\"ts\"]\n[queue]\nenabled = false\n" ++
    "[[http.middleware]]\npath = \"m.ts\"\nname = \"m\"\n"

/-- What is read from `partialText`. -/
def partialDocument : Value := .table [
  ("extensions", .array [.string "ts"]),
  ("http", .table [("middleware", .array [
    .table [("name", .string "m"), ("path", .string "m.ts")]])]),
  ("queue", .table [("enabled", .boolean false)])]

theorem decode_overrides_defaults_partial :
    read? partialText = some partialDocument ∧
    (Kind.struct configuration).Fits partialDocument ∧
    (Kind.struct configuration).Means partialDocument {
      extensions := ["ts"]
      http := { middleware := [⟨"m", ⟨"m.ts"⟩⟩] }
      queue := { enabled := false } } := by
  have hread : read? partialText = some partialDocument := by cbv
  have htables : (Kind.struct configuration).Tabular partialDocument := by
    simp [partialDocument, configuration, httpTarget, queueTarget, middlewareEntry, Kind.struct,
      Kind.list, Kind.optional, Kind.written, Kind.boolean, Kind.string, Kind.path]
  obtain ⟨hdistinct, hdecode⟩ := decode_overrides_defaults
  obtain ⟨hfits, hmeans, -⟩ := hdecode partialDocument (hdistinct _ _ hread) htables
  exact ⟨hread, hfits.mp ⟨_, rfl⟩, (hmeans _).mp rfl⟩

end DispatchGen.Config
