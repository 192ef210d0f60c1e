/-
DispatchGen/Proofs/FieldKinds.lean

What the fields of a configuration take.

A kind says which values a field takes and what they mean.  Kinds of lists and of structures are
made from those of their parts, and that of a structure is told by its fields alone (`Struct`): no
other keys, a value of its kind for each key, and for a field that is not given the default of the
structure, or, where there is none, nothing that would do.

Kinds know nothing of decoders, nor of the order in which a table lists its keys.  A decoder reads a
kind (`Kind.ReadBy`) if it takes exactly the values that fit and makes of them what they mean.  For
the decoder of a structure that comes from its settings, one by one: each sets its own field and
keeps the others (`Implements`).  Two conditions are consumed there, that no table has a key twice
and that structures are written as tables (`Kind.Tabular`); the decoder also knows structures that
are written as arrays.
-/
import DispatchGen.Config.Decode
import DispatchGen.Proofs.DocumentKeys
import DispatchGen.Proofs.Results
import Mathlib.Data.List.Nodup

namespace DispatchGen.Config

open Toml

/-! ### Kinds -/

/-- What a field may hold. -/
structure Kind (α : Type) where
  /-- The value has the right type. -/
  Fits : Value → Prop
  /-- The value denotes `a`. -/
  Means : Value → α → Prop
  /-- No structure in the value is written as an array. -/
  Tabular : Value → Prop

/-- A field of a structure: the key it has in a table, what it takes, and where it is found. -/
structure Field (σ : Type) where
  name : String
  {Content : Type}
  kind : Kind Content
  get : σ → Content

/-- A structure, whose fields need not be given if it has a default. -/
structure Struct (σ : Type) where
  fields : List (Field σ)
  default : Option σ

variable {α β σ : Type}

/-- The entries of a table suit a structure: every key is a field, every value has the type of its
field, and without a default every field is there. -/
structure Struct.Takes (s : Struct σ) (entries : List (String × Value)) : Prop where
  known : ∀ e ∈ entries, ∃ f ∈ s.fields, f.name = e.1
  typed : ∀ f ∈ s.fields, ∀ v, (f.name, v) ∈ entries → f.kind.Fits v
  complete : s.default = none → ∀ f ∈ s.fields, f.name ∈ entries.map Prod.fst

/-- The entries of a table describe `x`: a field that is given has what its value means, and any
other field has the default. -/
structure Struct.Describes (s : Struct σ) (entries : List (String × Value)) (x : σ) : Prop where
  known : ∀ e ∈ entries, ∃ f ∈ s.fields, f.name = e.1
  given : ∀ f ∈ s.fields, ∀ v, (f.name, v) ∈ entries → f.kind.Means v (f.get x)
  absent : ∀ f ∈ s.fields, f.name ∉ entries.map Prod.fst →
    ∃ d, s.default = some d ∧ f.get x = f.get d

namespace Kind

/-- Values that are written in one way. -/
def written (write : α → Value) : Kind α where
  Fits v := ∃ a, v = write a
  Means v a := v = write a
  Tabular _ := True

def boolean : Kind Bool := written .boolean

def string : Kind String := written .string

/-- A path is written as a text, and kept as the bytes of it. -/
def path : Kind Path where
  Fits := string.Fits
  Means v p := ∃ s : String, string.Means v s ∧ p = ⟨s⟩
  Tabular := string.Tabular

/-- A field that is there only if it is given. -/
def optional (k : Kind α) : Kind (Option α) where
  Fits := k.Fits
  Means v o := ∃ a, o = some a ∧ k.Means v a
  Tabular := k.Tabular

def list (k : Kind α) : Kind (List α) where
  Fits v := ∃ items, v = .array items ∧ ∀ x ∈ items, k.Fits x
  Means v as := ∃ items, v = .array items ∧ List.Forall₂ k.Means items as
  Tabular v := ∀ items, v = .array items → ∀ x ∈ items, k.Tabular x

def struct (s : Struct σ) : Kind σ where
  Fits v := ∃ entries, v = .table entries ∧ s.Takes entries
  Means v x := ∃ entries, v = .table entries ∧ s.Describes entries x
  Tabular v := (∀ items, v ≠ .array items) ∧
    ∀ entries, v = .table entries → ∀ f ∈ s.fields, ∀ x, (f.name, x) ∈ entries → f.kind.Tabular x

/-! ### Laws -/

/-- A value fits if it means something, it means one thing only, and the order of the keys in it
does not matter. -/
structure Lawful (k : Kind α) : Prop where
  fits_of_means : ∀ v a, k.Means v a → k.Fits v
  unique : ∀ v a b, k.Means v a → k.Means v b → a = b
  means_swapped : ∀ v w a, Swapped v w → k.Means v a → k.Means w a
  tabular_swapped : ∀ v w, Swapped v w → k.Tabular v → k.Tabular w

theorem lawful_written {write : α → Value} (hinj : Function.Injective write)
    (hleaf : ∀ a w, ¬ Swapped (write a) w) : (written write).Lawful where
  fits_of_means _ a h := ⟨a, h⟩
  unique _ _ _ ha hb := hinj (ha.symm.trans hb)
  means_swapped _ w a hswap h := absurd (h ▸ hswap) (hleaf a w)
  tabular_swapped _ _ _ h := h

theorem lawful_boolean : boolean.Lawful :=
  lawful_written (fun _ _ h => Value.boolean.inj h) fun _ _ h => nomatch h

theorem lawful_string : string.Lawful :=
  lawful_written (fun _ _ h => Value.string.inj h) fun _ _ h => nomatch h

theorem lawful_path : path.Lawful where
  fits_of_means v _ := fun ⟨s, h, _⟩ => lawful_string.fits_of_means v s h
  unique v _ _ := by
    rintro ⟨s, hs, rfl⟩ ⟨t, ht, rfl⟩
    rw [lawful_string.unique v s t hs ht]
  means_swapped v w _ hswap := fun ⟨s, h, hp⟩ => ⟨s, lawful_string.means_swapped v w s hswap h, hp⟩
  tabular_swapped := lawful_string.tabular_swapped

theorem Lawful.optional {k : Kind α} (hk : k.Lawful) : (optional k).Lawful where
  fits_of_means v _ := fun ⟨a, _, h⟩ => hk.fits_of_means v a h
  unique v _ _ := by
    rintro ⟨a, rfl, ha⟩ ⟨b, rfl, hb⟩
    exact congrArg some (hk.unique v a b ha hb)
  means_swapped v w _ hswap := fun ⟨a, ho, h⟩ => ⟨a, ho, hk.means_swapped v w a hswap h⟩
  tabular_swapped := hk.tabular_swapped

/-- A list means what its elements mean, one by one. -/
theorem Lawful.list {k : Kind α} (hk : k.Lawful) : (list k).Lawful where
  fits_of_means v as := by
    rintro ⟨items, rfl, h⟩
    refine ⟨items, rfl, fun x hx => ?_⟩
    obtain ⟨a, -, ha⟩ := exists_of_mem_forall₂ h hx
    exact hk.fits_of_means x a ha
  unique v as bs := by
    rintro ⟨items, rfl, ha⟩ ⟨_, hitems, hb⟩
    cases hitems
    exact List.right_unique_forall₂' (fun v a b => hk.unique v a b) ha hb
  means_swapped v w as hswap := by
    rintro ⟨items, rfl, h⟩
    obtain ⟨others, rfl, hothers⟩ := hswap.exists_items
    refine ⟨others, rfl, ?_⟩
    clear hswap
    induction hothers generalizing as with
    | nil => exact h
    | @cons x y _ _ hxy _ ih =>
      obtain ⟨a, as, ha, has, rfl⟩ := List.forall₂_cons_left_iff.mp h
      refine .cons ?_ (ih as has)
      rcases hxy with rfl | hxy
      · exact ha
      · exact hk.means_swapped x y a hxy ha
  tabular_swapped v w hswap h := by
    rintro others rfl y hy
    obtain ⟨items, rfl, hitems⟩ := hswap.symm.exists_items
    obtain ⟨x, hx, rfl | hyx⟩ := exists_of_mem_forall₂ hitems hy
    · exact h items rfl y hx
    · exact hk.tabular_swapped x y hyx.symm (h items rfl x hx)

/-- The kind of a structure is lawful if those of its fields are, and if it has no other fields. -/
theorem lawful_struct {s : Struct σ} (hfields : ∀ f ∈ s.fields, f.kind.Lawful)
    (hext : ∀ x y, (∀ f ∈ s.fields, f.get x = f.get y) → x = y) : (struct s).Lawful where
  fits_of_means v x := by
    rintro ⟨entries, rfl, h⟩
    refine ⟨entries, rfl, h.known, fun f hf v hv => ?_, fun hnone f hf => ?_⟩
    · exact (hfields f hf).fits_of_means v _ (h.given f hf v hv)
    · by_contra habsent
      obtain ⟨d, hd, -⟩ := h.absent f hf habsent
      rw [hnone] at hd
      cases hd
  unique v x y := by
    rintro ⟨entries, rfl, hx⟩ ⟨_, hentries, hy⟩
    cases hentries
    refine hext x y fun f hf => ?_
    by_cases hkey : f.name ∈ entries.map Prod.fst
    · obtain ⟨e, he, hname⟩ := List.mem_map.mp hkey
      have hmem : (f.name, e.2) ∈ entries := hname ▸ he
      exact (hfields f hf).unique e.2 _ _ (hx.given f hf e.2 hmem) (hy.given f hf e.2 hmem)
    · obtain ⟨d, hd, hget⟩ := hx.absent f hf hkey
      obtain ⟨d', hd', hget'⟩ := hy.absent f hf hkey
      cases hd.symm.trans hd'
      rw [hget, hget']
  means_swapped v w x hswap := by
    rintro ⟨entries, rfl, h⟩
    obtain ⟨others, rfl, hkeys, hvalues⟩ := hswap.exists_entries
    refine ⟨others, rfl, fun e he => ?_, fun f hf v hv => ?_, fun f hf habsent => ?_⟩
    · obtain ⟨y, hy, -⟩ := hvalues e he
      exact h.known (e.1, y) hy
    · obtain ⟨y, hy, rfl | hyv⟩ := hvalues (f.name, v) hv
      · exact h.given f hf y hy
      · exact (hfields f hf).means_swapped y v _ hyv (h.given f hf y hy)
    · exact h.absent f hf fun hkey => habsent (hkeys.mem_iff.mp hkey)
  tabular_swapped v w hswap h := by
    constructor
    · rintro items rfl
      obtain ⟨others, rfl, -⟩ := hswap.symm.exists_items
      exact h.1 others rfl
    · rintro others rfl f hf x hx
      obtain ⟨entries, rfl, -, -⟩ := hswap.symm.exists_entries
      obtain ⟨_, hothers, -, hvalues⟩ := hswap.exists_entries
      cases hothers
      obtain ⟨y, hy, rfl | hyx⟩ := hvalues (f.name, x) hx
      · exact h.2 entries rfl f hf y hy
      · exact (hfields f hf).tabular_swapped y x hyx (h.2 entries rfl f hf y hy)

/-! ### Decoders -/

/-- A decoder takes the values that fit, and makes of a value what it means. -/
structure ReadBy (k : Kind α) (decoder : Decoder α) : Prop where
  total : ∀ v, v.Distinct → k.Tabular v → k.Fits v → ∃ a, decoder v = .ok a
  sound : ∀ v a, v.Distinct → k.Tabular v → decoder v = .ok a → k.Means v a

section Reads

variable {k : Kind α} {decoder : Decoder α} {v w : Value} {a : α}

/-- A decoder of a lawful kind reads a value as what it means, and as nothing else. -/
theorem ReadBy.eq_ok_iff (hr : k.ReadBy decoder) (hk : k.Lawful) (hv : v.Distinct)
    (ht : k.Tabular v) : decoder v = .ok a ↔ k.Means v a := by
  refine ⟨hr.sound v a hv ht, fun h => ?_⟩
  obtain ⟨b, hb⟩ := hr.total v hv ht (hk.fits_of_means v a h)
  rw [hb, hk.unique v a b h (hr.sound v b hv ht hb)]

/-- A decoder of a lawful kind reads just the values that fit. -/
theorem ReadBy.exists_eq_ok_iff (hr : k.ReadBy decoder) (hk : k.Lawful) (hv : v.Distinct)
    (ht : k.Tabular v) : (∃ a, decoder v = .ok a) ↔ k.Fits v :=
  ⟨fun ⟨a, ha⟩ => hk.fits_of_means v a (hr.sound v a hv ht ha), hr.total v hv ht⟩

/-- What is decoded does not depend on the order of the keys. -/
theorem ReadBy.eq_ok_iff_of_reordered (hr : k.ReadBy decoder) (hk : k.Lawful) (hv : v.Distinct)
    (ht : k.Tabular v) (h : Reordered v w) : decoder w = .ok a ↔ decoder v = .ok a := by
  suffices hw : w.Distinct ∧ k.Tabular w ∧ (decoder w = .ok a ↔ decoder v = .ok a) from hw.2.2
  induction h with
  | refl => exact ⟨hv, ht, .rfl⟩
  | @tail x y _ hswap ih =>
    obtain ⟨hdistinct, htabular, hsame⟩ := ih
    have hdistinct' := hswap.distinct hdistinct
    have htabular' := hk.tabular_swapped x y hswap htabular
    refine ⟨hdistinct', htabular', ?_⟩
    rw [← hsame, hr.eq_ok_iff hk hdistinct htabular, hr.eq_ok_iff hk hdistinct' htabular']
    exact ⟨hk.means_swapped y x a hswap.symm, hk.means_swapped x y a hswap⟩

end Reads

theorem readBy_written {write : α → Value} {decoder : Decoder α}
    (h : ∀ v a, decoder v = .ok a ↔ v = write a) : (written write).ReadBy decoder where
  total := by
    rintro v - - ⟨a, hv⟩
    exact ⟨a, (h v a).mpr hv⟩
  sound v a _ _ hv := (h v a).mp hv

theorem readBy_boolean : boolean.ReadBy Config.boolean :=
  readBy_written fun v b => by cases v <;> simp [Config.boolean]

theorem readBy_string : string.ReadBy Config.string :=
  readBy_written fun v s => by cases v <;> simp [Config.string]

theorem readBy_path : path.ReadBy Config.path where
  total := by
    rintro v - - ⟨s, rfl⟩
    exact ⟨⟨s⟩, rfl⟩
  sound v p _ _ hv := by
    cases v with
    | string s =>
      cases hv
      exact ⟨s, rfl, rfl⟩
    | _ => cases hv

/-- A list is read element by element. -/
theorem ReadBy.list {k : Kind α} {decoder : Decoder α} (hr : k.ReadBy decoder) :
    (list k).ReadBy (Config.list decoder) where
  total v hv ht := by
    rintro ⟨items, rfl, hfit⟩
    cases hv with
    | array hitems =>
      exact exists_mapM_eq_ok_iff.mpr fun x hx =>
        hr.total x (hitems x hx) (ht items rfl x hx) (hfit x hx)
  sound v as hv ht h := by
    unfold Config.list at h
    split at h
    case h_1 items =>
      cases hv with
      | array hitems =>
        have hmeans : List.Forall₂ (fun x a => x ∈ items ∧ decoder x = .ok a) items as :=
          (List.forall₂_and_left items as).mpr ⟨fun _ hx => hx, mapM_eq_ok.mp h⟩
        exact ⟨items, rfl, hmeans.imp fun x a ⟨hx, ha⟩ =>
          hr.sound x a (hitems x hx) (ht items rfl x hx) ha⟩
    case h_2 => cases h

theorem ReadBy.optional {k : Kind α} {decoder : Decoder α} (hr : k.ReadBy decoder) :
    (optional k).ReadBy fun v => (decoder v).map some where
  total v hv ht hfit := by
    obtain ⟨a, ha⟩ := hr.total v hv ht hfit
    exact ⟨some a, map_eq_ok.mpr ⟨a, ha, rfl⟩⟩
  sound v o hv ht h := by
    obtain ⟨a, ha, rfl⟩ := map_eq_ok.mp h
    exact ⟨a, rfl, hr.sound v a hv ht ha⟩

end Kind

/-! ### Settings -/

section Settings

variable {fields : List (Field σ)} {settings : List (Setting σ)} {start x : σ}

/-- A setting of a structure does what one of its fields asks for: it takes the values of the
field's kind, stores what they mean, and keeps every other field. -/
structure Implements (fields : List (Field σ)) (setting : Setting σ) (f : Field σ) : Prop where
  name : setting.name = f.name
  total : ∀ v x, v.Distinct → f.kind.Tabular v → f.kind.Fits v → ∃ y, setting.set v x = .ok y
  stores : ∀ v x y, v.Distinct → f.kind.Tabular v → setting.set v x = .ok y →
    f.kind.Means v (f.get y)
  keeps : ∀ v x y, setting.set v x = .ok y → ∀ g ∈ fields, g.name ≠ f.name → g.get y = g.get x

variable {name : String} {k : Kind α} {get : σ → α}

/-- A field may keep what was read in a wrapping of its own. -/
theorem implements_wrapped {decoder : Decoder β} {store : β → σ → σ} {wrap : β → α}
    (hread : k.ReadBy fun v => (decoder v).map wrap) (hget : ∀ b x, get (store b x) = wrap b)
    (hkeeps : ∀ g ∈ fields, g.name ≠ name → ∀ b x, g.get (store b x) = g.get x) :
    Implements fields (.of name decoder store) ⟨name, k, get⟩ where
  name := rfl
  total v x hv ht hfit := by
    obtain ⟨_, ha⟩ := hread.total v hv ht hfit
    obtain ⟨b, hb, -⟩ := map_eq_ok.mp ha
    exact ⟨store b x, map_eq_ok.mpr ⟨b, hb, rfl⟩⟩
  stores v x y hv ht h := by
    obtain ⟨b, hb, rfl⟩ := map_eq_ok.mp h
    dsimp only
    rw [hget]
    exact hread.sound v (wrap b) hv ht (map_eq_ok.mpr ⟨b, hb, rfl⟩)
  keeps v x y h g hg hne := by
    obtain ⟨b, -, rfl⟩ := map_eq_ok.mp h
    exact hkeeps g hg hne b x

theorem implements_of {decoder : Decoder α} {store : α → σ → σ} (hread : k.ReadBy decoder)
    (hget : ∀ a x, get (store a x) = a)
    (hkeeps : ∀ g ∈ fields, g.name ≠ name → ∀ a x, g.get (store a x) = g.get x) :
    Implements fields (.of name decoder store) ⟨name, k, get⟩ := by
  have hid : (fun v => (decoder v).map id) = decoder :=
    funext fun v => congrFun Except.map_id (decoder v)
  exact implements_wrapped (hid.symm ▸ hread) hget hkeeps

/-- The settings of a structure implement its fields, one each. -/
structure ImplementsAll (settings : List (Setting σ)) (fields : List (Field σ)) : Prop where
  names : (fields.map (·.name)).Nodup
  each : List.Forall₂ (Implements fields) settings fields

namespace ImplementsAll

/-- Names tell fields apart. -/
theorem eq_of_name (h : ImplementsAll settings fields) {f g : Field σ} (hf : f ∈ fields)
    (hg : g ∈ fields) (hname : f.name = g.name) : f = g :=
  List.inj_on_of_nodup_map h.names hf hg hname

/-- What is found under a key sets the field of that name. -/
theorem exists_field (h : ImplementsAll settings fields) {key : String} {setting : Setting σ}
    (hfind : settings.find? (·.name = key) = some setting) :
    ∃ f ∈ fields, f.name = key ∧ Implements fields setting f := by
  have hname : setting.name = key := by simpa using List.find?_some hfind
  obtain ⟨f, hf, himpl⟩ := exists_of_mem_forall₂ h.each (List.mem_of_find?_eq_some hfind)
  exact ⟨f, hf, himpl.name ▸ hname, himpl⟩

/-- Every field is found under its name. -/
theorem exists_setting (h : ImplementsAll settings fields) {f : Field σ} (hf : f ∈ fields) :
    ∃ setting, settings.find? (·.name = f.name) = some setting ∧ Implements fields setting f := by
  have hfound : (settings.find? (·.name = f.name)).isSome := by
    obtain ⟨setting, hsetting, himpl⟩ := exists_of_mem_forall₂ h.each.flip hf
    exact List.find?_isSome.mpr ⟨setting, hsetting, by simpa using himpl.name⟩
  obtain ⟨setting, hfind⟩ := Option.isSome_iff_exists.mp hfound
  obtain ⟨g, hg, hname, himpl⟩ := h.exists_field hfind
  exact ⟨setting, hfind, h.eq_of_name hg hf hname ▸ himpl⟩

/-- Entries of the right types are all set. -/
theorem exists_setFields (h : ImplementsAll settings fields) (entries : List (String × Value))
    (start : σ)
    (hvalues : ∀ e ∈ entries, e.2.Distinct)
    (htabular : ∀ f ∈ fields, ∀ v, (f.name, v) ∈ entries → f.kind.Tabular v)
    (hknown : ∀ e ∈ entries, ∃ f ∈ fields, f.name = e.1)
    (htyped : ∀ f ∈ fields, ∀ v, (f.name, v) ∈ entries → f.kind.Fits v) :
    ∃ x, setFields settings start entries = .ok x := by
  induction entries generalizing start with
  | nil => exact ⟨start, rfl⟩
  | cons e rest ih =>
    obtain ⟨key, v⟩ := e
    obtain ⟨hv, hrest⟩ := List.forall_mem_cons.mp hvalues
    obtain ⟨⟨f, hf, rfl⟩, hothers⟩ := List.forall_mem_cons.mp hknown
    obtain ⟨setting, hfind, himpl⟩ := h.exists_setting hf
    obtain ⟨y, hy⟩ := himpl.total v start hv (htabular f hf v (.head _)) (htyped f hf v (.head _))
    obtain ⟨x, hx⟩ := ih y hrest (fun g hg w hw => htabular g hg w (.tail _ hw)) hothers
      fun g hg w hw => htyped g hg w (.tail _ hw)
    refine ⟨x, ?_⟩
    simp only [setFields, hfind]
    exact bind_eq_ok.mpr ⟨y, hy, hx⟩

/-- What is set is described by the entries.  Each key comes once, so a field that has been set
keeps its value to the end. -/
theorem describes_of_setFields (h : ImplementsAll settings fields)
    {entries : List (String × Value)} (hkeys : (entries.map Prod.fst).Nodup)
    (hvalues : ∀ e ∈ entries, e.2.Distinct)
    (htabular : ∀ f ∈ fields, ∀ v, (f.name, v) ∈ entries → f.kind.Tabular v)
    (hset : setFields settings start entries = .ok x) :
    (Struct.mk fields (some start)).Describes entries x := by
  induction entries generalizing start with
  | nil =>
    cases hset
    exact ⟨by simp, by simp, fun _ _ _ => ⟨_, rfl, rfl⟩⟩
  | cons e rest ih =>
    obtain ⟨key, v⟩ := e
    obtain ⟨hfresh, hnodup⟩ := List.nodup_cons.mp hkeys
    obtain ⟨hv, hrest⟩ := List.forall_mem_cons.mp hvalues
    rw [setFields] at hset
    split at hset
    · cases hset
    next setting hfind =>
    obtain ⟨y, hy, hset⟩ := bind_eq_ok.mp hset
    obtain ⟨f, hf, rfl, himpl⟩ := h.exists_field hfind
    have hdescribes := ih hnodup hrest (fun g hg w hw => htabular g hg w (.tail _ hw)) hset
    have hlater : ∀ g ∈ fields, g.name ∉ rest.map Prod.fst → g.get x = g.get y := by
      intro g hg habsent
      obtain ⟨d, hd, hget⟩ := hdescribes.absent g hg habsent
      cases hd
      exact hget
    constructor
    case known => exact List.forall_mem_cons.mpr ⟨⟨f, hf, rfl⟩, hdescribes.known⟩
    case given =>
      intro g hg w hw
      rcases List.mem_cons.mp hw with heq | hw
      · obtain ⟨hname, rfl⟩ := Prod.mk.inj heq
        obtain rfl := h.eq_of_name hg hf hname
        rw [hlater g hg hfresh]
        exact himpl.stores w start y hv (htabular g hg w (.head _)) hy
      · exact hdescribes.given g hg w hw
    case absent =>
      intro g hg habsent
      obtain ⟨hne, habsent⟩ := not_or.mp (mt List.mem_cons.mpr habsent)
      refine ⟨start, rfl, ?_⟩
      rw [hlater g hg habsent, himpl.keeps v start y hy g hg hne]

/-- The decoder of a structure with a default reads its kind. -/
theorem readBy (h : ImplementsAll settings fields) (label : String) (start : σ) :
    (Kind.struct ⟨fields, some start⟩).ReadBy (overriding label settings start) where
  total v hv ht := by
    rintro ⟨entries, rfl, htakes⟩
    cases hv with
    | table _ hvalues =>
      exact h.exists_setFields entries start hvalues (ht.2 entries rfl) htakes.known htakes.typed
  sound v x hv ht hdecode := by
    unfold overriding at hdecode
    split at hdecode
    case h_1 entries =>
      cases hv with
      | table hkeys hvalues =>
        exact ⟨entries, rfl,
          h.describes_of_setFields hkeys hvalues (ht.2 entries rfl) hdecode⟩
    case h_2 items => exact absurd rfl (ht.1 items)
    case h_3 => cases hdecode

end ImplementsAll

end Settings

end DispatchGen.Config
