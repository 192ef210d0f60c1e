/-
DispatchGen/Proofs/ObjectEdits.lean

Edits of an object literal that no lookup notices.

`Edit keys` is one edit of the children of an object, where `keys` are the keys that are looked up:
a child that is no pair under one of them comes or goes, two neighbouring pairs under different
keys change places, or a key is put between quotes or taken out of them.  A lookup takes the first
pair under its key, and none of these edits puts another pair first or gives it another value
(`valueUnder_of_edit`).  So any number of edits leaves each property as it is
(`property?_of_edits`).

A consumer marker looks its options up and reads nothing else of the object
(`task_mem_taskOf_iff`).  So the outcome of the marker is the same: the task or none, the queue and
the batch flag, and the warnings (`taskOf_of_edited`).
-/
import DispatchGen.Extract.Survey
import DispatchGen.Proofs.Quotation
import Mathlib.Logic.Relation

namespace DispatchGen

open Syntax Text

namespace Literal

/-! ### Edits -/

/-- The text under which a pair is looked up. -/
def pairKey? (n : Node) : Option String :=
  if n.kind = .pair then (n.child? .key).map keyText else none

/-- The second pair is the first with its key between quotes. -/
structure QuotesKey (plain quoted : Node) : Prop where
  plainKind : plain.kind = .pair
  quotedKind : quoted.kind = .pair
  key : ∃ k k' mark, plain.child? .key = some k ∧ quoted.child? .key = some k' ∧
    k.kind ≠ .string ∧ k'.kind = .string ∧
    isQuote mark = true ∧ k'.text.toList = mark :: (k.text.toList ++ [mark])
  value : quoted.child? .value = plain.child? .value

/-- One edit of the children of an object in which only `keys` are looked up. -/
inductive Edit (keys : List String) : List Node → List Node → Prop
  | insert {before after : List Node} {n : Node} :
      (∀ key ∈ keys, pairKey? n ≠ some key) →
      Edit keys (before ++ after) (before ++ n :: after)
  | delete {before after : List Node} {n : Node} :
      (∀ key ∈ keys, pairKey? n ≠ some key) →
      Edit keys (before ++ n :: after) (before ++ after)
  /-- No pair stands between the two, but a comma or a comment may. -/
  | exchange {before between after : List Node} {a b : Node} :
      a.kind = .pair → b.kind = .pair → pairKey? a ≠ pairKey? b →
      (∀ n ∈ between, n.kind ≠ .pair) →
      Edit keys (before ++ a :: (between ++ b :: after)) (before ++ b :: (between ++ a :: after))
  | quote {before after : List Node} {plain quoted : Node} : QuotesKey plain quoted →
      Edit keys (before ++ plain :: after) (before ++ quoted :: after)
  | unquote {before after : List Node} {plain quoted : Node} : QuotesKey plain quoted →
      Edit keys (before ++ quoted :: after) (before ++ plain :: after)

/-- Any number of edits. -/
def Edits (keys : List String) : List Node → List Node → Prop :=
  Relation.ReflTransGen (Edit keys)

/-! ### Lookups -/

variable {keys : List String} {key : String} {n : Node} {ns ns' : List Node}

theorem isPairOf_iff : isPairOf key n = true ↔ pairKey? n = some key := by
  unfold isPairOf pairKey?
  by_cases hkind : n.kind = .pair
  · cases n.child? .key with
    | none => simp [hkind]
    | some k => simp [hkind]
  · simp [hkind]

theorem isPairOf_of_ne (h : pairKey? n ≠ some key) : ¬ isPairOf key n = true :=
  mt isPairOf_iff.mp h

/-- The value of the first pair under `key`. -/
def valueUnder (key : String) (ns : List Node) : Option Node :=
  (ns.find? (isPairOf key)).bind (·.child? .value)

/-- A pair is never left out of what a reader of the tree looks at. -/
theorem property?_eq (object : Node) (key : String) :
    property? object key = valueUnder key object.children := by
  have hcheck : ∀ n : Node,
      decide (n.isContent = true ∧ isPairOf key n = true) = isPairOf key n := by
    intro n
    by_cases hpair : n.kind = .pair
    · simp [Node.isContent, hpair, NodeKind.isNamed]
    · simp [isPairOf, hpair]
  rw [property?, valueUnder, Node.contents, List.find?_filter]
  exact congrArg (fun c => (object.children.find? c).bind _) (funext hcheck)

theorem valueUnder_append (before after : List Node) :
    valueUnder key (before ++ after) = if before.any (isPairOf key) then valueUnder key before
      else valueUnder key after := by
  unfold valueUnder
  rw [List.find?_append, ← List.isSome_find?]
  cases before.find? (isPairOf key) <;> rfl

theorem valueUnder_cons (n : Node) (ns : List Node) :
    valueUnder key (n :: ns) = if isPairOf key n then n.child? .value else valueUnder key ns := by
  unfold valueUnder
  rw [List.find?_cons]
  split
  case h_1 h => rw [h]; rfl
  case h_2 h => rw [h]; rfl

/-- What comes behind the same children may be exchanged for what has the same value. -/
theorem valueUnder_append_congr (before : List Node) (h : valueUnder key ns = valueUnder key ns') :
    valueUnder key (before ++ ns) = valueUnder key (before ++ ns') := by
  rw [valueUnder_append, valueUnder_append, h]

theorem QuotesKey.pairKey?_eq {plain quoted : Node} (h : QuotesKey plain quoted) :
    pairKey? quoted = pairKey? plain := by
  obtain ⟨k, k', mark, hk, hk', hkind, hkind', hmark, htext⟩ := h.key
  have hplain : keyText k = k.text := by
    unfold keyText
    split
    case h_1 hstring => exact absurd hstring hkind
    case h_2 => rfl
  have hquoted : keyText k' = k.text := by
    unfold keyText
    rw [hkind']
    show String.ofList (stripQuotes k'.text.toList) = k.text
    rw [htext, stripQuotes_between hmark, String.ofList_toList]
  rw [pairKey?, pairKey?, if_pos h.plainKind, if_pos h.quotedKind, hk, hk', Option.map_some,
    Option.map_some, hplain, hquoted]

theorem QuotesKey.valueUnder_eq {plain quoted : Node} (h : QuotesKey plain quoted)
    (after : List Node) :
    valueUnder key (quoted :: after) = valueUnder key (plain :: after) := by
  have hcheck : isPairOf key quoted = isPairOf key plain := by
    apply Bool.eq_iff_iff.mpr
    rw [isPairOf_iff, isPairOf_iff, h.pairKey?_eq]
  rw [valueUnder_cons, valueUnder_cons, hcheck, h.value]

theorem valueUnder_cons_of_ne (h : pairKey? n ≠ some key) (ns : List Node) :
    valueUnder key (n :: ns) = valueUnder key ns := by
  rw [valueUnder_cons, if_neg (isPairOf_of_ne h)]

/-- What is no pair is passed over. -/
theorem valueUnder_skip {between : List Node} (h : ∀ n ∈ between, n.kind ≠ .pair)
    (ns : List Node) : valueUnder key (between ++ ns) = valueUnder key ns := by
  induction between with
  | nil => rfl
  | cons n between ih =>
    have hkey : pairKey? n ≠ some key := by
      rw [pairKey?, if_neg (h n List.mem_cons_self)]
      exact nofun
    rw [List.cons_append, valueUnder_cons_of_ne hkey]
    apply ih
    intro m hm
    exact h m (List.mem_cons_of_mem n hm)

theorem valueUnder_exchange {between after : List Node} {a b : Node}
    (hne : pairKey? a ≠ pairKey? b) (hbetween : ∀ n ∈ between, n.kind ≠ .pair) :
    valueUnder key (b :: (between ++ a :: after))
      = valueUnder key (a :: (between ++ b :: after)) := by
  rw [valueUnder_cons, valueUnder_cons, valueUnder_skip hbetween, valueUnder_skip hbetween,
    valueUnder_cons, valueUnder_cons]
  -- the key is at most one of theirs
  by_cases ha : isPairOf key a = true
  · have hb : ¬ isPairOf key b = true := by
      intro hb
      exact hne ((isPairOf_iff.mp ha).trans (isPairOf_iff.mp hb).symm)
    rw [if_pos ha, if_neg hb, if_pos ha]
  · rw [if_neg ha, if_neg ha]

/-- An edit leaves the value under each key that is looked up. -/
theorem valueUnder_of_edit (h : Edit keys ns ns') (hkey : key ∈ keys) :
    valueUnder key ns' = valueUnder key ns := by
  cases h with
  | insert hn => exact valueUnder_append_congr _ (valueUnder_cons_of_ne (hn key hkey) _)
  | delete hn => exact valueUnder_append_congr _ (valueUnder_cons_of_ne (hn key hkey) _).symm
  | exchange _ _ hne hbetween =>
    exact valueUnder_append_congr _ (valueUnder_exchange hne hbetween)
  | quote hquotes => exact valueUnder_append_congr _ (hquotes.valueUnder_eq _)
  | unquote hquotes => exact valueUnder_append_congr _ (hquotes.valueUnder_eq _).symm

theorem valueUnder_of_edits (h : Edits keys ns ns') (hkey : key ∈ keys) :
    valueUnder key ns' = valueUnder key ns := by
  induction h with
  | refl => rfl
  | tail _ hedit ih => exact (valueUnder_of_edit hedit hkey).trans ih

theorem property?_of_edits {object object' : Node}
    (h : Edits keys object.children object'.children) (hkey : key ∈ keys) :
    property? object' key = property? object key := by
  rw [property?_eq, property?_eq]
  exact valueUnder_of_edits h hkey

end Literal

/-! ### The options of a consumer -/

namespace Extract

open Literal

/-- The keys that a consumer marker looks up. -/
def optionKeys : List String := ["channel", "batch"]

/-- The second object literal is the first with edits that no option is touched by. -/
structure EditedOptions (options options' : Node) : Prop where
  kind : options.kind = .object
  kind' : options'.kind = .object
  edits : Edits optionKeys options.children options'.children

theorem head?_filter_object {m : Marker} {options : Node} {rest : List Node}
    (hargs : m.args = options :: rest) (hkind : options.kind = .object) :
    m.args.head?.filter (·.kind = .object) = some options := by
  rw [hargs, List.head?_cons, Option.filter_some, if_pos (decide_eq_true hkind)]

/-- There is a task exactly if the first channel is a text that can be folded and is not empty; the
first batch flag counts if it is a boolean literal. -/
theorem task_mem_taskOf_iff {m : Marker} {options : Node} {rest : List Node}
    (hargs : m.args = options :: rest) (hkind : options.kind = .object) (context : Context)
    (method : String) (line : Nat) (queue : String) (isBatch : Bool) :
    .task queue method context.className isBatch line ∈ taskOf context method line m ↔
      (valueUnder "channel" options.children).map fold = some (.ok queue) ∧ queue ≠ "" ∧
        isBatch = ((valueUnder "batch" options.children).bind boolean?).getD false := by
  unfold taskOf
  rw [head?_filter_object hargs hkind]
  simp only [property?_eq]
  cases valueUnder "channel" options.children with
  | none => simp [warnAt]
  | some channel =>
    cases hfold : fold channel with
    | error fault => simp [warnAt, hfold]
    | ok found =>
      by_cases hempty : found = ""
      case pos => simp +contextual [warnAt, hfold, hempty]
      case neg =>
        have hqueue : ∀ flag : Bool, queue = found ∧ isBatch = flag ↔
            found = queue ∧ ¬queue = "" ∧ isBatch = flag := by
          intro flag
          constructor
          · rintro ⟨rfl, hflag⟩
            exact ⟨rfl, hempty, hflag⟩
          · rintro ⟨rfl, -, hflag⟩
            exact ⟨rfl, hflag⟩
        cases valueUnder "batch" options.children with
        | none => simpa [hfold, hempty] using hqueue false
        | some value =>
          cases hboolean : boolean? value with
          | none => simpa [warnAt, hfold, hempty, hboolean] using hqueue false
          | some flag => simpa [hfold, hempty, hboolean] using hqueue flag

/-- The outcome of a consumer marker is the same after edits of its options. -/
theorem taskOf_of_edited {m m' : Marker} {options options' : Node} {rest rest' : List Node}
    (hname : m'.name = m.name) (hargs : m.args = options :: rest)
    (hargs' : m'.args = options' :: rest') (h : EditedOptions options options')
    (context : Context) (method : String) (line : Nat) :
    taskOf context method line m' = taskOf context method line m := by
  have hchannel : property? options' "channel" = property? options "channel" :=
    property?_of_edits h.edits (by decide)
  have hbatch : property? options' "batch" = property? options "batch" :=
    property?_of_edits h.edits (by decide)
  unfold taskOf
  rw [head?_filter_object hargs h.kind, head?_filter_object hargs' h.kind', hname]
  simp only [hchannel, hbatch]

end Extract

end DispatchGen
