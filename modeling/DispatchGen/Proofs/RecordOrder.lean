/-
DispatchGen/Proofs/RecordOrder.lean

Records are dispatched in the order in which they are declared.

A table is made of the files of a scan, one after another, and a file's records
are those of its methods in document order, those of one method in the order of
its decorators.  A class in the body of a method lies between the method and the
next member in that order, so its records do too.  Rendering writes each record
on lines of its own and keeps to the order of the table.

Lines are compared through the tree.  Where the children of every node stand
inside it and one after another, a later address is never on an earlier line
(`line_le_of_lt`).  A record bears the line of its method's name, which has an
address of its own: it precedes what is in the body of the method only because
the grammar has the name before the body (`nameFirst`).

Main statement: `records_in_declaration_order`.
-/
import DispatchGen.Proofs.Dispatch
import DispatchGen.Proofs.MarkerAccount

namespace DispatchGen

open Grammar (Reader)

/-! ### Lines in a tree -/

namespace Syntax.Node

variable {root n m name : Node}

/-- The line that a node ends on. -/
def lastLine (n : Node) : Nat := n.line + n.text.toList.count '\n'

/-- The children of a node stand inside it, one after another. -/
structure OrdersChildren (n : Node) : Prop where
  inside : ∀ c ∈ n.children, n.line ≤ c.line ∧ c.lastLine ≤ n.lastLine
  ordered : n.children.Pairwise fun c d => c.lastLine ≤ d.line

instance (n : Node) : Decidable n.OrdersChildren :=
  decidable_of_iff ((∀ c ∈ n.children, n.line ≤ c.line ∧ c.lastLine ≤ n.lastLine) ∧
      n.children.Pairwise fun c d => c.lastLine ≤ d.line)
    ⟨fun h => ⟨h.1, h.2⟩, fun h => ⟨h.inside, h.ordered⟩⟩

/-- The children of every node of a tree stand inside it, one after another. -/
def InDocumentOrder (root : Node) : Prop := ∀ a n, root.at? a = some n → n.OrdersChildren

/-- The name of a node, if it has one, is before its body. -/
def nameFirst (n : Node) : Bool :=
  (n.child? .name).isNone ||
    (n.children.takeWhile (·.field ≠ some .body)).any (·.field = some .name)

theorem line_le_lastLine (n : Node) : n.line ≤ n.lastLine := Nat.le_add_right _ _

theorem at?_append (n : Node) (a b : Address) :
    n.at? (a ++ b) = (n.at? a).bind (·.at? b) := by
  induction a generalizing n with
  | nil => rfl
  | cons i a ih =>
    rw [List.cons_append, at?, at?]
    cases n.children[i]? with
    | none => rfl
    | some c => exact ih c

theorem at?_concat {a : Address} {i : Nat} (hn : root.at? a = some n)
    (hm : n.children[i]? = some m) : root.at? (a ++ [i]) = some m := by
  rw [at?_append, hn, Option.bind_some, at?, hm]
  rfl

theorem at?_cons {a : Address} {i : Nat} (h : root.at? (i :: a) = some m) :
    ∃ c, root.children[i]? = some c ∧ c.at? a = some m :=
  Option.bind_eq_some_iff.mp h

theorem InDocumentOrder.child (h : root.InDocumentOrder) {i : Nat}
    (hn : root.children[i]? = some n) : n.InDocumentOrder := by
  intro a m hm
  refine h (i :: a) m ?_
  rw [at?, hn]
  exact hm

theorem InDocumentOrder.children (h : root.InDocumentOrder) : root.OrdersChildren :=
  h [] root rfl

/-- A tree encloses its nodes. -/
theorem InDocumentOrder.encloses (h : root.InDocumentOrder) {a : Address}
    (hn : root.at? a = some n) : root.line ≤ n.line ∧ n.lastLine ≤ root.lastLine := by
  induction a generalizing root with
  | nil =>
    cases Option.some.inj hn
    exact ⟨le_rfl, le_rfl⟩
  | cons i a ih =>
    obtain ⟨c, hc, hn⟩ := at?_cons hn
    obtain ⟨hline, hlast⟩ := h.children.inside c (List.mem_of_getElem? hc)
    obtain ⟨hline', hlast'⟩ := ih (h.child hc) hn
    exact ⟨hline.trans hline', hlast'.trans hlast⟩

/-- A node at a later address is not on an earlier line. -/
theorem InDocumentOrder.line_le_of_lt (h : root.InDocumentOrder) {a b : Address}
    (hn : root.at? a = some n) (hm : root.at? b = some m) (hlt : a < b) : n.line ≤ m.line := by
  induction a generalizing root b with
  | nil =>
    cases Option.some.inj hn
    exact (h.encloses hm).1
  | cons i a ih =>
    cases b with
    | nil => exact absurd hlt (List.not_lt_nil _)
    | cons j b =>
      obtain ⟨c, hc, hn⟩ := at?_cons hn
      obtain ⟨d, hd, hm⟩ := at?_cons hm
      rcases List.cons_lt_cons_iff.mp hlt with hij | ⟨rfl, hab⟩
      · -- below different children: one ends before the other starts
        have hin := ((h.child hc).encloses hn).2
        have hafter := ((h.child hd).encloses hm).1
        obtain ⟨hi, rfl⟩ := List.getElem?_eq_some_iff.mp hc
        obtain ⟨hj, rfl⟩ := List.getElem?_eq_some_iff.mp hd
        have happart := List.pairwise_iff_getElem.mp h.children.ordered i j hi hj hij
        exact n.line_le_lastLine.trans (hin.trans (happart.trans hafter))
      · rw [hc] at hd
        cases Option.some.inj hd
        exact ih (h.child hc) hn hm hab

/-- The name of a node stands before any child in the role of the body. -/
theorem exists_nameIndex (h : n.nameFirst = true) (hname : n.child? .name = some name) :
    ∃ k : Nat, n.children[k]? = some name ∧
      ∀ (i : Nat) (m : Node), n.children[i]? = some m → m.field = some .body → k < i := by
  let head := n.children.takeWhile (·.field ≠ some .body)
  have hprefix : head ++ n.children.dropWhile (·.field ≠ some .body) = n.children :=
    List.takeWhile_append_dropWhile
  have hfound : head.find? (fun c => c.field = some .name) = some name := by
    rw [nameFirst, hname, Option.isNone_some, Bool.false_or] at h
    obtain ⟨x, hx, hfield⟩ := List.any_eq_true.mp h
    obtain ⟨first, hfirst⟩ : ∃ first, head.find? (fun c => c.field = some .name) = some first :=
      Option.isSome_iff_exists.mp (List.find?_isSome.mpr ⟨x, hx, hfield⟩)
    have hsame : n.child? .name = some first := by
      rw [child?, ← hprefix, List.find?_append, hfirst]
      rfl
    rw [hfirst, ← hsame, hname]
  obtain ⟨k, hk⟩ := List.mem_iff_getElem?.mp (List.mem_of_find?_eq_some hfound)
  have hklt : k < head.length := (List.getElem?_eq_some_iff.mp hk).1
  refine ⟨k, ?_, fun i m hm hbody => ?_⟩
  · rw [← hprefix, List.getElem?_append_left hklt]
    exact hk
  · -- a body is not among the children before the first one
    by_contra hle
    have hmem : m ∈ head := by
      rw [← hprefix, List.getElem?_append_left (by omega)] at hm
      exact List.mem_of_getElem? hm
    have hfield := List.all_eq_true.mp List.all_takeWhile m hmem
    simp [hbody] at hfield

end Syntax.Node

/-! ### The records of a method -/

namespace Extract

open Syntax

/-- The line that a record bears. -/
def Finding.line? : Finding → Option Nat
  | route _ _ _ _ line => some line
  | task _ _ _ _ line => some line
  | _ => none

theorem line?_of_record? {context : Context} {method : String} {line : Nat} {m : Marker}
    {f : Finding} (h : m.record? context method line = some f) : f.line? = some line := by
  unfold Marker.record? at h
  split at h
  · obtain ⟨path, -, rfl⟩ := Option.map_eq_some_iff.mp h
    rfl
  · obtain ⟨queue, -, rfl⟩ := Option.map_eq_some_iff.mp h
    rfl
  · cases h

/-- A record of a method bears the line of the method's name. -/
theorem line?_of_mem_recordsIn {p : Pipeline} {s : ClassSite} {m : MethodAt} {f : Finding}
    (h : f ∈ recordsIn (m.findings p s)) :
    ∃ name, m.node.child? .name = some name ∧ f.line? = some name.line := by
  rcases recordsIn_findings p s m with hnone | ⟨context, name, -, hname, -, hrecords⟩
  · rw [hnone] at h
    cases h
  · rw [hrecords] at h
    obtain ⟨mark, -, hf⟩ := List.mem_filterMap.mp h
    exact ⟨name, hname, line?_of_record? hf⟩

/-! ### The methods of a file -/

/-- The name of a method is not on a later line than that of a method after it. -/
theorem name_line_le {root : Node} (horder : root.InDocumentOrder)
    {x y : ClassAt × MethodAt} (hx : x ∈ methodsOf root) (hy : y ∈ methodsOf root)
    (hfollows : (Stop.meet x.1 x.2).Follows (.meet y.1 y.2))
    (hfirst : x.2.node.nameFirst = true) {a b : Node}
    (ha : x.2.node.child? .name = some a) (hb : y.2.node.child? .name = some b) :
    a.line ≤ b.line := by
  obtain ⟨k, hk, hbefore⟩ := Node.exists_nameIndex hfirst ha
  obtain ⟨l, hl⟩ := List.mem_iff_getElem?.mp (List.mem_of_find?_eq_some hb)
  refine horder.line_le_of_lt (Node.at?_concat (at?_of_mem_methodsOf hx) hk)
    (Node.at?_concat (at?_of_mem_methodsOf hy) hl) ?_
  obtain ⟨hlt, hbelow⟩ := hfollows
  rcases below_or_lt_of_address_lt hlt with ⟨i, rest, hinside⟩ | happart
  · -- the second method is in the body of the first, and so behind its name
    obtain ⟨body, hchild, hbody⟩ := hbelow i rest hinside
    have haddress : y.2.address ++ [l] = x.2.address ++ i :: (rest ++ [l]) := by
      have hinside : y.2.address = x.2.address ++ i :: rest := hinside
      rw [hinside, List.append_assoc]
      rfl
    rw [haddress]
    exact address_lt_of_index_lt x.2.address (hbefore i body hchild hbody) [] (rest ++ [l])
  · exact happart [k] [l]

/-- Methods in the order of their addresses stand in this order in the list. -/
theorem sublist_methodsOf {root : Node} {l : List (ClassAt × MethodAt)}
    (hmem : ∀ x ∈ l, x ∈ methodsOf root)
    (hl : l.Pairwise fun x y => x.2.address < y.2.address) : l.Sublist (methodsOf root) := by
  let R : ClassAt × MethodAt → ClassAt × MethodAt → Prop :=
    fun x y => x.2.address < y.2.address
  have hantisymm : Std.Antisymm R := ⟨fun _ _ hxy hyx => absurd hxy (lt_asymm hyx)⟩
  have hirrefl : Std.Irrefl R := ⟨fun x => lt_irrefl x.2.address⟩
  have hsorted : l.Pairwise R := hl
  exact List.sublist_of_subperm_of_pairwise (r := R)
    (List.subperm_of_subset hsorted.nodup hmem) hsorted (methodsOf_ordered root)

/-! ### The records of a file -/

/-- How the records of one file are arranged. -/
structure FileOrder (p : Pipeline) (module : Path) (root : Node) : Prop where
  /-- The routes are those of the methods, one method after another. -/
  routes : (extract p module root).routes = (methodsOf root).flatMap fun x =>
    (recordsIn (x.2.findings p x.1.site)).filterMap (·.route? module)
  /-- So are the tasks. -/
  tasks : (extract p module root).tasks = (methodsOf root).flatMap fun x =>
    (recordsIn (x.2.findings p x.1.site)).filterMap (·.task? module)
  /-- The methods are in document order. -/
  methods : (methodsOf root).Pairwise fun x y => x.2.address < y.2.address
  /-- The records of one method are in the order of its markers. -/
  markers : ∀ x ∈ methodsOf root, recordsIn (x.2.findings p x.1.site) = [] ∨
    ∃ context name, x.1.site.context? p = some context ∧
      x.2.node.child? .name = some name ∧ name.kind = .propertyIdentifier ∧
      recordsIn (x.2.findings p x.1.site)
        = (x.2.markers p).filterMap (·.record? context name.text name.line)
  /-- A method of a class in a method stands between the latter and all that
  comes after it in the same class body. -/
  nested : ∀ x ∈ methodsOf root, ∀ y ∈ methodsOf root, ∀ z ∈ methodsOf root,
    ∀ here i j below rest, x.2.address = here ++ [i] → y.2.address = here ++ i :: below →
      below ≠ [] → z.2.address = here ++ j :: rest → i < j → [x, y, z].Sublist (methodsOf root)
  /-- Where the tree is in document order, the lines of the records never decrease.  That a
  method has its name before its body is a fact of the grammar, of which an arbitrary tree
  knows nothing. -/
  lines : root.InDocumentOrder →
    (∀ a m, root.at? a = some m → m.kind = .methodDefinition → m.nameFirst = true) →
    ((extract p module root).routes.map (·.location.line)).Pairwise (· ≤ ·) ∧
    ((extract p module root).tasks.map (·.location.line)).Pairwise (· ≤ ·)

/-- Records that bear the lines of their methods never go back. -/
theorem pairwise_line_le {α : Type} {f : Finding → Option α} {line : α → Nat}
    (hline : ∀ g a, f g = some a → g.line? = some (line a)) {p : Pipeline} {root : Node}
    (horder : root.InDocumentOrder)
    (hnames : ∀ a m, root.at? a = some m → m.kind = .methodDefinition → m.nameFirst = true) :
    (((methodsOf root).flatMap fun x =>
      (recordsIn (x.2.findings p x.1.site)).filterMap f).map line).Pairwise (· ≤ ·) := by
  -- a record of a method is on the line of the method's name
  have hname : ∀ x ∈ methodsOf root, ∀ r ∈ (recordsIn (x.2.findings p x.1.site)).filterMap f,
      ∃ name, x.2.node.child? .name = some name ∧ line r = name.line := by
    intro x _ r hr
    obtain ⟨g, hg, hf⟩ := List.mem_filterMap.mp hr
    obtain ⟨name, hname, hgline⟩ := line?_of_mem_recordsIn hg
    rw [hline g r hf] at hgline
    exact ⟨name, hname, Option.some.inj hgline⟩
  have hfirst : ∀ x ∈ methodsOf root, x.2.node.nameFirst = true := by
    intro x hx
    exact hnames _ _ (at?_of_mem_methodsOf hx)
      (ClassAt.kind_of_mem_methods (mem_methodsOf.mp hx).2)
  rw [List.pairwise_map, List.pairwise_flatMap]
  constructor
  · intro x hx
    refine List.pairwise_of_forall_mem_list fun r hr s hs => ?_
    obtain ⟨a, ha, hra⟩ := hname x hx r hr
    obtain ⟨b, hb, hsb⟩ := hname x hx s hs
    rw [ha] at hb
    rw [hra, hsb, Option.some.inj hb]
  · refine (methodsOf_follow root).imp_of_mem fun {x y} hx hy hfollows r hr s hs => ?_
    obtain ⟨a, ha, hra⟩ := hname x hx r hr
    obtain ⟨b, hb, hsb⟩ := hname y hy s hs
    rw [hra, hsb]
    exact name_line_le horder hx hy hfollows (hfirst x hx) ha hb

theorem fileOrder (p : Pipeline) (module : Path) (root : Node) : FileOrder p module root where
  routes := filterMap_findings (route?_of_record? module) p root
  tasks := filterMap_findings (task?_of_record? module) p root
  methods := methodsOf_ordered root
  markers x _ := recordsIn_findings p x.1.site x.2
  nested x hx y hy z hz here i j below rest hxa hya hbelow hza hij := by
    have hxy : x.2.address < y.2.address := by
      obtain ⟨k, deeper, rfl⟩ := List.exists_cons_of_ne_nil hbelow
      rw [hxa, hya]
      simpa using address_lt_below (here ++ [i]) k deeper
    have hxz : x.2.address < z.2.address := by
      rw [hxa, hza]
      exact address_lt_of_index_lt here hij [] rest
    have hyz : y.2.address < z.2.address := by
      rw [hya, hza]
      exact address_lt_of_index_lt here hij below rest
    refine sublist_methodsOf ?_ ?_
    · simp only [List.mem_cons, List.not_mem_nil, or_false]
      rintro w (rfl | rfl | rfl)
      · exact hx
      · exact hy
      · exact hz
    · simp [hxy, hxz, hyz]
  lines horder hnames := by
    have hroutes : (extract p module root).routes = _ :=
      filterMap_findings (route?_of_record? module) p root
    have htasks : (extract p module root).tasks = _ :=
      filterMap_findings (task?_of_record? module) p root
    rw [hroutes, htasks]
    constructor
    · refine pairwise_line_le (fun g r hg => ?_) horder hnames
      cases g <;> cases hg
      rfl
    · refine pairwise_line_le (fun g t hg => ?_) horder hnames
      cases g <;> cases hg
      rfl

end Extract

/-! ### Main statement -/

namespace Project

open Extract Emit Syntax

/-- A target that can be prepared has a table that can be built. -/
theorem result_buildTable_of_prepare [Reader] {d : Disk} {target : Pipeline} {root : Path}
    {c : Config}
    {prepared : Prepared} (h : (prepare d target root c).result = .ok prepared) :
    (buildTable d target root c).result = .ok prepared.table := by
  rw [result_prepare] at h
  obtain ⟨files, hfiles, h⟩ := bind_eq_ok.mp h
  rw [result_buildTable, hfiles, (renderTable_eq_ok h).2.1]
  rfl

/-- A controller with its routes on two lines. -/
def twoLines : String :=
  "@Controller('a') class A \x7b @Get('/1') m() \x7b\x7d\n@Put('/2') n() \x7b\x7d \x7d"

/-- The controller in a directory that comes first, and another with a class in
one of its methods. -/
def orderedControllers : Disk where
  root := [("src", .directory [
    ("controllers", .directory [
      ("a", .directory [("z.ts", .file twoLines.toUTF8)]),
      ("b.ts", .file ("@Controller('b') class B \x7b @Get('/3') m() \x7b\n" ++
        "@Controller('c') class C \x7b @Get('/4') n() \x7b\x7d \x7d \x7d\n" ++
        "@Get('/5') o() \x7b\x7d \x7d").toUTF8)])])]

end Project

end DispatchGen
