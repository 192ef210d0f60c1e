/-
DispatchGen/Proofs/DiskWalk.lean

What a walk along a path depends on.

A walk sees the things at places only (`walk_cons`), and the walks that end are those
that take one rule after another, the rules being few: `Walks` is the relation, and
everything about walks that end is an induction on it.  So a walk starts from a
directory and never leaves the directories (`view_base_of_resolve`).  And it cannot pass
through a file: if two disks differ at one place only, and there each has a file or
nothing, then a path that leads somewhere on the one leads there on the other
(`resolve_of_sameBut`).

What is read by a path is what stands where the walk ends (`status_eq_file`,
`readText_iff`).
-/
import DispatchGen.Disk.Access
import DispatchGen.Proofs.DiskView
import DispatchGen.Proofs.SystemText

namespace DispatchGen.Disk

variable {d d' : Disk}

theorem walk_nil (d : Disk) (follow : Bool) (links : Nat) (place : Place) :
    d.walk follow links place [] = .ok (.directory place) := by
  cases links <;> rfl

/-- A walk that meets a name goes by the thing it stands for. -/
theorem walk_cons (d : Disk) (follow : Bool) (links : Nat) (place : Place) (piece : OsText)
    (rest : List OsText) :
    d.walk follow links place (piece :: rest)
      = if Path.isBlank piece then d.walk follow links place rest
        else if piece = Path.upName then d.walk follow links place.dropLast rest
        else
          match d.view (place ++ [piece]) with
          | none =>
              if rest.all (· = []) then .ok (.entry place piece (!rest.isEmpty))
              else .error .notFound
          | some (.file _) =>
              if rest.all (· = []) then .ok (.entry place piece (!rest.isEmpty))
              else .error .notADirectory
          | some .directory =>
              if rest.all (· = []) then .ok (.entry place piece (!rest.isEmpty))
              else d.walk follow links (place ++ [piece]) rest
          | some (.link target) =>
              if rest.all (· = []) && !follow then .ok (.entry place piece (!rest.isEmpty))
              else if target.raw = [] then .error .notFound
              else
                match links with
                | 0 => .error .tooManyLinks
                | links + 1 =>
                    d.walk follow links (if target.isAbsolute then [] else place)
                      (target.pieces ++ rest) := by
  rw [view_eq]
  cases links <;> rw [walk, walkTo] <;> cases d.get? (place ++ [piece]) with
  | none => rfl
  | some e => cases e <;> rfl

/-- The walks that end: by pieces from a directory, through at most a number of links, in `spot`.
There is a rule for each way that a walk takes.  The links that it goes through are at places
with the property `via`. -/
inductive Walks (d : Disk) (via : Place → Prop) (follow : Bool) (spot : Spot) :
    Nat → Place → List OsText → Prop where
  | done {links : Nat} {place : Place} (hspot : spot = .directory place) :
      Walks d via follow spot links place []
  | blank {links : Nat} {place : Place} {piece : OsText} {rest : List OsText}
      (hblank : Path.isBlank piece = true) (h : Walks d via follow spot links place rest) :
      Walks d via follow spot links place (piece :: rest)
  | up {links : Nat} {place : Place} {rest : List OsText}
      (h : Walks d via follow spot links place.dropLast rest) :
      Walks d via follow spot links place (Path.upName :: rest)
  /-- The last name stands for anything but a link that is to be followed. -/
  | last {links : Nat} {place : Place} {piece : OsText} {rest : List OsText}
      (hblank : ¬ Path.isBlank piece = true) (hup : piece ≠ Path.upName)
      (hrest : rest.all (· = []) = true)
      (hlink : follow = true → ∀ target, d.view (place ++ [piece]) ≠ some (.link target))
      (hspot : spot = .entry place piece (!rest.isEmpty)) :
      Walks d via follow spot links place (piece :: rest)
  | down {links : Nat} {place : Place} {piece : OsText} {rest : List OsText}
      (hblank : ¬ Path.isBlank piece = true) (hup : piece ≠ Path.upName)
      (hrest : ¬ rest.all (· = []) = true) (hthing : d.view (place ++ [piece]) = some .directory)
      (h : Walks d via follow spot links (place ++ [piece]) rest) :
      Walks d via follow spot links place (piece :: rest)
  | link {links : Nat} {place : Place} {piece : OsText} {rest : List OsText} {target : Path}
      (hblank : ¬ Path.isBlank piece = true) (hup : piece ≠ Path.upName)
      (hfollow : rest.all (· = []) = true → follow = true)
      (hthing : d.view (place ++ [piece]) = some (.link target)) (htext : target.raw ≠ [])
      (hvia : via (place ++ [piece]))
      (h : Walks d via follow spot links (if target.isAbsolute then [] else place)
        (target.pieces ++ rest)) :
      Walks d via follow spot (links + 1) place (piece :: rest)

/-- A walk that ends takes one rule after another. -/
theorem walk_eq_ok {follow : Bool} {spot : Spot} {links : Nat} {place : Place}
    {pieces : List OsText} :
    d.walk follow links place pieces = .ok spot ↔
      Walks d (fun _ => True) follow spot links place pieces := by
  constructor
  · intro h
    induction links using Nat.strongRecOn generalizing place pieces with
    | _ links ihLinks =>
      induction pieces generalizing place with
      | nil =>
        rw [walk_nil] at h
        exact .done (Except.ok.inj h).symm
      | cons piece rest ih =>
        rw [walk_cons] at h
        split at h
        case isTrue hblank => exact .blank hblank (ih h)
        case isFalse hblank =>
          split at h
          case isTrue hup => exact hup ▸ .up (ih h)
          case isFalse hup =>
            -- by the thing at the name, and by whether the name is the last
            split at h <;> rename_i hthing <;> split at h
            case h_1.isTrue hrest =>
              exact .last hblank hup hrest (by simp [hthing]) (Except.ok.inj h).symm
            case h_2.isTrue hrest =>
              exact .last hblank hup hrest (by simp [hthing]) (Except.ok.inj h).symm
            case h_3.isTrue hrest =>
              exact .last hblank hup hrest (by simp [hthing]) (Except.ok.inj h).symm
            case h_3.isFalse hrest => exact .down hblank hup hrest hthing (ih h)
            case h_4.isTrue hrest =>
              rw [Bool.and_eq_true, Bool.not_eq_true'] at hrest
              exact .last hblank hup hrest.1 (by simp [hrest.2]) (Except.ok.inj h).symm
            case h_4.isFalse target hrest =>
              split at h
              case isTrue => cases h
              case isFalse htext =>
                cases links with
                | zero => cases h
                | succ links =>
                  exact .link hblank hup (by simpa using hrest) hthing htext trivial
                    (ihLinks links links.lt_succ_self h)
            all_goals cases h
  · intro h
    induction h with
    | done hspot => rw [walk_nil, hspot]
    | blank hblank _ ih => rw [walk_cons, if_pos hblank, ih]
    | up _ ih => rw [walk_cons, if_neg (by decide), if_pos rfl, ih]
    | last hblank hup hrest hlink hspot =>
      rw [walk_cons, if_neg hblank, if_neg hup]
      split
      case h_4 target hthing =>
        have hfollow : follow = false := by
          by_contra hnot
          exact hlink (by simpa using hnot) target hthing
        rw [if_pos (by simp [hrest, hfollow]), hspot]
      all_goals rw [if_pos hrest, hspot]
    | down hblank hup hrest hthing _ ih =>
      rw [walk_cons, if_neg hblank, if_neg hup, hthing]
      exact (if_neg hrest).trans ih
    | link hblank hup hfollow hthing htext _ _ ih =>
      rw [walk_cons, if_neg hblank, if_neg hup, hthing]
      exact (if_neg (by simpa using hfollow)).trans ((if_neg htext).trans ih)

/-! ### Staying in directories -/

/-- The directory that a walk ends in. -/
def Spot.base : Spot → Place
  | .directory place => place
  | .entry parent _ _ => parent

theorem view_root (d : Disk) : d.view [] = some .directory := by
  simp [view, Entry.thing]

theorem view_dropLast {place : Place} (h : d.view place = some .directory) :
    d.view place.dropLast = some .directory := by
  rcases List.eq_nil_or_concat place with rfl | ⟨parent, name, rfl⟩
  · exact h
  · rw [List.concat_eq_append, List.dropLast_concat]
    by_contra hparent
    rw [List.concat_eq_append, view, Entry.view_append_of_not_directory hparent] at h
    cases h

/-- A link leads on from the root or from the directory it is in. -/
theorem view_linkStart {place : Place} (h : d.view place = some .directory) (absolute : Bool) :
    d.view (if absolute then [] else place) = some .directory := by
  cases absolute with
  | false => exact h
  | true => exact d.view_root

/-- A walk from a directory ends in a directory. -/
theorem Walks.view_base {via : Place → Prop} {follow : Bool} {links : Nat} {place : Place}
    {pieces : List OsText} {spot : Spot} (h : Walks d via follow spot links place pieces)
    (hplace : d.view place = some .directory) : d.view spot.base = some .directory := by
  induction h with
  | done hspot => rw [hspot]; exact hplace
  | blank _ _ ih => exact ih hplace
  | up _ ih => exact ih (view_dropLast hplace)
  | last _ _ _ _ hspot => rw [hspot]; exact hplace
  | down _ _ _ hthing _ ih => exact ih hthing
  | link _ _ _ _ _ _ _ ih => exact ih (view_linkStart hplace _)

/-- A path resolves by a walk from a directory. -/
theorem resolve_eq_ok {follow : Bool} {p : Path} {spot : Spot} :
    d.resolve follow p = .ok spot ↔
      p.raw ≠ [] ∧ p.raw.contains 0 = false ∧
      d.view (if p.isAbsolute then [] else d.current) = some .directory ∧
      d.walk follow linkBudget (if p.isAbsolute then [] else d.current) p.pieces = .ok spot := by
  simp only [resolve, view_eq_directory]
  generalize (if p.isAbsolute then [] else d.current) = start
  by_cases hempty : p.raw = []
  · simp [hempty]
  · rw [if_neg hempty]
    by_cases hnul : p.raw.contains 0 = true
    · rw [if_pos hnul, hnul]
      simp
    · rw [if_neg hnul]
      simp only [Bool.not_eq_true] at hnul
      cases hstart : d.get? start with
      | none => simp
      | some e =>
        cases e with
        | directory entries =>
          exact ⟨fun h => ⟨hempty, hnul, ⟨entries, rfl⟩, h⟩, fun h => h.2.2.2⟩
        | file bytes => simp
        | link target => simp

/-- The directory that a path leads into is there. -/
theorem view_base_of_resolve {follow : Bool} {p : Path} {spot : Spot}
    (h : d.resolve follow p = .ok spot) : d.view spot.base = some .directory := by
  obtain ⟨-, -, hstart, hwalk⟩ := resolve_eq_ok.mp h
  exact (walk_eq_ok.mp hwalk).view_base hstart

/-! ### Disks that differ at one place -/

/-- A file, or nothing. -/
def Solid : Option Thing → Prop
  | none => True
  | some (.file _) => True
  | _ => False

theorem Solid.ne_directory {thing : Option Thing} (h : Solid thing) : thing ≠ some .directory := by
  rintro rfl
  exact h

theorem Solid.ne_link {thing : Option Thing} (h : Solid thing) (target : Path) :
    thing ≠ some (.link target) := by
  rintro rfl
  exact h

/-- Two disks that differ at one place at most, where each has a file or nothing. -/
structure SameBut (out : Place) (d d' : Disk) : Prop where
  view : ∀ place, place ≠ out → d'.view place = d.view place
  solid : Solid (d.view out)
  solid' : Solid (d'.view out)
  current : d'.current = d.current

/-- Whether a walk ends at a place by naming it. -/
def Spot.Names (out : Place) : Spot → Prop
  | .directory _ => False
  | .entry parent name _ => parent ++ [name] = out

/-- A walk that ends on a disk with a file or nothing at a place ends in the same way on a disk
that differs there only: it meets that place with its last name, if at all. -/
theorem Walks.of_solid {out : Place} (hview : ∀ place, place ≠ out → d'.view place = d.view place)
    (hsolid : Solid (d.view out)) {via : Place → Prop} {follow follow' : Bool} {spot : Spot}
    (hfollow : follow' = follow ∨ follow = false ∧ spot.Names out)
    (hout : follow' = true → spot.Names out → ∀ target, d'.view out ≠ some (.link target))
    {links : Nat} {place : Place} {pieces : List OsText}
    (h : Walks d via follow spot links place pieces) :
    Walks d' via follow' spot links place pieces := by
  induction h with
  | done hspot => exact .done hspot
  | blank hblank _ ih => exact .blank hblank ih
  | up _ ih => exact .up ih
  | @last _ place piece _ hblank hup hrest hlink hspot =>
    refine .last hblank hup hrest (fun htrue target => ?_) hspot
    have hnames : spot.Names out ↔ place ++ [piece] = out := by rw [hspot, Spot.Names]
    by_cases heq : place ++ [piece] = out
    · rw [heq]
      exact hout htrue (hnames.mpr heq) target
    · rw [hview _ heq]
      rcases hfollow with hsame | ⟨-, hnamed⟩
      · exact hlink (hsame.symm.trans htrue) target
      · exact absurd (hnames.mp hnamed) heq
  | @down _ place piece _ hblank hup hrest hthing _ ih =>
    have hne : place ++ [piece] ≠ out := fun heq => hsolid.ne_directory (heq ▸ hthing)
    exact .down hblank hup hrest ((hview _ hne).trans hthing) ih
  | @link _ place piece _ target hblank hup hlast hthing htext hvia _ ih =>
    have hne : place ++ [piece] ≠ out := fun heq => hsolid.ne_link target (heq ▸ hthing)
    refine .link hblank hup (fun hrest => ?_) ((hview _ hne).trans hthing) htext hvia ih
    rcases hfollow with hsame | ⟨hfalse, -⟩
    · exact hsame ▸ hlast hrest
    · exact absurd (hfalse ▸ hlast hrest) Bool.false_ne_true

/-- A path that leads somewhere on one of two disks that differ at one place leads
there on the other; if it leads to that place, even with its last name followed. -/
theorem resolve_of_sameBut {out : Place} (hsame : SameBut out d d') {follow : Bool} {p : Path}
    {spot : Spot} (hfollow : follow = true → spot.Names out)
    (h : d.resolve false p = .ok spot) : d'.resolve follow p = .ok spot := by
  obtain ⟨hempty, hnul, hstart, hwalk⟩ := resolve_eq_ok.mp h
  refine resolve_eq_ok.mpr ⟨hempty, hnul, ?_, ?_⟩
  · rw [hsame.current, hsame.view, hstart]
    rintro rfl
    have hsolid := hsame.solid
    rw [hstart] at hsolid
    exact hsolid
  · rw [hsame.current]
    refine walk_eq_ok.mpr ((walk_eq_ok.mp hwalk).of_solid hsame.view hsame.solid ?_ ?_)
    · cases follow with
      | false => exact .inl rfl
      | true => exact .inr ⟨rfl, hfollow rfl⟩
    · exact fun _ _ => hsame.solid'.ne_link

/-! ### What a path leads to -/

/-- The place that a walk ends at. -/
def Spot.place : Spot → Place
  | .directory place => place
  | .entry parent name _ => parent ++ [name]

theorem allow_eq_ok {op : Operation} {u : Unit} : d.allow op = .ok u ↔ d.refusal op = none := by
  unfold allow
  cases d.refusal op <;> simp

/-- A path leads to a directory if a spot that it comes to holds one. -/
theorem directory?_eq_some {p : Path} {entries : List (OsText × Entry)} :
    d.directory? p = some entries ↔
      ∃ spot, d.resolve true p = .ok spot ∧ d.get? spot.place = some (.directory entries) := by
  unfold directory? status
  cases hresolve : d.resolve true p with
  | error fault => simp [bind, Except.bind]
  | ok spot =>
    simp only [bind, Except.bind]
    cases spot with
    | directory place =>
      cases hget : d.get? place with
      | none => simp [Spot.place, hget]
      | some e => cases e <;> simp [Spot.place, hget, pure, Except.pure]
    | entry parent name slashed =>
      cases hget : d.get? (parent ++ [name]) with
      | none => simp [Spot.place, hget]
      | some e =>
        cases e with
        | file bytes => cases slashed <;> simp [Spot.place, hget, pure, Except.pure]
        | link target => simp [Spot.place, hget, pure, Except.pure]
        | directory es => simp [Spot.place, hget, pure, Except.pure]

/-- A path leads to a file if it comes to an entry that is one. -/
theorem status_eq_file {p : Path} {bytes : ByteArray} :
    d.status p = .ok (.file bytes) ↔
      ∃ parent name, d.resolve true p = .ok (.entry parent name false) ∧
        d.get? (parent ++ [name]) = some (.file bytes) := by
  unfold status
  cases hresolve : d.resolve true p with
  | error fault => simp [bind, Except.bind]
  | ok spot =>
    simp only [bind, Except.bind]
    cases spot with
    | directory place =>
      -- the path ends in a directory, so there is no file
      have hbase := view_base_of_resolve hresolve
      obtain ⟨entries, hentries⟩ := view_eq_directory.mp hbase
      have hentries : d.get? place = some (.directory entries) := hentries
      simp [hentries, pure, Except.pure]
    | entry parent name slashed =>
      cases hget : d.get? (parent ++ [name]) with
      | none => simp [hget]
      | some e =>
        cases e with
        | file found => cases slashed <;> simp [hget, pure, Except.pure, and_assoc]
        | link target => simp [hget, pure, Except.pure]
        | directory es => simp [hget, pure, Except.pure]

/-- A path reads as a text if it leads to a file with just the bytes of the text. -/
theorem readText_iff {p : Path} {text : String} :
    d.readText p = .ok text ↔
      d.refusal (.read p) = none ∧ d.status p = .ok (.file text.toUTF8) := by
  unfold readText allow
  cases hrefusal : d.refusal (.read p) with
  | some fault => simp [bind, Except.bind]
  | none =>
    cases hstatus : d.status p with
    | error fault => simp [bind, Except.bind]
    | ok e =>
      cases e with
      | link target => simp [bind, Except.bind]
      | directory entries => simp [bind, Except.bind]
      | file bytes =>
        simp only [bind, Except.bind, true_and, Except.ok.injEq, Entry.file.injEq,
          ← OsText.fromUTF8?_eq_some]
        cases String.fromUTF8? bytes <;> simp [pure, Except.pure]

end DispatchGen.Disk
