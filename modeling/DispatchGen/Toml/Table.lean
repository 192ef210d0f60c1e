/-
DispatchGen/Toml/Table.lean

Tables under construction.

While a document is read, a table remembers how it came about, because that
decides what may still be added to it: a table named by a header cannot be named
again, one that only lies on the way to another may be named once, and one made
by the dots of a key can be extended by such keys alone.  A key that holds a
value holds it for good.
-/
import DispatchGen.Toml.Value

namespace DispatchGen.Toml

/-- How a table came about. -/
inductive Origin where
  /-- It lies on the way to a table named by a header. -/
  | implied
  /-- By the dots of a key. -/
  | dotted
  /-- By a header of its own. -/
  | named
deriving DecidableEq, Repr

/-- What a key of a table under construction holds. -/
inductive Item where
  | value (v : Value)
  | table (origin : Origin) (entries : List (String × Item))
  /-- The tables that repeated double headers add, first to last. -/
  | tables (elements : List (List (String × Item)))
deriving Repr, Inhabited

abbrev Entries := List (String × Item)

namespace Entries

/-- Change what a key holds, keeping the keys in order; `f` may refuse. -/
def modify (key : String) (f : Option Item → Option Item) : Entries → Option Entries
  | [] => (f none).map fun item => [(key, item)]
  | (k, item) :: rest =>
      if k = key then (f (some item)).map fun changed => (k, changed) :: rest
      else if key < k then (f none).map fun added => (key, added) :: (k, item) :: rest
      else (modify key f rest).map ((k, item) :: ·)

/-- Change the last table of a list. -/
def modifyLast (f : Entries → Option Entries) : List Entries → Option (List Entries)
  | [] => none
  | [last] => (f last).map ([·])
  | first :: rest => (modifyLast f rest).map (first :: ·)

/-- Change the table that a header's keys lead to, through the last table of
each list of tables on the way. -/
def descend (f : Entries → Option Entries) : List String → Entries → Option Entries
  | [], entries => f entries
  | key :: keys, entries =>
      modify key (fun
        | none => (descend f keys []).map (.table .implied)
        | some (.table origin inner) => (descend f keys inner).map (.table origin)
        | some (.tables elements) => (modifyLast (descend f keys) elements).map .tables
        | some (.value _) => none) entries

/-- Give a key, dots and all, its value. -/
def assign (v : Value) : List String → Entries → Option Entries
  | [], _ => none
  | [key], entries =>
      modify key (fun
        | none => some (.value v)
        | some _ => none) entries
  | key :: keys, entries =>
      modify key (fun
        | none => (assign v keys []).map (.table .dotted)
        | some (.table .dotted inner) => (assign v keys inner).map (.table .dotted)
        | some (.table .implied inner) =>
            if keys.length = 1 then none else (assign v keys inner).map (.table .implied)
        | some _ => none) entries

/-- Open the table that a header names. -/
def openTable (path : List String) (entries : Entries) : Option Entries :=
  match path.getLast? with
  | none => none
  | some key =>
      descend (modify key fun
        | none => some (.table .named [])
        | some (.table .implied inner) => some (.table .named inner)
        | some _ => none) path.dropLast entries

/-- Add a table to the list that a double header names. -/
def openElement (path : List String) (entries : Entries) : Option Entries :=
  match path.getLast? with
  | none => none
  | some key =>
      descend (modify key fun
        | none => some (.tables [[]])
        | some (.tables elements) => some (.tables (elements ++ [[]]))
        | some _ => none) path.dropLast entries

end Entries

mutual

/-- The finished value of an item. -/
def Item.finish : Item → Value
  | .value v => v
  | .table _ entries => .table (finishEntries entries)
  | .tables elements => .array (finishElements elements)

def finishEntries : List (String × Item) → List (String × Value)
  | [] => []
  | (key, item) :: rest => (key, item.finish) :: finishEntries rest

def finishElements : List (List (String × Item)) → List Value
  | [] => []
  | entries :: rest => .table (finishEntries entries) :: finishElements rest

end

end DispatchGen.Toml
