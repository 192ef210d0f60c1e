/-
DispatchGen/Route/Pattern.lean

The URL pattern a route is registered under.

A pattern is the concatenation of its segments with every run of `/` collapsed
to one and a leading `/` supplied, so it is never empty, starts with `/`, and
contains no `//`.
-/

namespace DispatchGen.Route

/-- `cs` without each `/` that follows another `/`; `slash` says whether one
stands before `cs`. -/
def collapse (slash : Bool) : List Char → List Char
  | [] => []
  | c :: cs => if c = '/' && slash then collapse true cs else c :: collapse (c = '/') cs

/-- The pattern for `raw`: one leading `/`, and no `/` twice in a row. -/
def normalizePattern (raw : String) : String :=
  String.ofList ('/' :: collapse true raw.toList)

/-- The pattern of segments written one after another. -/
def joinPattern (segments : List String) : String :=
  normalizePattern (String.join segments)

end DispatchGen.Route
