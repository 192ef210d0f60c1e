/-
DispatchGen/Toml/Value.lean

The values of a configuration document.  A table lists its keys in byte order.
A float is kept as the text that messages show, a date only as one.
-/

namespace DispatchGen.Toml

inductive Value where
  | string (s : String)
  | integer (n : Int)
  | float (shown : String)
  | boolean (b : Bool)
  | date
  | array (items : List Value)
  | table (entries : List (String × Value))
deriving Repr, Inhabited

end DispatchGen.Toml
