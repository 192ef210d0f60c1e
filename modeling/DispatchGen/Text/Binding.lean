/-
DispatchGen/Text/Binding.lean

Which names may be spliced into generated code as they stand.
-/
import DispatchGen.Text.Letter

namespace DispatchGen.Text

/-- `_`, `$` or a letter. -/
def isBindingStart (c : Char) : Bool := c = '_' || c = '$' || isAlphabetic c

/-- `_`, `$`, a letter or a digit. -/
def isBindingPart (c : Char) : Bool := c = '_' || c = '$' || isAlphabetic c || isNumeric c

/-- Whether `name` may be emitted verbatim as a binding name. -/
def isBindingName (name : String) : Bool :=
  match name.toList with
  | [] => false
  | c :: cs => isBindingStart c && cs.all isBindingPart

end DispatchGen.Text
