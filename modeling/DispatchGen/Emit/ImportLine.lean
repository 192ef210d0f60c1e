/-
DispatchGen/Emit/ImportLine.lean

The import statements of a generated module.
-/
import DispatchGen.Config
import DispatchGen.Path.Clean
import DispatchGen.Table
import DispatchGen.Text.Binding
import DispatchGen.Text.Quoted

namespace DispatchGen.Emit

/-- Why a module cannot be generated. -/
inductive RenderError where
  /-- A configured name, and the role it plays, that is no binding name. -/
  | invalidName (role name : String)
  /-- A class of a record that no file declares. -/
  | unrecordedClass (name : String)
deriving DecidableEq, Repr

def RenderError.message : RenderError → String
  | invalidName role name => role ++ " `" ++ name ++ "` is not a valid identifier"
  | unrecordedClass name => "No module recorded for class " ++ name

/-- One import statement. -/
structure ImportLine where
  /-- The names bound, as written between braces or, for a default import,
  without them. -/
  names : String
  isDefault : Bool
  specifier : String
deriving DecidableEq, Repr, Inhabited

def ImportLine.text (l : ImportLine) : String :=
  let binding := if l.isDefault then l.names else "\x7b " ++ l.names ++ " \x7d"
  "import " ++ binding ++ " from " ++ Text.quote l.specifier ++ ";"

/-- The import of names that a module exports. -/
def ImportLine.named (names specifier : String) : ImportLine := ⟨names, false, specifier⟩

/-- `name`, if it can be spliced into code. -/
def checkName (role name : String) : Except RenderError Unit :=
  if Text.isBindingName name then .ok () else .error (.invalidName role name)

/-- The import of a project module, seen from the directory of the output. -/
def specifierOf (root outputDir module : Path) : String :=
  (root.join module).importSpecifier outputDir

/-- The directory of the generated file. -/
def outputDir (root output : Path) : Path := (root.join output).parent?.getD root

/-- The import of one class. -/
def classImport (imports : Imports) (root outputDir : Path) (name : String) :
    Except RenderError ImportLine :=
  match imports.get? name with
  | none => .error (.unrecordedClass name)
  | some c => .ok ⟨name, c.isDefault, specifierOf root outputDir c.module⟩

/-- The imports of the classes that a pipeline refers to, in order of name. -/
def classImports (t : Table) (p : Pipeline) (root outputDir : Path) :
    Except RenderError (List ImportLine) :=
  (t.referenced p).mapM (classImport t.imports root outputDir)

/-- The first lines of a generated module. -/
def heading (imports : List ImportLine) : List String :=
  "// Code generated by edgeroute-gen. DO NOT EDIT." :: imports.map ImportLine.text

end DispatchGen.Emit
