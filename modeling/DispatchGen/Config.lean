/-
DispatchGen/Config.lean

The configuration of a project: what is scanned, what is generated, and the
names that the generated code imports.  Every setting has a default.
-/
import DispatchGen.Record

namespace DispatchGen

/-- A named export that the router registers before any route. -/
structure Middleware where
  name : String
  path : Path
deriving DecidableEq, Repr, Inhabited

structure HttpTarget where
  enabled : Bool := true
  sourceDir : Path := ⟨"src/controllers"⟩
  output : Path := ⟨"src/generated/router.ts"⟩
  routerPackage : String := "itty-router"
  containerPackage : String := "tsyringe"
  containerType : String := "DependencyContainer"
  healthPath : String := "/ping"
  middleware : List Middleware :=
    [⟨"cors", ⟨"src/middleware/cors.ts"⟩⟩, ⟨"auth", ⟨"src/middleware/auth.ts"⟩⟩]
deriving DecidableEq, Repr, Inhabited

structure QueueTarget where
  enabled : Bool := true
  sourceDir : Path := ⟨"src/consumers"⟩
  output : Path := ⟨"src/generated/queue.ts"⟩
  containerPackage : String := "tsyringe"
  containerType : String := "DependencyContainer"
  envType : String := "Env"
  /-- The module of the environment type; without one the type is ambient. -/
  envModule : Option Path := none
deriving DecidableEq, Repr, Inhabited

structure Config where
  /-- Extensions of source files, without the dot. -/
  extensions : List String := ["ts", "tsx", "mts", "cts"]
  /-- Names of directories that are never entered. -/
  exclude : List String := ["node_modules"]
  http : HttpTarget := {}
  queue : QueueTarget := {}
deriving DecidableEq, Repr

namespace Config

def isEnabled (c : Config) : Pipeline → Bool
  | .http => c.http.enabled
  | .queue => c.queue.enabled

def sourceDir (c : Config) : Pipeline → Path
  | .http => c.http.sourceDir
  | .queue => c.queue.sourceDir

def output (c : Config) : Pipeline → Path
  | .http => c.http.output
  | .queue => c.queue.output

/-- Whether a path has one of the source extensions.  Declaration files are no
sources, whatever the extensions say, and neither is a file whose name is no text. -/
def isSourceFile (c : Config) (p : Path) : Bool :=
  match p.fileName?.bind OsText.toText? with
  | none => false
  | some name =>
      if name.endsWith ".d.ts" then false
      else (p.extension?.bind OsText.toText?).any c.extensions.contains

/-- Whether directories of a name are never entered. -/
def excludes (c : Config) (name : OsText) : Bool :=
  (OsText.toText? name).any c.exclude.contains

end Config

end DispatchGen
