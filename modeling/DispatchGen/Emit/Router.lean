/-
DispatchGen/Emit/Router.lean

The generated router: middleware first, then one registration for each route in
table order, then the health check and the catch-all.
-/
import DispatchGen.Emit.ImportLine

namespace DispatchGen.Emit

/-- What a router module is made of. -/
structure RouterModule where
  imports : List ImportLine
  containerType : String
  middleware : List String
  routes : List Route
  healthPath : String
deriving DecidableEq, Repr

namespace RouterModule

def middlewareLine (name : String) : String := "  router.all('*', " ++ name ++ ");"

/-- The registration of one route. -/
def routeLines (r : Route) : List String := [
  "  router." ++ r.verb.name ++ "(" ++ Text.quote r.pattern ++
    ", (request: IRequest, ...args: unknown[]) =>",
  "    container.resolve(" ++ r.controller ++ ")." ++ r.handler ++ "(request, ...args),",
  "  );"]

/-- Lines that, if there are any, follow an empty one. -/
def group (lines : List String) : List String := if lines.isEmpty then [] else "" :: lines

def lines (m : RouterModule) : List String :=
  heading m.imports ++
  ["",
    "export function getRouter(container: " ++ m.containerType ++ ") \x7b",
    "  const router = Router();"] ++
  group (m.middleware.map middlewareLine) ++
  group (m.routes.flatMap routeLines) ++
  ["",
    "  router.get(" ++ Text.quote m.healthPath ++ ", () => new Response('pong'));",
    "  router.all('*', () => new Response('Not Found', \x7b status: 404 \x7d));",
    "",
    "  return router;",
    "\x7d"]

end RouterModule

/-- The import of one middleware. -/
def middlewareImport (root outputDir : Path) (m : Middleware) : Except RenderError ImportLine := do
  checkName "middleware" m.name
  return .named m.name (specifierOf root outputDir m.path)

/-- The router module of a table. -/
def routerModule (t : Table) (c : HttpTarget) (root : Path) : Except RenderError RouterModule := do
  let dir := outputDir root c.output
  checkName "container type" c.containerType
  let routerNames := if t.routes.isEmpty then "Router" else "Router, IRequest"
  let support := [ImportLine.named routerNames c.routerPackage,
    .named c.containerType c.containerPackage]
  let middleware ← c.middleware.mapM (middlewareImport root dir)
  let classes ← classImports t .http root dir
  return {
    imports := support ++ middleware ++ classes
    containerType := c.containerType
    middleware := c.middleware.map (·.name)
    routes := t.routes
    healthPath := c.healthPath }

end DispatchGen.Emit
