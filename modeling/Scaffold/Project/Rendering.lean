import Scaffold.Project.Generation
import Scaffold.Project.Views

/-!
# Rendering from sheets

The sheets of the project by their names, and the project as it comes from filling them. A sheet
that cannot be filled keeps the whole project from being rendered.
-/

namespace Scaffold

namespace ProjectText

def settingsSheet : Sheet := [
  .text (endLines Settings.opening),
  .each "group" ⟨"groups", []⟩ [
    .text "\t", .value ⟨"group", ["name_col"]⟩, .text " ", .value ⟨"group", ["struct_name"]⟩,
    .text "\n"] [],
  .text "\x7d\n",
  .each "group" ⟨"groups", []⟩ [
    .text "\n", .text "type ", .value ⟨"group", ["struct_name"]⟩, .text " struct \x7b\n",
    .each "opt" ⟨"group", ["options"]⟩ [
      .text "\t", .value ⟨"opt", ["field_col"]⟩, .text " ", .value ⟨"opt", ["go_type"]⟩,
      .text "\n"] [],
    .text "\x7d\n"] [],
  .text (endLines Settings.loading),
  .each "group" ⟨"groups", []⟩ [
    .text "\t\t", .value ⟨"group", ["name"]⟩, .text ": ", .value ⟨"group", ["struct_name"]⟩,
    .text "\x7b\n",
    .each "opt" ⟨"group", ["options"]⟩ [
      .text "\t\t\t", .value ⟨"opt", ["key_col"]⟩, .text " ", .value ⟨"opt", ["loader"]⟩,
      .text ",\n"] [],
    .text "\t\t\x7d,\n"] [],
  .text (endLines Settings.closing)]

def environmentSheet : Sheet := [
  .text (endLines [
    "# Environment for the generated server. Every variable is optional;",
    "# the value shown is the default used when it is unset or empty."]),
  .each "group" ⟨"groups", []⟩ [
    .text "\n", .text "# ", .value ⟨"group", ["name"]⟩, .text "\n",
    .each "opt" ⟨"group", ["options"]⟩ [
      .value ⟨"opt", ["env_var"]⟩, .text "=", .value ⟨"opt", ["default"]⟩, .text "\n"] []] []]

def databaseSheet : Sheet := [
  .text (endLines Schema.opening),
  .each "table" ⟨"tables", []⟩ [
    .text "\t\t`", .value ⟨"table", ["statement"]⟩, .text "`,\n"] [],
  .text (endLines Schema.closing)]

def migrationSheet : Sheet := [
  .text "-- Core schema, applied at startup by internal/database.RunMigrations.\n",
  .each "table" ⟨"tables", []⟩ [
    .text "\n", .value ⟨"table", ["statement"]⟩, .text ";\n"] []]

/-- What the routes package has below its opening. -/
def Routes.listingSheet : Sheet := [
  .each "group" ⟨"pending", []⟩ [
    .text "\t//\n", .text "\t// ", .value ⟨"group", ["controller"]⟩, .text "\n",
    .each "route" ⟨"group", ["routes"]⟩ [
      .text "\t//   ", .value ⟨"route", []⟩, .text "\n"] []]
    [.text "\t//\n\t// No further routes were discovered.\n"],
  .text (endLines Routes.closing)]

def routesSheet : Sheet := Routes.opening.sheet ++ Routes.listingSheet

def servicesSheet : Sheet := [
  .text (endLines Services.opening),
  .each "service" ⟨"services", []⟩ [
    .text "//   - ", .value ⟨"service", ["name"]⟩, .text " (", .value ⟨"service", ["file"]⟩,
    .text "): ", .value ⟨"service", ["functions"]⟩, .text "\n"]
    [.text "//   (none)\n"],
  .text (endLines Services.closing)]

def notesSheet : Sheet := [
  .text (endLines Notes.opening),
  .value ⟨"route_total", []⟩, .text " routes discovered, ", .value ⟨"pending_total", []⟩,
  .text " still need a Go handler.\n\n| method | count |\n|--------|-------|\n",
  .each "row" ⟨"method_counts", []⟩ [
    .text "| ", .value ⟨"row", ["method"]⟩, .text " | ", .value ⟨"row", ["count"]⟩,
    .text " |\n"] [],
  .text "\n## Controllers\n\n",
  .each "controller" ⟨"controllers", []⟩ [
    .text "- `", .value ⟨"controller", ["name"]⟩, .text "` (", .value ⟨"controller", ["file"]⟩,
    .text "): ", .value ⟨"controller", ["functions"]⟩, .text "\n"]
    [.text "- none discovered\n"],
  .text "\n## Middleware\n\n",
  .each "item" ⟨"middleware", []⟩ [
    .text "- `", .value ⟨"item", ["name"]⟩, .text "` (", .value ⟨"item", ["file"]⟩, .text ")",
    .value ⟨"item", ["detail"]⟩, .text "\n"]
    [.text "- none discovered\n"],
  .text ("\n## Dependencies\n\n| package | version | Go replacement |\n"
    ++ "|---------|---------|----------------|\n"),
  .each "dep" ⟨"dependencies", []⟩ [
    .text "| ", .value ⟨"dep", ["name"]⟩, .text " | ", .value ⟨"dep", ["version"]⟩, .text " | ",
    .value ⟨"dep", ["replacement"]⟩, .text " |\n"] []]

end ProjectText

namespace Sheet

open ProjectText

def all : List (String × Sheet) := [
  ("go.mod.txt", goMod.sheet),
  ("main.go.txt", entryPoint.sheet),
  ("config.go.txt", settingsSheet),
  ("env.example.txt", environmentSheet),
  ("database.go.txt", databaseSheet),
  ("core_schema.sql.txt", migrationSheet),
  ("user.go.txt", user.sheet),
  ("camera.go.txt", camera.sheet),
  ("auth_middleware.go.txt", authMiddleware.sheet),
  ("auth_handler.go.txt", authHandler.sheet),
  ("routes.go.txt", routesSheet),
  ("services.go.txt", servicesSheet),
  ("logger.go.txt", logger.sheet),
  ("Dockerfile.txt", dockerfile.sheet),
  ("Makefile.txt", makefile.sheet),
  ("migration.md.txt", notesSheet)]

def fillNamed (name : String) (bound : Bindings) : Except SheetFault String :=
  match all.lookup name with
  | some sheet => fill bound sheet
  | none => .error (.noSheet name)

end Sheet

structure Draft where
  path : String
  sheet : String
  bound : Bindings
  inputs : List ModelPart

def Draft.artifact (d : Draft) : Except SheetFault Artifact := do
  let contents ← Sheet.fillNamed d.sheet d.bound
  .ok ⟨d.path, contents, d.inputs⟩

namespace Model

def notesBindings (m : Model) : Bindings := [
  ("route_total", .number m.routes.length),
  ("pending_total", .number m.pendingCount),
  ("method_counts", .list (m.routesByMethod.map methodView)),
  ("controllers", .list (m.controllers.map SourceModule.view)),
  ("middleware", .list (m.middleware.map Middleware.view)),
  ("dependencies", .list (m.dependencyRows.map DependencyRow.view))]

def drafts (m : Model) (name : String) : List Draft :=
  let named : Bindings := [("module_name", .text name)]
  let settings : Bindings := [("groups", .list (variableGroups.map VariableGroup.view))]
  [⟨"go.mod", "go.mod.txt", named, []⟩,
    ⟨"cmd/server/main.go", "main.go.txt", named, []⟩,
    ⟨"internal/config/config.go", "config.go.txt", settings, []⟩,
    ⟨".env.example", "env.example.txt", settings, []⟩,
    ⟨"internal/database/database.go", "database.go.txt",
      [("tables", .list (coreTables.map (CoreTable.view "\t\t")))], []⟩,
    ⟨"migrations/0001_core_schema.sql", "core_schema.sql.txt",
      [("tables", .list (coreTables.map (CoreTable.view "")))], []⟩]
  ++ (RecordKind.all.filter (·.isEmitted m)).map
    (fun k => ⟨k.file, k.templateName, named, k.inputs⟩)
  ++ [⟨"internal/middleware/auth.go", "auth_middleware.go.txt", named, []⟩,
    ⟨"internal/handlers/auth.go", "auth_handler.go.txt", named, []⟩,
    ⟨"internal/routes/routes.go", "routes.go.txt",
      [("module_name", .text name), ("pending", .list (m.pendingGroups.map PendingGroup.view))],
      [.routes]⟩,
    ⟨"internal/services/services.go", "services.go.txt",
      [("services", .list (m.services.map SourceModule.view))], [.services]⟩,
    ⟨"pkg/logger/logger.go", "logger.go.txt", named, []⟩,
    ⟨"Dockerfile", "Dockerfile.txt", named, []⟩,
    ⟨"Makefile", "Makefile.txt", named, []⟩,
    ⟨"MIGRATION.md", "migration.md.txt", m.notesBindings,
      [.routes, .controllers, .middleware, .dependencies]⟩]

end Model

inductive RenderingError
  | refused (e : GenerationError)
  | sheet (fault : SheetFault)
  deriving Repr, DecidableEq

/-- The artifacts of a project, each from its sheet. The first one that fails is the failure. -/
def Model.renderSheets (m : Model) (name : String) : Except RenderingError (List Artifact) :=
  if isModuleName name then
    ((m.drafts name).mapM Draft.artifact).mapError .sheet
  else .error (.refused (.invalidModuleName name))

end Scaffold
