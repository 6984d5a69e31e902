import Scaffold.Project.Inventory
import Scaffold.Project.Pending
import Scaffold.Project.Template
import Scaffold.Project.Text.Settings

/-!
# Listings

The generated files that list what was found: the pending routes, the services and the migration
notes. Routes are listed in comments between two marks.
-/

namespace Scaffold.ProjectText

namespace Routes

/-- The code before the list of pending routes, with the mark that opens it. -/
def opening : Template := [
  .lines [
    "package routes",
    "",
    "import (",
    "\t\"database/sql\"",
    "",
    "\t\""],
  .moduleName,
  .lines [
    "/internal/config\"",
    "\t\""],
  .moduleName,
  .lines [
    "/internal/handlers\"",
    "\t\""],
  .moduleName,
  .lines [
    "/internal/middleware\"",
    "",
    "\t\"github.com/gofiber/fiber/v2\"",
    ")",
    "",
    "func Setup(app *fiber.App, db *sql.DB, cfg *config.Config) \x7b",
    "\t// Initialize handlers",
    "\tauthHandler := handlers.NewAuthHandler(db, cfg)",
    "",
    "\t// API routes",
    "\tapi := app.Group(\"/api\")",
    "",
    "\t// Auth routes (public)",
    "\tauth := api.Group(\"/auth\")",
    "\tauth.Post(\"/login\", authHandler.Login)",
    "\tauth.Post(\"/logout\", authHandler.Logout)",
    "",
    "\t// Protected routes",
    "\tauthMiddleware := middleware.AuthMiddleware(cfg.JWT.Secret)",
    "\tauth.Get(\"/verify\", authMiddleware, authHandler.Verify)",
    "",
    "\t// >>> EXTENSION POINT: discovered routes without a Go handler yet.",
    "\t// Port each handler, then register it on a group, for example:",
    "\t//   cameras := api.Group(\"/cameras\", authMiddleware)",
    "\t//   cameras.Get(\"/\", cameraHandler.List)",
    ""]]

def listing (groups : List PendingGroup) : List String :=
  if groups.isEmpty then ["\t//", "\t// No further routes were discovered."]
  else
    groups.flatMap fun g => ["\t//", "\t// " ++ g.controller] ++ g.lines.map ("\t//   " ++ ·)

/-- The mark that closes the list, and the code behind it. -/
def closing : List String := [
    "\t// <<< END EXTENSION POINT",
    "\x7d"]

end Routes

def routes (name : String) (groups : List PendingGroup) : String :=
  Routes.opening.fill name ++ endLines (Routes.listing groups) ++ endLines Routes.closing

namespace Services

def opening : List String := [
    "// Package services holds the business logic ported from the Node.js backend.",
    "//",
    "// Services discovered during analysis:"]

def line (m : SourceModule) : String :=
  "//   - " ++ m.name ++ " (" ++ m.file ++ "): " ++ m.functionList

def closing : List String := [
    "package services"]

end Services

def services (found : List SourceModule) : String :=
  endLines <|
    Services.opening
      ++ (if found.isEmpty then ["//   (none)"] else found.map Services.line)
      ++ Services.closing

namespace Notes

def opening : List String := [
    "# Migration notes",
    "",
    "This project was generated from the structural model of the Node.js",
    "backend. The configuration, database bootstrap, authentication middleware",
    "and auth handlers are ready to run. Everything listed below still has to be",
    "ported by hand.",
    "",
    "## Next steps",
    "",
    "1. `go mod tidy`",
    "2. Copy `.env.example` to `.env` and set `JWT_SECRET`.",
    "3. Port the remaining handlers listed in `internal/routes/routes.go`.",
    "4. Port the services listed in `internal/services/services.go`.",
    "5. `make run`",
    "",
    "## Routes",
    ""]

def listOrNone (ls : List String) : List String :=
  if ls.isEmpty then ["- none discovered"] else ls

def methodLines (m : Model) : List String :=
  m.routesByMethod.map fun (method, count) =>
    "| " ++ method.name ++ " | " ++ toString count ++ " |"

def controllerLine (m : SourceModule) : String :=
  "- `" ++ m.name ++ "` (" ++ m.file ++ "): " ++ m.functionList

def middlewareLine (m : Middleware) : String :=
  "- `" ++ m.name ++ "` (" ++ m.file ++ ")" ++ m.detail

def dependencyLine (r : DependencyRow) : String :=
  "| " ++ r.name ++ " | " ++ r.version ++ " | " ++ r.replacement ++ " |"

end Notes

def migrationNotes (m : Model) : String :=
  endLines <|
    Notes.opening
      ++ [toString m.routes.length ++ " routes discovered, " ++ toString m.pendingCount
        ++ " still need a Go handler."]
      ++ [
        "",
        "| method | count |",
        "|--------|-------|"]
      ++ Notes.methodLines m
      ++ [
        "",
        "## Controllers",
        ""]
      ++ Notes.listOrNone (m.controllers.map Notes.controllerLine)
      ++ [
        "",
        "## Middleware",
        ""]
      ++ Notes.listOrNone (m.middleware.map Notes.middlewareLine)
      ++ [
        "",
        "## Dependencies",
        "",
        "| package | version | Go replacement |",
        "|---------|---------|----------------|"]
      ++ m.dependencyRows.map Notes.dependencyLine

end Scaffold.ProjectText
