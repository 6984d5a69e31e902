import Scaffold.Model.Statistics
import Scaffold.Project.Generation

/-!
# Summaries

What is printed after a command has run: the counts of an analysis, and the files of a generated
project with the next steps.
-/

namespace Scaffold.Summary

def rule : String := String.ofList (List.replicate 60 '=')

def titled (title : String) : List String := [rule, title, rule]

def ofLines (lines : List String) : String := String.join (lines.map (· ++ "\n"))

/-- How many modules are listed before the rest is only counted. -/
def listed : Nat := 5

def moduleLines (modules : List SourceModule) : List String :=
  (modules.take listed).map (fun m =>
    "   - " ++ m.name ++ " (" ++ toString m.functions.size ++ " functions)")
  ++ (if listed < modules.length then
      ["   ... and " ++ toString (modules.length - listed) ++ " more"]
    else [])

def itemLine (s : String) : String := "   - " ++ s

def keyDependencies : List String := ["fastify", "better-sqlite3", "bcrypt", "jsonwebtoken", "axios"]

def ofModel (m : Model) : String :=
  ofLines <|
    titled "📊 BACKEND ANALYSIS SUMMARY"
      ++ ["", "📍 Routes: " ++ toString m.routes.length]
      ++ m.routesByMethod.map (fun (method, count) =>
        "   " ++ method.name ++ ": " ++ toString count)
      ++ ["", "🎮 Controllers: " ++ toString m.controllers.length]
      ++ moduleLines m.controllers
      ++ ["", "🛡️  Middleware: " ++ toString m.middleware.length]
      ++ m.middleware.map (fun mw => itemLine mw.name)
      ++ ["", "⚙️  Services: " ++ toString m.services.length]
      ++ moduleLines m.services
      ++ ["", "🗄️  Database Tables: " ++ toString m.tables.size]
      ++ m.tables.toList.map itemLine
      ++ ["", "📦 Key Dependencies:"]
      ++ keyDependencies.filterMap (fun name =>
        (m.dependencies.get? name).map fun version => itemLine (name ++ ": " ++ version))
      ++ ["", rule]

/-- The line of a written file: its place below the output directory, and what it is made from. -/
def fileLine (output : Path) (file : WrittenFile) : String :=
  let shown := ((Path.stripPrefix? output file.path).getD file.path).text
  "  ✓ " ++ shown
    ++ (if file.inputs.isEmpty then ""
      else " (from " ++ ", ".intercalate (file.inputs.map ModelPart.name) ++ ")")

def pendingLines (pending : Nat) : List String :=
  if 0 < pending then
    ["", "⚠️  " ++ toString pending
      ++ " routes still need a Go handler, see internal/routes/routes.go"]
  else []

def shownDirectory (output : Path) : String := if output.text == "" then "." else output.text

def nextSteps (output : Path) : List String :=
  titled "📝 NEXT STEPS:" ++ [
    "1. cd " ++ shownDirectory output,
    "2. go mod tidy",
    "3. cp .env.example .env and adjust the values",
    "4. go run cmd/server/main.go",
    "",
    "Or using Docker:",
    "1. cd " ++ shownDirectory output,
    "2. make docker-build",
    "3. make docker-run",
    rule]

def ofReport (report : GenerationReport) : String :=
  ofLines <|
    ["✅ Go project generated successfully!", "📁 Output directory: " ++ report.output.text, ""]
      ++ report.files.map (fileLine report.output)
      ++ pendingLines report.pending
      ++ [""]
      ++ nextSteps report.output

end Scaffold.Summary
