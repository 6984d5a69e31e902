import Scaffold.Disk.Action
import Scaffold.Project.Artifact
import Scaffold.Text.Quoted

/-!
# Generating a project

The project is rendered before anything is written, so a name that is no module name changes
nothing. Then the output directory is cleaned if that is asked for, the directories of the project
are made, and the artifacts are written one after the other.
-/

namespace Scaffold

inductive GenerationError
  | invalidModuleName (name : String)
  | createDirectory (path : Path) (fault : Fault)
  | cleanDirectory (path : Path) (fault : Fault)
  | writeFile (path : Path) (fault : Fault)
  deriving Repr, DecidableEq

namespace GenerationError

def message : GenerationError → String
  | invalidModuleName name =>
    "invalid Go module name " ++ Text.quote name
      ++ ": it must be non-empty and contain no whitespace"
  | createDirectory path fault =>
    "failed to prepare output directory " ++ path.text ++ ": " ++ fault.message
  | cleanDirectory path fault =>
    "failed to clean output directory " ++ path.text ++ ": " ++ fault.message
  | writeFile path fault => "failed to write " ++ path.text ++ ": " ++ fault.message

def fault? : GenerationError → Option Fault
  | invalidModuleName _ => none
  | createDirectory _ fault => some fault
  | cleanDirectory _ fault => some fault
  | writeFile _ fault => some fault

end GenerationError

def Model.render (m : Model) (name : String) : Except GenerationError (List Artifact) :=
  match ModuleName.ofText? name with
  | some name => .ok (m.artifacts name)
  | none => .error (.invalidModuleName name)

theorem Model.render_text (m : Model) (name : ModuleName) :
    m.render name.text = .ok (m.artifacts name) := by
  rw [render, ModuleName.ofText?_text]

structure WrittenFile where
  path : Path
  inputs : List ModelPart
  deriving Repr, DecidableEq

structure GenerationReport where
  output : Path
  files : List WrittenFile
  /-- Routes that still need a handler. -/
  pending : Nat
  deriving Repr, DecidableEq

namespace Project

def directories : List String := [
  "cmd/server",
  "internal/config",
  "internal/database",
  "internal/models",
  "internal/middleware",
  "internal/handlers",
  "internal/routes",
  "internal/services",
  "internal/utils",
  "pkg/logger",
  "migrations"]

def prepare (path : Path) : Action GenerationError Unit :=
  Action.explain (.createDirectory path) (·.makeAll path)

def createLayout (output : Path) : Action GenerationError Unit := do
  let _ ← Action.each (fun directory => prepare (output.join (.ofString directory))) directories

/-- Removes the output directory. One that is not there, or whose spelling does not end in a
name, stays as it is. -/
def clean (output : Path) : Action GenerationError Unit := do
  let present ← Action.look fun disk => .ok (disk.exists? output)
  if present && output.fileName?.isSome then
    Action.explain (.cleanDirectory output) (·.removeAll output)

def writeArtifact (output : Path) (artifact : Artifact) : Action GenerationError WrittenFile := do
  let path := output.join (.ofString artifact.path)
  match path.parent? with
  | some parent => prepare parent
  | none => pure ()
  Action.explain (.writeFile path) (·.write path artifact.contents.toUTF8)
  pure ⟨path, artifact.inputs⟩

def generate (m : Model) (name : String) (output : Path) (cleanOutput : Bool) :
    Action GenerationError GenerationReport := do
  let artifacts ← Action.look fun _ => m.render name
  if cleanOutput then clean output
  createLayout output
  let files ← Action.each (writeArtifact output) artifacts
  pure ⟨output, files, m.pendingCount⟩

end Project

end Scaffold
