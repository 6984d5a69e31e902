import Scaffold.Disk.Action
import Scaffold.Model.Stored

/-!
# Storing a model

A model is written to a file and read back. Directories above the file are made as they are
needed.
-/

namespace Scaffold

inductive StoreError
  | missing (path : Path)
  | read (path : Path) (fault : Fault)
  | malformed (path : Path) (cause : Json.Cause) (position : Json.Position)
  | write (path : Path) (fault : Fault)
  deriving Repr, DecidableEq

namespace StoreError

def cause? : StoreError → Option String
  | missing _ => none
  | read _ fault => some fault.message
  | malformed _ cause position => some (cause.messageAt position)
  | write _ fault => some fault.message

def message : StoreError → String
  | missing path =>
    "analysis result not found at " ++ path.text ++ "; run the analyze command first"
  | read path fault => "failed to read analysis result " ++ path.text ++ ": " ++ fault.message
  | malformed path cause position =>
    "analysis result " ++ path.text ++ " is not a valid structural model: "
      ++ cause.messageAt position
  | write path fault => "failed to write analysis result " ++ path.text ++ ": " ++ fault.message

end StoreError

namespace Model

def defaultPath : Path := .ofString "migration-tools/analysis_result.json"

def save (m : Model) (path : Path) : Action StoreError Unit := do
  match path.parent? with
  | some parent =>
    if !parent.isEmpty then Action.explain (.write parent) (·.makeAll parent)
  | none => pure ()
  Action.explain (.write path) (·.write path m.store.toUTF8)

def load (path : Path) (disk : Disk) : Except StoreError Model :=
  if !disk.isFile path then .error (.missing path)
  else
    match disk.readText path with
    | .error fault => .error (.read path fault)
    | .ok text =>
      match ofStored text with
      | .ok m => .ok m
      | .error failure => .error (.malformed path failure.cause (failure.position text.toList))

end Model

end Scaffold
