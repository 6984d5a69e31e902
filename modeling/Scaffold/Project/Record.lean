import Scaffold.Model.Basic

/-!
# Records

The kinds of record that the generated server has a type for, and the names of the tables by which
a kind is recognized.
-/

namespace Scaffold

inductive RecordKind
  | account
  | camera
  deriving Repr, DecidableEq

namespace RecordKind

def all : List RecordKind := [account, camera]

def aliases : RecordKind → List String
  | account => ["users", "user", "accounts", "account"]
  | camera => ["cameras", "camera"]

def file : RecordKind → String
  | account => "internal/models/user.go"
  | camera => "internal/models/camera.go"

def templateName : RecordKind → String
  | account => "user.go.txt"
  | camera => "camera.go.txt"

def recognizedIn (k : RecordKind) (m : Model) : Bool := k.aliases.any m.hasTable

/-- Accounts are always needed, by the handlers for logging in. -/
def isEmitted (k : RecordKind) (m : Model) : Bool :=
  match k with
  | account => true
  | camera => k.recognizedIn m

end RecordKind

end Scaffold
