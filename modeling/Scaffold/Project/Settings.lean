/-!
# Settings of the generated project

Where the project is written, under which name its packages import each other, and whether what
is there already is removed first.
-/

namespace Scaffold

structure ProjectSettings where
  output : String := "backend-go"
  moduleName : String := "github.com/yourusername/cctv-backend"
  cleanOutput : Bool := false
  deriving Repr, DecidableEq

end Scaffold
