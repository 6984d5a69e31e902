import Scaffold.Model.Statistics

/-!
# The inventory

What the migration notes say of each part of the model: the functions of a module, the
description of a middleware and the replacement of a package.
-/

namespace Scaffold

def knownReplacements : List (String × String) := [
  ("fastify", "github.com/gofiber/fiber/v2"),
  ("@fastify/cors", "github.com/gofiber/fiber/v2/middleware/cors"),
  ("better-sqlite3", "github.com/mattn/go-sqlite3"),
  ("bcrypt", "golang.org/x/crypto/bcrypt"),
  ("bcryptjs", "golang.org/x/crypto/bcrypt"),
  ("jsonwebtoken", "github.com/golang-jwt/jwt/v5"),
  ("dotenv", "github.com/joho/godotenv"),
  ("uuid", "github.com/google/uuid"),
  ("axios", "net/http")]

/-- What replaces a package. All unknown packages are left to a manual review. -/
def replacementOf (package : String) : String :=
  (knownReplacements.lookup package).getD "manual review"

/-- A text that stays within its cell of a table. -/
def tableCell (s : String) : String :=
  String.ofList (s.toList.flatMap fun c => if c == '|' then ['\\', '|'] else [c])

namespace SourceModule

def functionList (m : SourceModule) : String :=
  if m.functions.isEmpty then "no exported functions" else ", ".intercalate m.functions.toList

end SourceModule

namespace Middleware

def detail (m : Middleware) : String :=
  if m.description.isEmpty then "" else ": " ++ m.description

end Middleware

structure DependencyRow where
  name : String
  version : String
  replacement : String
  deriving Repr, DecidableEq

def Model.dependencyRows (m : Model) : List DependencyRow :=
  m.dependencies.entries.map fun (name, version) =>
    ⟨tableCell name, tableCell version, replacementOf name⟩

end Scaffold
