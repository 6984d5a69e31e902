import Scaffold.Project.ModuleName
import Scaffold.Project.Record
import Scaffold.Project.Text.Auth
import Scaffold.Project.Text.Build
import Scaffold.Project.Text.Listings
import Scaffold.Project.Text.Records
import Scaffold.Project.Text.Schema
import Scaffold.Project.Text.Server

/-!
# Artifacts

The files of the generated project, in the order in which they are written. Each of them says on
which parts of the model its contents depend.
-/

namespace Scaffold

inductive ModelPart
  | routes | controllers | middleware | services | tables | dependencies
  deriving Repr, DecidableEq

def ModelPart.name : ModelPart → String
  | routes => "routes"
  | controllers => "controllers"
  | middleware => "middleware"
  | services => "services"
  | tables => "database_tables"
  | dependencies => "dependencies"

structure Artifact where
  /-- The place below the output directory, with slashes. -/
  path : String
  contents : String
  inputs : List ModelPart
  deriving DecidableEq

namespace Artifact

def isModelDriven (a : Artifact) : Bool := !a.inputs.isEmpty

end Artifact

namespace RecordKind

def template : RecordKind → Template
  | account => ProjectText.user
  | camera => ProjectText.camera

/-- The type for accounts is always written, so it depends on nothing. -/
def inputs : RecordKind → List ModelPart
  | account => []
  | camera => [.tables]

def artifact? (k : RecordKind) (m : Model) (name : ModuleName) : Option Artifact :=
  if k.isEmitted m then some ⟨k.file, k.template.fill name.text, k.inputs⟩ else none

end RecordKind

namespace Model

def artifacts (m : Model) (name : ModuleName) : List Artifact :=
  [⟨"go.mod", ProjectText.goMod.fill name.text, []⟩,
    ⟨"cmd/server/main.go", ProjectText.entryPoint.fill name.text, []⟩,
    ⟨"internal/config/config.go", ProjectText.settings, []⟩,
    ⟨".env.example", ProjectText.exampleEnvironment, []⟩,
    ⟨"internal/database/database.go", ProjectText.database, []⟩,
    ⟨"migrations/0001_core_schema.sql", ProjectText.coreMigration, []⟩]
  ++ RecordKind.all.filterMap (·.artifact? m name)
  ++ [⟨"internal/middleware/auth.go", ProjectText.authMiddleware.fill name.text, []⟩,
    ⟨"internal/handlers/auth.go", ProjectText.authHandler.fill name.text, []⟩,
    ⟨"internal/routes/routes.go", ProjectText.routes name.text m.pendingGroups, [.routes]⟩,
    ⟨"internal/services/services.go", ProjectText.services m.services, [.services]⟩,
    ⟨"pkg/logger/logger.go", ProjectText.logger.fill name.text, []⟩,
    ⟨"Dockerfile", ProjectText.dockerfile.fill name.text, []⟩,
    ⟨"Makefile", ProjectText.makefile.fill name.text, []⟩,
    ⟨"MIGRATION.md", ProjectText.migrationNotes m,
      [.routes, .controllers, .middleware, .dependencies]⟩]

end Model

end Scaffold
