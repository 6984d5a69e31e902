/-!
# The layout of a backend

Where a backend keeps its sources, and how its files are named. All places are relative to the
root of the sources.
-/

namespace Scaffold

structure SourceLayout where
  routes : String := "routes"
  controllers : String := "controllers"
  middleware : String := "middleware"
  services : String := "services"
  migrations : String := "database/migrations"
  /-- A single file that sets the schema up, read besides the migrations. -/
  schemaSetup : String := "database/setup.js"
  manifest : String := "package.json"
  sourceExtensions : List String := ["js"]
  migrationExtensions : List String := ["js", "sql"]
  /-- The end of the names of route files. -/
  routeSuffix : String := "Routes"
  /-- The end of the names of controllers. -/
  controllerSuffix : String := "Controller"
  /-- Routing idioms besides the known ones. -/
  extraRoutePatterns : List String := []
  deriving Repr, DecidableEq

end Scaffold
