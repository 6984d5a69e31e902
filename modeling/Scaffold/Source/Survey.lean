import Scaffold.Disk.Walk
import Scaffold.Path.Bytes
import Scaffold.Source.Description
import Scaffold.Source.Export
import Scaffold.Source.Layout
import Scaffold.Source.Manifest
import Scaffold.Source.Route
import Scaffold.Source.Table

/-!
# Surveying a backend

The model of a backend is put together from its files. Nothing about them is a failure: what is
missing or cannot be read is passed over.
-/

namespace Scaffold

structure SourceFile where
  path : Path
  text : String
  deriving Repr, DecidableEq

namespace Survey

/-- The files right in a directory with one of the extensions, in the order of their names. Links
to files count as files. -/
def filesIn (disk : Disk) (dir : Path) (extensions : List String) : List Path :=
  if disk.isDirectory dir then
    ((NameSet.ofList (disk.list dir)).toList.map dir.joinName).filter fun path =>
      disk.isFile path && path.extension?.any extensions.contains
  else []

def read? (disk : Disk) (path : Path) : Option SourceFile :=
  (disk.readText path).toOption.map fun text => ⟨path, text⟩

def sourcesIn (disk : Disk) (root : Path) (dir : String) (extensions : List String) :
    List SourceFile :=
  (filesIn disk (root.join (.ofString dir)) extensions).filterMap (read? disk)

def routesOf [PatternReader] (layout : SourceLayout) (file : SourceFile) : List Route :=
  let controller := Route.controllerOf file.path.stem layout.routeSuffix layout.controllerSuffix
  Route.ofText (Idiom.all layout.extraRoutePatterns) controller file.text.toList

def routes [PatternReader] (disk : Disk) (root : Path) (layout : SourceLayout) : List Route :=
  (sourcesIn disk root layout.routes layout.sourceExtensions).flatMap (routesOf layout)

def moduleOf (kind : ModuleKind) (root : Path) (file : SourceFile) : SourceModule :=
  ⟨file.path.stem, root.locationFrom file.path, kind.exportsOf file.text.toList⟩

def modules (disk : Disk) (root : Path) (layout : SourceLayout) (kind : ModuleKind) :
    List SourceModule :=
  let dir :=
    match kind with
    | .controller => layout.controllers
    | .service => layout.services
  (sourcesIn disk root dir layout.sourceExtensions).map (moduleOf kind root)

def middlewareOf (root : Path) (file : SourceFile) : Middleware :=
  ⟨file.path.stem, root.locationFrom file.path, Description.ofText file.text.toList⟩

def middleware (disk : Disk) (root : Path) (layout : SourceLayout) : List Middleware :=
  (sourcesIn disk root layout.middleware layout.sourceExtensions).map (middlewareOf root)

/-- The migrations, and the setup file if there is one. -/
def schemaSources (disk : Disk) (root : Path) (layout : SourceLayout) : List SourceFile :=
  let setup := root.join (.ofString layout.schemaSetup)
  sourcesIn disk root layout.migrations layout.migrationExtensions
    ++ (if disk.isFile setup then read? disk setup else none).toList

def tables (disk : Disk) (root : Path) (layout : SourceLayout) : NameSet :=
  .ofList ((schemaSources disk root layout).flatMap fun file => Table.namesOf file.text.toList)

def dependencies (disk : Disk) (root : Path) (layout : SourceLayout) : NameMap String :=
  let manifest := root.join (.ofString layout.manifest)
  match if disk.isFile manifest then read? disk manifest else none with
  | some file => Manifest.dependenciesOf file.text
  | none => ∅

def model [PatternReader] (disk : Disk) (root : Path) (layout : SourceLayout) : Model where
  routes := routes disk root layout
  controllers := modules disk root layout .controller
  middleware := middleware disk root layout
  services := modules disk root layout .service
  tables := tables disk root layout
  dependencies := dependencies disk root layout

end Survey

end Scaffold
