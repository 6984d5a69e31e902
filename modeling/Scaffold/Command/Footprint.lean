import Scaffold.Command.Run

/-!
# What a run looks at

The places of the file system on which a run depends. A disk that agrees with the file system in
these places is enough to run on.
-/

namespace Scaffold

/-- How much of a place matters: the nodes on the way to it, also what is right in it, or all
that is below it. -/
inductive Reach
  | way (path : Path)
  | listing (path : Path)
  | tree (path : Path)
  deriving Repr, DecidableEq

namespace Footprint

def settings : Option Path → List Reach
  | some path =>
    .way path :: Settings.Format.all.map fun format => .way (path.withEnding format.extension)
  | none => Settings.places.map .way

def analysis (backend output : Path) (layout : SourceLayout) : List Reach :=
  let below (place : String) : Path := backend.join (.ofString place)
  [layout.routes, layout.controllers, layout.middleware, layout.services, layout.migrations].map
      (fun dir => .listing (below dir))
    ++ [.way (below layout.schemaSetup), .way (below layout.manifest), .way output]

def generation (analysis target : Path) (cleanOutput : Bool) : List Reach :=
  .way analysis :: .listing target ::
    (if cleanOutput then [.tree target]
    else Project.directories.map fun dir => .listing (target.join (.ofString dir)))

/-- The places on which a task depends, on a disk that has the settings. -/
def task (i : Invocation) (disk : Disk) : List Reach :=
  match i.task with
  | .analyze backend output =>
    analysis backend output ((Settings.analyzer.load i.config disk).toOption.getD {})
  | .generate _ source output =>
    let settings := (Settings.generator.load i.config disk).toOption.getD {}
    generation source (output.getD (.ofString settings.output)) settings.cleanOutput

end Footprint

end Scaffold
