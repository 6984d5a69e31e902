import Scaffold.Command.Arguments
import Scaffold.Command.Summary
import Scaffold.Settings.File
import Scaffold.Settings.Sections
import Scaffold.Source.Survey

/-!
# Running a task

An analysis surveys the sources and stores the model. A generation loads a model and writes the
project. Settings come first: if they cannot be had, nothing is done.
-/

namespace Scaffold

inductive TaskError
  | analyzerSettings (e : Settings.LoadError)
  | generatorSettings (e : Settings.LoadError)
  | store (e : StoreError)
  | generation (output : Path) (e : GenerationError)
  deriving Repr, DecidableEq

namespace TaskError

/-- What was being done when the failure occurred, if the failure does not say so. -/
def context? : TaskError → Option String
  | analyzerSettings _ => some "failed to load analyzer configuration"
  | generatorSettings _ => some "failed to load generator configuration"
  | store _ => none
  | generation output _ => some ("failed to generate " ++ output.text)

/-- The failure and what is behind it, the outermost first. -/
def causes (e : TaskError) : List String :=
  e.context?.toList ++
    match e with
    | analyzerSettings e => [e.message]
    | generatorSettings e => [e.message]
    | store e => e.message :: e.cause?.toList
    | generation _ e => e.message :: (e.fault?.map Fault.message).toList

end TaskError

namespace Task

def surveyAndStore [PatternReader] (backend output : Path) (config : Option Path) :
    Action TaskError Model := do
  let layout ← Action.explain .analyzerSettings (Action.look (Settings.analyzer.load config))
  let m ← Action.look fun disk => .ok (Survey.model disk backend layout)
  Action.explain .store (m.save output)
  pure m

/-- Generates the project of a stored model. What is given counts more than the settings. -/
def loadAndGenerate (module : Option String) (analysis : Path) (output config : Option Path) :
    Action TaskError GenerationReport := do
  let settings ← Action.explain .generatorSettings (Action.look (Settings.generator.load config))
  let m ← Action.explain .store (Action.look (Model.load analysis))
  let target := output.getD (.ofString settings.output)
  Action.explain (.generation target)
    (Project.generate m (module.getD settings.moduleName) target settings.cleanOutput)

end Task

end Scaffold
