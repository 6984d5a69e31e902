import Scaffold.Command.Program
import Scaffold.Proofs.Project.Cleaning

/-!
# Runs on trees

Whatever a task does to a disk it does by operations that leave a tree, so a run of the program
leaves a tree, whether it succeeds or fails and whatever it was asked to do.
-/

open Scaffold.Action

namespace Scaffold

namespace Project

theorem keepsTrees_prepare (path : Path) : (prepare path).KeepsTrees :=
  (keepsTrees_makeAll path).explain _

theorem keepsTrees_createLayout (output : Path) : (createLayout output).KeepsTrees :=
  (keepsTrees_each (fun _ => keepsTrees_prepare _) directories).bind fun _ => keepsTrees_pure ()

theorem keepsTrees_writeArtifact (output : Path) (a : Artifact) :
    (writeArtifact output a).KeepsTrees := by
  have wrote := ((keepsTrees_write (output.join (.ofString a.path)) a.contents.toUTF8).explain
    (GenerationError.writeFile (output.join (.ofString a.path)))).bind
      fun _ => keepsTrees_pure (⟨output.join (.ofString a.path), a.inputs⟩ : WrittenFile)
  unfold writeArtifact
  dsimp only
  split
  · exact (keepsTrees_prepare _).bind fun _ => wrote
  · exact wrote

theorem keepsTrees_generate (m : Model) (name : String) (output : Path) (cleanOutput : Bool) :
    (generate m name output cleanOutput).KeepsTrees := by
  rw [generate_steps]
  refine (keepsTrees_look _).bind fun artifacts => (keepsTrees_tidy output cleanOutput).bind
    fun _ => (keepsTrees_createLayout output).bind fun _ => ?_
  exact (keepsTrees_each (keepsTrees_writeArtifact output) artifacts).bind
    fun files => keepsTrees_pure _

end Project

theorem Model.keepsTrees_save (m : Model) (path : Path) : (m.save path).KeepsTrees := by
  have wrote := (keepsTrees_write path m.store.toUTF8).explain (StoreError.write path)
  unfold save
  split
  · split
    · exact ((keepsTrees_makeAll _).explain _).bind fun _ => wrote
    · exact wrote
  · exact wrote

namespace Task

theorem keepsTrees_surveyAndStore [PatternReader] (backend output : Path) (config : Option Path) :
    (surveyAndStore backend output config).KeepsTrees :=
  ((keepsTrees_look _).explain _).bind fun _ => (keepsTrees_look _).bind fun m =>
    ((m.keepsTrees_save output).explain _).bind fun _ => keepsTrees_pure m

theorem keepsTrees_loadAndGenerate (module : Option String) (analysis : Path)
    (output config : Option Path) : (loadAndGenerate module analysis output config).KeepsTrees :=
  ((keepsTrees_look _).explain _).bind fun _ => ((keepsTrees_look _).explain _).bind fun m =>
    (Project.keepsTrees_generate m _ _ _).explain _

theorem keepsTrees_perform (task : Task) (config : Option Path) :
    (task.perform config).KeepsTrees := by
  cases task with
  | analyze backend output =>
    exact (keepsTrees_surveyAndStore backend output config).bind fun _ => keepsTrees_pure _
  | generate module analysis output =>
    exact (keepsTrees_loadAndGenerate module analysis output config).bind
      fun _ => keepsTrees_pure _

end Task

/-- Whatever the arguments are, a run of the program leaves a tree. -/
theorem Program.isTree_run (arguments : List String) (tree : FileTree) :
    (Program.run arguments tree.disk).2.IsTree := by
  unfold run
  split
  · exact tree.isTree
  · rename_i invocation _
    have opened : (tree.disk.makeAll logDirectory).disk.IsTree :=
      keepsTrees_makeAll logDirectory tree.disk tree.isTree
    have performed := invocation.task.keepsTrees_perform invocation.config _ opened
    dsimp only
    split
    · rename_i ran
      rwa [ran] at performed
    · rename_i ran
      rwa [ran] at performed

end Scaffold
