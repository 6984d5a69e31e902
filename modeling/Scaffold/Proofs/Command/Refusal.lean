import Scaffold.Command.Run
import Scaffold.Proofs.Disk.Sequence

/-!
# Generations that cannot start

A generation needs settings, a stored model and a module name. If one of them cannot be had, the
generation says which, and the disk stays as it is, whatever there would have been to clean.
-/

namespace Scaffold

/-- Whether a failure is about what a generation needs, and not about what it does. -/
def TaskError.isRefusal : TaskError → Bool
  | .generatorSettings _ => true
  | .store _ => true
  | .generation _ (.invalidModuleName _) => true
  | _ => false

namespace Project

/-- Once the project is rendered, only the disk can be in the way. -/
def IsDiskFailure (e : GenerationError) : Prop := e.fault?.isSome = true

theorem failsAs_prepare (path : Path) : (prepare path).FailsAs IsDiskFailure :=
  Action.failsAs_explain _ fun _ => rfl

theorem failsAs_createLayout (output : Path) : (createLayout output).FailsAs IsDiskFailure :=
  (Action.failsAs_each (fun _ => failsAs_prepare _) directories).bind
    fun _ => Action.failsAs_pure ()

theorem failsAs_clean (output : Path) : (clean output).FailsAs IsDiskFailure := by
  refine Action.FailsAs.bind (fun disk e after h => by cases h) fun present => ?_
  split
  · exact Action.failsAs_explain _ fun _ => rfl
  · exact Action.failsAs_pure ()

theorem failsAs_writeArtifact (output : Path) (a : Artifact) :
    (writeArtifact output a).FailsAs IsDiskFailure := by
  have write : ∀ path : Path, (do
      Action.explain (.writeFile path) (·.write path a.contents.toUTF8)
      pure ⟨path, a.inputs⟩ : Action GenerationError WrittenFile).FailsAs IsDiskFailure := by
    intro path
    refine Action.FailsAs.bind ?_ fun _ => Action.failsAs_pure _
    exact Action.failsAs_explain _ fun _ => rfl
  unfold writeArtifact
  dsimp only
  split
  · exact (failsAs_prepare _).bind fun _ => write _
  · exact write _

theorem generate_of_rejected {m : Model} {name : String} (output : Path) (cleanOutput : Bool)
    (disk : Disk) (rejected : isModuleName name = false) :
    (generate m name output cleanOutput).run disk = ⟨.error (.invalidModuleName name), disk⟩ := by
  refine Action.run_bind_of_error (Action.run_look_of_eq ?_)
  rw [Model.render, (ModuleName.ofText?_eq_none_iff name).mpr rejected]

/-- A module name that is accepted is never complained about. -/
theorem isDiskFailure_of_generate {m : Model} {name : String} {output : Path} {cleanOutput : Bool}
    {disk after : Disk} {e : GenerationError} (accepted : isModuleName name = true)
    (failed : (generate m name output cleanOutput).run disk = ⟨.error e, after⟩) :
    IsDiskFailure e := by
  have written : ∀ artifacts, (do
      createLayout output
      let files ← Action.each (writeArtifact output) artifacts
      pure ⟨output, files, m.pendingCount⟩ :
        Action GenerationError GenerationReport).FailsAs IsDiskFailure :=
    fun artifacts => (failsAs_createLayout output).bind fun _ =>
      (Action.failsAs_each (failsAs_writeArtifact output) artifacts).bind fun _ =>
        Action.failsAs_pure _
  have rendered : m.render name = .ok (m.artifacts ⟨name, accepted⟩) :=
    m.render_text ⟨name, accepted⟩
  rcases Action.error_of_run_bind failed with unrendered | ⟨artifacts, between, _, failed⟩
  · cases (Action.run_look_of_eq rendered).symm.trans unrendered
  · split at failed
    · exact (failsAs_clean output).bind (fun _ => written artifacts) between e after failed
    · exact written artifacts between e after failed

end Project

namespace Task

/-- What keeps a generation from starting, and the failure that says so. -/
inductive Obstacle (module : Option String) (analysis : Path) (output config : Option Path)
    (disk : Disk) : TaskError → Prop
  | settings {e : Settings.LoadError} (failed : Settings.generator.load config disk = .error e) :
    Obstacle module analysis output config disk (.generatorSettings e)
  | model {settings : ProjectSettings} {e : StoreError}
    (loaded : Settings.generator.load config disk = .ok settings)
    (failed : Model.load analysis disk = .error e) :
    Obstacle module analysis output config disk (.store e)
  | name {settings : ProjectSettings} {m : Model} {name : String}
    (loaded : Settings.generator.load config disk = .ok settings)
    (known : Model.load analysis disk = .ok m) (chosen : name = module.getD settings.moduleName)
    (invalid : name = "" ∨ ∃ c ∈ name.toList, Text.isBlank c = true) :
    Obstacle module analysis output config disk
      (.generation (output.getD (.ofString settings.output)) (.invalidModuleName name))

variable {module : Option String} {analysis : Path} {output config : Option Path}
  {disk after : Disk} {e : TaskError}

theorem run_of_settings_error {cause : Settings.LoadError}
    (failed : Settings.generator.load config disk = .error cause) :
    (loadAndGenerate module analysis output config).run disk
      = ⟨.error (.generatorSettings cause), disk⟩ :=
  Action.run_bind_of_error (Action.run_explain_of_error (Action.run_look_of_eq failed))

theorem run_of_model_error {settings : ProjectSettings} {cause : StoreError}
    (loaded : Settings.generator.load config disk = .ok settings)
    (failed : Model.load analysis disk = .error cause) :
    (loadAndGenerate module analysis output config).run disk = ⟨.error (.store cause), disk⟩ := by
  refine (Action.run_bind_of_ok (Action.run_explain_of_ok (Action.run_look_of_eq loaded))).trans ?_
  exact Action.run_bind_of_error (Action.run_explain_of_error (Action.run_look_of_eq failed))

theorem run_of_loaded {settings : ProjectSettings} {m : Model}
    (loaded : Settings.generator.load config disk = .ok settings)
    (known : Model.load analysis disk = .ok m) :
    (loadAndGenerate module analysis output config).run disk =
      (Action.explain (.generation (output.getD (.ofString settings.output)))
        (Project.generate m (module.getD settings.moduleName)
          (output.getD (.ofString settings.output)) settings.cleanOutput)).run disk := by
  refine (Action.run_bind_of_ok (Action.run_explain_of_ok (Action.run_look_of_eq loaded))).trans ?_
  exact Action.run_bind_of_ok (Action.run_explain_of_ok (Action.run_look_of_eq known))

theorem run_of_obstacle (h : Obstacle module analysis output config disk e) :
    (loadAndGenerate module analysis output config).run disk = ⟨.error e, disk⟩ := by
  cases h with
  | settings failed => exact run_of_settings_error failed
  | model loaded failed => exact run_of_model_error loaded failed
  | name loaded known chosen invalid =>
    rw [run_of_loaded loaded known, ← chosen]
    refine Action.run_explain_of_error (Project.generate_of_rejected _ _ _ ?_)
    exact (ModuleName.isModuleName_eq_false_iff _).mpr invalid

theorem obstacle_of_run (refusal : e.isRefusal = true)
    (failed : (loadAndGenerate module analysis output config).run disk = ⟨.error e, after⟩) :
    Obstacle module analysis output config disk e := by
  cases loaded : Settings.generator.load config disk with
  | error cause =>
    cases (run_of_settings_error loaded).symm.trans failed
    exact .settings loaded
  | ok settings =>
    cases known : Model.load analysis disk with
    | error cause =>
      cases (run_of_model_error loaded known).symm.trans failed
      exact .model loaded known
    | ok m =>
      rw [run_of_loaded loaded known] at failed
      obtain ⟨cause, stopped, rfl⟩ := Action.error_of_run_explain failed
      cases accepted : isModuleName (module.getD settings.moduleName) with
      | false =>
        cases (Project.generate_of_rejected _ _ _ accepted).symm.trans stopped
        exact .name loaded known rfl ((ModuleName.isModuleName_eq_false_iff _).mp accepted)
      | true =>
        have fault := Project.isDiskFailure_of_generate accepted stopped
        cases cause with
        | invalidModuleName name => cases fault
        | _ => cases refusal

/-- A generation refuses to start exactly if it meets an obstacle, and leaves the disk as it is. -/
theorem loadAndGenerate_refuses_iff (module : Option String) (analysis : Path)
    (output config : Option Path) (disk after : Disk) (e : TaskError) :
    (loadAndGenerate module analysis output config).run disk = ⟨.error e, after⟩ ∧
        e.isRefusal = true ↔
      Obstacle module analysis output config disk e ∧ after = disk := by
  constructor
  · rintro ⟨failed, refusal⟩
    have obstacle := obstacle_of_run refusal failed
    cases (run_of_obstacle obstacle).symm.trans failed
    exact ⟨obstacle, rfl⟩
  · rintro ⟨obstacle, rfl⟩
    refine ⟨run_of_obstacle obstacle, ?_⟩
    cases obstacle <;> rfl

/-- Settings that ask for cleaning, a stored model, and an output directory with a file in it. -/
def stale : Disk where
  entries := [
    (["config"], .directory),
    (["config", "config.toml"], .file "[generator]\nclean_output = true\n".toUTF8),
    (["m.json"], .file "{}".toUTF8),
    (["backend-go"], .directory),
    (["backend-go", "old.go"], .file "package old\n".toUTF8)]

theorem ok_of_toOption {ε α : Type} {result : Except ε α} {a : α} (h : result.toOption = some a) :
    result = .ok a := by
  cases result with
  | error e => cases h
  | ok b => exact congrArg Except.ok (Option.some.inj h)

theorem loadAndGenerate_refuses_stale :
    (stale.exists? (.ofString "backend-go") = true ∧
      Settings.generator.load none stale = .ok { cleanOutput := true }) ∧
    (loadAndGenerate (some "two words") ⟨["m.json"]⟩ none none).run stale
      = ⟨.error (.generation (.ofString "backend-go") (.invalidModuleName "two words")),
          stale⟩ := by
  have loaded : Settings.generator.load none stale = .ok { cleanOutput := true } :=
    ok_of_toOption (by decide +kernel)
  have known : Model.load ⟨["m.json"]⟩ stale = .ok {} := ok_of_toOption (by decide)
  have obstacle : Obstacle (some "two words") ⟨["m.json"]⟩ none none stale
      (.generation (.ofString "backend-go") (.invalidModuleName "two words")) :=
    .name loaded known rfl (.inr ⟨' ', by decide, rfl⟩)
  refine ⟨⟨by decide, loaded⟩, ?_⟩
  exact ((loadAndGenerate_refuses_iff _ _ _ _ _ _ _).mpr ⟨obstacle, rfl⟩).1

end Task

end Scaffold
