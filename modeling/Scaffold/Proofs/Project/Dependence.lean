import Scaffold.Project.Generation

/-!
# What artifacts depend on

Two models that agree on the parts that an artifact declares give the same artifact, whatever
else differs between them. Lists of artifacts with this property are put together from smaller
ones; only the few artifacts with contents from the model need a closer look.
-/

namespace Scaffold

/-- The two models agree on this part. -/
def ModelPart.Same : ModelPart → Model → Model → Prop
  | routes, m, n => m.routes = n.routes
  | controllers, m, n => m.controllers = n.controllers
  | middleware, m, n => m.middleware = n.middleware
  | services, m, n => m.services = n.services
  | tables, m, n => m.tables = n.tables
  | dependencies, m, n => m.dependencies = n.dependencies

/-! ## What is computed from a model -/

section Routes

variable {m n : Model} (same : m.routes = n.routes)

include same

theorem isDuplicate_eq_of_routes (r : Route) : m.isDuplicate r = n.isDuplicate r := by
  simp only [Model.isDuplicate, Model.duplicates, Model.pathsOf, same]

theorem pendingGroups_eq_of_routes : m.pendingGroups = n.pendingGroups := by
  have pending : Route.isPending m = Route.isPending n := by
    funext r
    rw [Route.isPending, Route.isPending, isDuplicate_eq_of_routes same]
  simp only [Model.pendingGroups, isDuplicate_eq_of_routes same, pending, same]

theorem methodLines_eq_of_routes :
    ProjectText.Notes.methodLines m = ProjectText.Notes.methodLines n := by
  simp only [ProjectText.Notes.methodLines, Model.routesByMethod, Model.countOf, same]

end Routes

theorem migrationNotes_eq {m n : Model} (routes : m.routes = n.routes)
    (controllers : m.controllers = n.controllers) (middleware : m.middleware = n.middleware)
    (dependencies : m.dependencies = n.dependencies) :
    ProjectText.migrationNotes m = ProjectText.migrationNotes n := by
  simp only [ProjectText.migrationNotes, Model.pendingCount, Model.dependencyRows,
    pendingGroups_eq_of_routes routes, methodLines_eq_of_routes routes, routes, controllers,
    middleware, dependencies]

theorem artifact?_eq_of_tables {m n : Model} (tables : m.tables = n.tables) (k : RecordKind)
    (name : ModuleName) : k.artifact? m name = k.artifact? n name := by
  have hasTable : m.hasTable = n.hasTable := by
    funext table
    rw [Model.hasTable, Model.hasTable, tables]
  have emitted : k.isEmitted m = k.isEmitted n := by
    cases k with
    | account => rfl
    | camera => simp only [RecordKind.isEmitted, RecordKind.recognizedIn, hasTable]
  rw [RecordKind.artifact?, RecordKind.artifact?, emitted]

/-! ## Artifacts -/

/-- Every artifact of the list is there for all models that agree on the parts it declares. -/
def Declared (artifacts : Model → List Artifact) : Prop :=
  ∀ m n, ∀ a ∈ artifacts m, (∀ part ∈ a.inputs, part.Same m n) → a ∈ artifacts n

theorem declared_const (artifacts : List Artifact) : Declared fun _ => artifacts :=
  fun _ _ _ h _ => h

theorem Declared.append {f g : Model → List Artifact} (hf : Declared f) (hg : Declared g) :
    Declared fun m => f m ++ g m := by
  intro m n a ha agree
  rcases List.mem_append.mp ha with ha | ha
  · exact List.mem_append_left _ (hf m n a ha agree)
  · exact List.mem_append_right _ (hg m n a ha agree)

theorem declared_singleton (path : String) {contents : Model → String} {inputs : List ModelPart}
    (h : ∀ m n, (∀ part ∈ inputs, part.Same m n) → contents m = contents n) :
    Declared fun m => [⟨path, contents m, inputs⟩] := by
  intro m n a ha agree
  cases List.mem_singleton.mp ha
  rw [h m n agree]
  exact List.mem_singleton_self _

theorem declared_records (name : ModuleName) :
    Declared fun m => RecordKind.all.filterMap (·.artifact? m name) := by
  intro m n a ha agree
  obtain ⟨k, hk, emitted⟩ := List.mem_filterMap.mp ha
  refine List.mem_filterMap.mpr ⟨k, hk, ?_⟩
  cases k with
  | account => exact emitted
  | camera =>
    have inputs : a.inputs = [.tables] := by
      rw [RecordKind.artifact?] at emitted
      split at emitted
      · cases emitted
        rfl
      · cases emitted
    have tables : m.tables = n.tables := agree .tables (by simp [inputs])
    rw [← artifact?_eq_of_tables tables]
    exact emitted

theorem declared_routes (name : ModuleName) :
    Declared fun m =>
      [⟨"internal/routes/routes.go", ProjectText.routes name.text m.pendingGroups, [.routes]⟩] :=
  declared_singleton _ fun m n agree => by
    rw [pendingGroups_eq_of_routes (m := m) (n := n) (agree .routes (by simp))]

theorem declared_services :
    Declared fun m =>
      [⟨"internal/services/services.go", ProjectText.services m.services, [.services]⟩] :=
  declared_singleton _ fun m n agree => by
    rw [show m.services = n.services from agree .services (by simp)]

theorem declared_notes :
    Declared fun m =>
      [⟨"MIGRATION.md", ProjectText.migrationNotes m,
        [.routes, .controllers, .middleware, .dependencies]⟩] :=
  declared_singleton _ fun _ _ agree =>
    migrationNotes_eq (agree .routes (by simp)) (agree .controllers (by simp))
      (agree .middleware (by simp)) (agree .dependencies (by simp))

theorem declared_artifacts (name : ModuleName) : Declared (·.artifacts name) := by
  have before := declared_const [⟨"go.mod", ProjectText.goMod.fill name.text, []⟩,
    ⟨"cmd/server/main.go", ProjectText.entryPoint.fill name.text, []⟩,
    ⟨"internal/config/config.go", ProjectText.settings, []⟩,
    ⟨".env.example", ProjectText.exampleEnvironment, []⟩,
    ⟨"internal/database/database.go", ProjectText.database, []⟩,
    ⟨"migrations/0001_core_schema.sql", ProjectText.coreMigration, []⟩]
  have auth := declared_const
    [⟨"internal/middleware/auth.go", ProjectText.authMiddleware.fill name.text, []⟩,
      ⟨"internal/handlers/auth.go", ProjectText.authHandler.fill name.text, []⟩]
  have build := declared_const [⟨"pkg/logger/logger.go", ProjectText.logger.fill name.text, []⟩,
    ⟨"Dockerfile", ProjectText.dockerfile.fill name.text, []⟩,
    ⟨"Makefile", ProjectText.makefile.fill name.text, []⟩]
  exact (before.append (declared_records name)).append
    (((auth.append (declared_routes name)).append (declared_services)).append
      (build.append declared_notes))

/-- An artifact stays the same, and stays there, as long as the parts that it declares do. -/
theorem render_depends_on_inputs (m n : Model) (name : ModuleName) :
    m.render name.text = .ok (m.artifacts name) ∧ n.render name.text = .ok (n.artifacts name) ∧
      ∀ a ∈ m.artifacts name, (∀ part ∈ a.inputs, part.Same m n) → a ∈ n.artifacts name :=
  ⟨m.render_text name, n.render_text name, declared_artifacts name m n⟩

/-- The camera type does not notice that all routes are gone: only the tables decide on it. -/
theorem render_depends_on_inputs_camera :
    let m : Model := ⟨[⟨.get, "/", "h", [], "c"⟩], [], [], [], .ofList ["CAMERA"], ∅⟩
    let n : Model := ⟨[], [], [], [], .ofList ["CAMERA"], ∅⟩
    let name : ModuleName := ⟨"x", by decide⟩
    let camera : Artifact :=
      ⟨"internal/models/camera.go", ProjectText.camera.fill "x", [.tables]⟩
    m.routes ≠ n.routes ∧ camera ∈ m.artifacts name ∧
      (∀ part ∈ camera.inputs, part.Same m n) ∧ camera ∈ n.artifacts name := by
  intro m n name camera
  have there : camera ∈ m.artifacts name := by
    refine List.mem_append_left _ (List.mem_append_right _ ?_)
    exact List.mem_filterMap.mpr ⟨.camera, by decide, rfl⟩
  have agree : ∀ part ∈ camera.inputs, part.Same m n := by
    intro part hpart
    rw [List.mem_singleton.mp hpart]
    rfl
  exact ⟨by decide, there, agree, (render_depends_on_inputs m n name).2.2 camera there agree⟩

end Scaffold
