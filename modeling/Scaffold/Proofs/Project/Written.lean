import Scaffold.Project.Generation
import Scaffold.Proofs.Disk.Growth
import Scaffold.Proofs.Disk.Sequence

/-!
# What a generation leaves

A generation that succeeds leaves its directories and artifacts below its output directory. Each
artifact is written to a place of its own, so it stays as it was written while the others follow.
-/

namespace Scaffold

namespace Project

/-! ## The paths of the artifacts -/

def paths : List String := [
  "go.mod",
  "cmd/server/main.go",
  "internal/config/config.go",
  ".env.example",
  "internal/database/database.go",
  "migrations/0001_core_schema.sql",
  "internal/models/user.go",
  "internal/models/camera.go",
  "internal/middleware/auth.go",
  "internal/handlers/auth.go",
  "internal/routes/routes.go",
  "internal/services/services.go",
  "pkg/logger/logger.go",
  "Dockerfile",
  "Makefile",
  "MIGRATION.md"]

theorem paths_records (m : Model) (name : ModuleName) (ks : List RecordKind) :
    (ks.filterMap (·.artifact? m name)).map (·.path) =
      (ks.filter (·.isEmitted m)).map (·.file) := by
  induction ks with
  | nil => rfl
  | cons k ks ih =>
    rw [List.filterMap_cons, List.filter_cons, RecordKind.artifact?]
    by_cases emitted : k.isEmitted m = true
    · simp [emitted, ih]
    · simp [emitted, ih]

theorem paths_artifacts (m : Model) (name : ModuleName) :
    ((m.artifacts name).map (·.path)).Sublist paths := by
  have records : ((RecordKind.all.filter (·.isEmitted m)).map (·.file)).Sublist
      (RecordKind.all.map (·.file)) := List.filter_sublist.map _
  rw [← paths_records m name] at records
  rw [Model.artifacts, List.map_append, List.map_append]
  exact ((List.Sublist.refl _).append records).append (List.Sublist.refl _)

theorem listed_artifacts (m : Model) (accepted : ModuleName) :
    ∀ a ∈ m.artifacts accepted, a.path ∈ paths := fun _ ha =>
  (paths_artifacts m accepted).subset (List.mem_map_of_mem ha)

def names (path : String) : List String := (Path.ofString path).segments

theorem names_directories : directories.map names = [
    ["cmd", "server"],
    ["internal", "config"],
    ["internal", "database"],
    ["internal", "models"],
    ["internal", "middleware"],
    ["internal", "handlers"],
    ["internal", "routes"],
    ["internal", "services"],
    ["internal", "utils"],
    ["pkg", "logger"],
    ["migrations"]] := by
  decide +kernel

theorem names_paths : paths.map names = [
    ["go.mod"],
    ["cmd", "server", "main.go"],
    ["internal", "config", "config.go"],
    [".env.example"],
    ["internal", "database", "database.go"],
    ["migrations", "0001_core_schema.sql"],
    ["internal", "models", "user.go"],
    ["internal", "models", "camera.go"],
    ["internal", "middleware", "auth.go"],
    ["internal", "handlers", "auth.go"],
    ["internal", "routes", "routes.go"],
    ["internal", "services", "services.go"],
    ["pkg", "logger", "logger.go"],
    ["Dockerfile"],
    ["Makefile"],
    ["MIGRATION.md"]] := by
  decide +kernel

theorem areNames_paths : ∀ path ∈ paths ++ directories, Path.AreNames (names path) := by
  have all : ∀ segments ∈ (paths ++ directories).map names, Path.AreNames segments := by
    rw [List.map_append, names_paths, names_directories]
    decide
  exact fun path hp => all (names path) (List.mem_map_of_mem hp)

theorem names_injective {path other : String} (h : names path = names other) : path = other := by
  have texts : (Path.ofString path).text = (Path.ofString other).text :=
    congrArg ("/".intercalate ·) h
  rwa [Path.text_ofString, Path.text_ofString] at texts

theorem nodup_paths : paths.Nodup := by decide

theorem areNames_artifact {m : Model} {name : ModuleName} {a : Artifact}
    (h : a ∈ m.artifacts name) : Path.AreNames (names a.path) := by
  have listed : a.path ∈ paths := (paths_artifacts m name).subset (List.mem_map_of_mem h)
  exact areNames_paths a.path (List.mem_append_left _ listed)

def locationOf (root : Location) (path : String) : Location := root ++ names path

theorem nodup_locations (m : Model) (name : ModuleName) (root : Location) :
    ((m.artifacts name).map fun a => locationOf root a.path).Nodup := by
  have distinct : ((m.artifacts name).map (·.path)).Nodup :=
    nodup_paths.sublist (paths_artifacts m name)
  have located : (((m.artifacts name).map (·.path)).map (locationOf root)).Nodup := by
    refine List.Pairwise.map _ (fun path other differ same => differ ?_) distinct
    exact names_injective (List.append_cancel_left same)
  rwa [List.map_map] at located

/-! ## Directories -/

variable {m : Model} {name : String} {output : Path} {root : Location} {disk after : Disk}
  {a : Artifact} {artifacts : List Artifact}

theorem makeAll_of_prepare {path : Path} (h : (prepare path).run disk = ⟨.ok (), after⟩) :
    disk.makeAll path = ⟨.ok (), after⟩ := by
  have made := Action.ok_of_run_explain h
  exact made

theorem grows_of_prepare {path : Path} (h : (prepare path).run disk = ⟨.ok (), after⟩) :
    Disk.Grows [] disk after := by
  have grows := disk.grows_makeDirectories (path.segments.length + 1) path
  rwa [← Disk.makeAll, makeAll_of_prepare h] at grows

theorem directory_of_prepare {path : String} (areNames : Path.AreNames (names path))
    (h : (prepare (output.join (.ofString path))).run disk = ⟨.ok (), after⟩) :
    ∃ loc, after.nodeAt? true (output.join (.ofString path)) = .ok (loc, .directory) := by
  have named : (output.join (.ofString path)).components ≠ [] := by
    rw [show Path.ofString path = ⟨names path⟩ from rfl, Path.components_join output areNames]
    simp [areNames.some]
  have last : (output.join (.ofString path)).segments.getLast? ≠ some "" := by
    rw [show Path.ofString path = ⟨names path⟩ from rfl, Path.join_solid output areNames.solid]
    exact Path.getLast?_append_solid _ areNames.solid
  have found := Disk.isDirectory_of_makeDirectories named last (makeAll_of_prepare h)
  unfold Disk.isDirectory at found
  split at found
  · rename_i loc node
    exact ⟨loc, node⟩
  · cases found

theorem layout_of_each {paths : List String} {units : List Unit}
    (areNames : ∀ path ∈ paths, Path.AreNames (names path))
    (h : (Action.each (fun path => prepare (output.join (.ofString path))) paths).run disk
      = ⟨.ok units, after⟩) :
    Disk.Grows [] disk after ∧ ∀ path ∈ paths, ∃ loc,
      after.nodeAt? true (output.join (.ofString path)) = .ok (loc, .directory) := by
  induction paths generalizing disk units with
  | nil =>
    cases h
    exact ⟨.refl _, fun path hp => absurd hp List.not_mem_nil⟩
  | cons path rest ih =>
    obtain ⟨_, between, later, first, others, rfl⟩ := Action.ok_of_run_each_cons h
    obtain ⟨proper, properRest⟩ := List.forall_mem_cons.mp areNames
    obtain ⟨grows, found⟩ := ih properRest others
    refine ⟨(grows_of_prepare first).trans grows, List.forall_mem_cons.mpr ⟨?_, found⟩⟩
    obtain ⟨loc, node⟩ := directory_of_prepare proper first
    exact ⟨loc, Disk.nodeAt?_directory grows.keepsWays node⟩

/-! ## Artifacts -/

/-- An artifact that is written replaces what was in its place, after directories were made. -/
structure Puts (output : Path) (a : Artifact) (disk between : Disk) (spot : Spot) (loc : Location) :
    Prop where
  grows : Disk.Grows [] disk between
  located : between.locate true (output.join (.ofString a.path)) = .ok spot
  target : spot.target? = some loc

variable {between : Disk} {spot : Spot} {loc : Location} {file : WrittenFile}

theorem puts_of_writeArtifact (h : (writeArtifact output a).run disk = ⟨.ok file, after⟩) :
    file = ⟨output.join (.ofString a.path), a.inputs⟩ ∧ ∃ between spot loc,
      Puts output a disk between spot loc ∧
      after = between.set loc (.file a.contents.toUTF8) := by
  have written : ∀ between, Disk.Grows [] disk between → (do
      Action.explain (.writeFile (output.join (.ofString a.path)))
        (·.write (output.join (.ofString a.path)) a.contents.toUTF8)
      pure ⟨output.join (.ofString a.path), a.inputs⟩ :
        Action GenerationError WrittenFile).run between = ⟨.ok file, after⟩ →
      file = ⟨output.join (.ofString a.path), a.inputs⟩ ∧ ∃ between spot loc,
        Puts output a disk between spot loc ∧
        after = between.set loc (.file a.contents.toUTF8) := by
    intro between grows h
    obtain ⟨_, later, wrote, h⟩ := Action.ok_of_run_bind h
    cases h
    obtain ⟨spot, loc, located, target, rfl⟩ :=
      Disk.target_of_write (Action.ok_of_run_explain wrote)
    exact ⟨rfl, between, spot, loc, ⟨grows, located, target⟩, rfl⟩
  unfold writeArtifact at h
  dsimp only at h
  split at h
  · obtain ⟨_, between, prepared, h⟩ := Action.ok_of_run_bind h
    exact written between (grows_of_prepare prepared) h
  · exact written disk (.refl disk) h

theorem Puts.keepsWays (h : Puts output a disk between spot loc) (bytes : ByteArray) :
    Disk.KeepsWays disk (between.set loc (.file bytes)) := by
  obtain ⟨_, dir, segments, _, walked⟩ := Disk.locate_eq_ok_iff.mp h.located
  exact h.grows.keepsWays.trans (Disk.keepsWays_set (Disk.node?_target walked h.target))

theorem Puts.below (h : Puts output a disk between spot loc) : loc ≠ [] :=
  Disk.ne_nil_of_target h.located h.target

theorem written_of_each {files : List WrittenFile}
    (h : (Action.each (writeArtifact output) artifacts).run disk = ⟨.ok files, after⟩) :
    files = artifacts.map (fun a => ⟨output.join (.ofString a.path), a.inputs⟩) ∧
      Disk.KeepsWays disk after := by
  induction artifacts generalizing disk files with
  | nil =>
    cases h
    exact ⟨rfl, (Disk.Grows.refl _).keepsWays⟩
  | cons a rest ih =>
    obtain ⟨file, between, later, first, others, rfl⟩ := Action.ok_of_run_each_cons h
    obtain ⟨rfl, _, _, _, puts, rfl⟩ := puts_of_writeArtifact first
    obtain ⟨rfl, ways⟩ := ih others
    exact ⟨rfl, (puts.keepsWays _).trans ways⟩

/-- The path of the artifact leads to the location, and its contents are there. -/
def Holds (disk : Disk) (output : Path) (root : Location) (a : Artifact) : Prop :=
  disk.nodeAt? true (output.join (.ofString a.path))
    = .ok (locationOf root a.path, .file a.contents.toUTF8)

/-- All artifacts hold at the end, and nothing else changes, if no two have one location. -/
theorem holds_of_each {files : List WrittenFile}
    (areNames : ∀ a ∈ artifacts, Path.AreNames (names a.path))
    (nodup : (artifacts.map fun a => locationOf root a.path).Nodup)
    (rooted : after.nodeAt? true (output.joinName ".") = .ok (root, .directory))
    (noLinks : disk.NoLinks root)
    (h : (Action.each (writeArtifact output) artifacts).run disk = ⟨.ok files, after⟩) :
    Disk.Grows (artifacts.map fun a => locationOf root a.path) disk after ∧
      ∀ a ∈ artifacts, Holds after output root a := by
  induction artifacts generalizing disk files with
  | nil =>
    cases h
    exact ⟨.refl _, fun a ha => absurd ha List.not_mem_nil⟩
  | cons a rest ih =>
    obtain ⟨file, _, later, first, others, rfl⟩ := Action.ok_of_run_each_cons h
    obtain ⟨-, between, spot, loc, puts, rfl⟩ := puts_of_writeArtifact first
    obtain ⟨proper, properRest⟩ := List.forall_mem_cons.mp areNames
    obtain ⟨apart, nodupRest⟩ := List.nodup_cons.mp nodup
    have laterWays := (written_of_each others).2
    have setWays : Disk.KeepsWays between (between.set loc (.file a.contents.toUTF8)) :=
      Puts.keepsWays ⟨.refl between, puts.located, puts.target⟩ _
    have free := puts.grows.noLinks noLinks
    obtain rfl : loc = locationOf root a.path := by
      rw [← Spot.place_of_target puts.target]
      exact Disk.place_of_locate (setWays.trans laterWays) rooted free proper puts.located
    obtain ⟨grows, held⟩ := ih properRest nodupRest (Disk.noLinks_setFile puts.below free) others
    refine ⟨(puts.grows.trans (Disk.grows_setFile puts.below)).trans grows, ?_⟩
    refine List.forall_mem_cons.mpr ⟨?_, held⟩
    -- The later artifacts have other locations, so they leave this one alone.
    have kept : after.node? (locationOf root a.path) = some (.file a.contents.toUTF8) := by
      refine grows.node?_of_some apart ?_
      rw [Disk.node?_set puts.below, if_pos rfl]
    rw [Holds, Disk.nodeAt?,
      Disk.locate_target (setWays.trans laterWays) puts.located puts.target kept]

/-! ## The whole project -/

/-- The project is there from its root on, and everything else is as it was, apart from new
directories where nothing was. -/
structure Leaves (output : Path) (root : Location) (artifacts : List Artifact)
    (disk after : Disk) : Prop where
  directories : ∀ path ∈ directories, after.nodeAt? true (output.join (.ofString path))
    = .ok (locationOf root path, .directory)
  files : ∀ a ∈ artifacts, after.nodeAt? true (output.join (.ofString a.path))
    = .ok (locationOf root a.path, .file a.contents.toUTF8)
  others : ∀ loc, (∀ a ∈ artifacts, loc ≠ locationOf root a.path) →
    after.node? loc = disk.node? loc ∨
      disk.node? loc = none ∧ after.node? loc = some .directory

theorem artifacts_of_render (h : m.render name = .ok artifacts) :
    ∃ accepted, artifacts = m.artifacts accepted := by
  unfold Model.render at h
  split at h
  · rename_i accepted _
    cases h
    exact ⟨accepted, rfl⟩
  · cases h

/-- A successful generation leaves the rendered project below its output directory, if there are no
links in it. -/
theorem generate_leaves {report : GenerationReport}
    (ran : (generate m name output false).run disk = ⟨.ok report, after⟩) :
    ∃ artifacts root, m.render name = .ok artifacts ∧
      report = ⟨output, artifacts.map fun a => ⟨output.join (.ofString a.path), a.inputs⟩,
        m.pendingCount⟩ ∧
      after.nodeAt? true (output.joinName ".") = .ok (root, .directory) ∧
      (∀ old, disk.nodeAt? true (output.joinName ".") = .ok (old, .directory) → old = root) ∧
      (disk.NoLinks root → Leaves output root artifacts disk after) := by
  unfold generate at ran
  obtain ⟨artifacts, _, rendered, ran⟩ := Action.ok_of_run_bind ran
  obtain rfl := (congrArg Outcome.disk rendered : disk = _)
  replace rendered : m.render name = .ok artifacts := congrArg Outcome.result rendered
  obtain ⟨accepted, rfl⟩ := artifacts_of_render rendered
  rw [if_neg Bool.false_ne_true] at ran
  obtain ⟨_, laid, made, ran⟩ := Action.ok_of_run_bind ran
  obtain ⟨_, _, made, done⟩ := Action.ok_of_run_bind made
  cases done
  obtain ⟨files, _, wrote, ran⟩ := Action.ok_of_run_bind ran
  cases ran
  have proper : ∀ path ∈ directories, Path.AreNames (names path) := fun path hp =>
    areNames_paths path (List.mem_append_right _ hp)
  have properFiles : ∀ a ∈ m.artifacts accepted, Path.AreNames (names a.path) := fun _ ha =>
    areNames_artifact ha
  -- The layout only grows the disk and the artifacts keep its ways, so `root` stays the root.
  obtain ⟨laidGrows, found⟩ := layout_of_each proper made
  obtain ⟨rfl, ways⟩ := written_of_each wrote
  have first : "cmd/server" ∈ directories := List.mem_cons_self
  obtain ⟨_, node⟩ := found _ first
  obtain ⟨root, _, _, rooted, _⟩ :=
    Disk.root_of_locate ways (proper _ first) (Disk.locate_of_nodeAt? node)
  refine ⟨_, root, rendered, rfl, rooted, fun old there => ?_, fun noLinks => ?_⟩
  · cases (Disk.nodeAt?_directory (laidGrows.keepsWays.trans ways) there).symm.trans rooted
    rfl
  have free := laidGrows.noLinks noLinks
  obtain ⟨grows, held⟩ :=
    holds_of_each properFiles (nodup_locations m accepted root) rooted free wrote
  constructor
  case directories =>
    intro path hp
    obtain ⟨loc, node⟩ := found path hp
    have place : loc = locationOf root path :=
      Disk.place_of_locate ways rooted free (proper path hp) (Disk.locate_of_nodeAt? node)
    rw [← place]
    exact Disk.nodeAt?_directory ways node
  case files => exact held
  case others =>
    intro loc elsewhere
    refine (laidGrows.trans grows).node loc fun inside => ?_
    obtain ⟨a, ha, rfl⟩ := List.mem_map.mp inside
    exact elsewhere a ha rfl

/-- An output directory with a file of a project and another one, and a link outside it. -/
def used : Disk where
  entries := [
    (["out"], .directory),
    (["out", "go.mod"], .file "module old\n".toUTF8),
    (["out", "NOTES.md"], .file "keep\n".toUTF8),
    (["latest"], .link (.ofString "out"))]

theorem noLinks_used : used.NoLinks ["out"] := by
  intro loc path below isLink
  have listed : (loc, Node.link path) ∈ used.entries := by
    unfold Disk.node? at isLink
    split at isLink
    · cases isLink
    · obtain ⟨before, behind, entries, -⟩ := List.lookup_eq_some_iff.mp isLink
      rw [entries]
      exact List.mem_append_right _ List.mem_cons_self
  simp only [used, List.mem_cons, Prod.mk.injEq, reduceCtorEq, and_false, false_or,
    List.not_mem_nil, or_false] at listed
  rw [listed.1] at below
  exact absurd below (by decide)

theorem generate_used :
    ((generate {} "x" (.ofString "out") false).run used).result.toOption.isSome = true := by
  decide +kernel

theorem generate_leaves_used : ∃ report after,
    (generate {} "x" (.ofString "out") false).run used = ⟨.ok report, after⟩ ∧
      Leaves (.ofString "out") ["out"] (({} : Model).artifacts ⟨"x", by decide⟩) used after ∧
      after.node? ["out", "NOTES.md"] = some (.file "keep\n".toUTF8) := by
  obtain ⟨report, after, run⟩ := Action.exists_ok_of_run generate_used
  obtain ⟨artifacts, root, rendered, -, -, same, leaves⟩ := generate_leaves run
  obtain rfl := same ["out"] (by rfl)
  cases (Model.render_text {} ⟨"x", by decide⟩).symm.trans rendered
  have left := leaves noLinks_used
  refine ⟨report, after, run, left, ?_⟩
  have elsewhere : ∀ path ∈ paths, ["out", "NOTES.md"] ≠ locationOf ["out"] path := by
    intro path listed same
    have notes : names "NOTES.md" = ["NOTES.md"] :=
      congrArg Path.segments (Path.ofString_of_isName (by decide))
    have same : names "NOTES.md" = names path := notes.trans (List.cons.inj same).2
    rw [← names_injective same] at listed
    exact absurd listed (by decide)
  rcases left.others ["out", "NOTES.md"] fun a ha => elsewhere a.path
    ((paths_artifacts {} _).subset (List.mem_map_of_mem ha)) with same | ⟨free, _⟩
  · exact same
  · cases free

end Project

end Scaffold
