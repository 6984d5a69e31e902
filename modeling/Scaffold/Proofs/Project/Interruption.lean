import Scaffold.Proofs.Project.Layout

/-!
# Generations that stop midway

All directories are made before the first artifact is written, so where one of them cannot be made
no file has come or changed. An artifact that cannot be written stops the generation, and the ones
before it are in place.
-/

namespace Scaffold

namespace Project

variable {m : Model} {name : String} {output : Path} {root : Location} {disk after laid : Disk}
  {a : Artifact} {artifacts : List Artifact} {e : GenerationError}

/-- How many artifacts were written before the failure. A directory is missing before the first one;
else it is the artifact that the failure names, and the project has its directories. -/
inductive Stops (output : Path) (artifacts : List Artifact) (after : Disk) :
    GenerationError → Nat → Prop
  | directory (path : Path) (fault : Fault) :
    Stops output artifacts after (.createDirectory path fault) 0
  | artifact {k : Nat} {a : Artifact} (fault : Fault) (next : artifacts[k]? = some a)
    (alone : ∀ i b, artifacts[i]? = some b →
      output.join (.ofString b.path) = output.join (.ofString a.path) → i = k)
    (directories : ∀ path ∈ directories, after.isDirectory (output.join (.ofString path)) = true) :
    Stops output artifacts after (.writeFile (output.join (.ofString a.path)) fault) k

/-- The artifacts are in their places, and everything else is as it was, apart from new directories
where nothing was. -/
structure Written (output : Path) (root : Location) (artifacts : List Artifact)
    (disk after : Disk) : Prop where
  files : ∀ a ∈ artifacts, after.nodeAt? true (output.join (.ofString a.path))
    = .ok (locationOf root a.path, .file a.contents.toUTF8)
  others : ∀ loc, (∀ a ∈ artifacts, loc ≠ locationOf root a.path) →
    after.node? loc = disk.node? loc ∨
      disk.node? loc = none ∧ after.node? loc = some .directory

theorem Written.of_grows
    (grows : Disk.Grows (artifacts.map fun a => locationOf root a.path) disk after)
    (held : ∀ a ∈ artifacts, Holds after output root a) :
    Written output root artifacts disk after where
  files := held
  others loc elsewhere := grows.node loc fun inside => by
    obtain ⟨a, ha, rfl⟩ := List.mem_map.mp inside
    exact elsewhere a ha rfl

theorem join_injective {path other : String} (areNames : Path.AreNames (names path))
    (areNames' : Path.AreNames (names other))
    (h : output.join (.ofString path) = output.join (.ofString other)) : path = other := by
  have same := congrArg Path.segments h
  have one : Path.ofString path = ⟨names path⟩ := rfl
  have two : Path.ofString other = ⟨names other⟩ := rfl
  rw [one, two, Path.join_solid output areNames.solid, Path.join_solid output areNames'.solid] at same
  exact names_injective (List.append_cancel_left same)

/-! ## Making the directories -/

theorem relates_prepare (path : Path) : (prepare path).Relates (Disk.Grows []) :=
  Action.relates_explain _ fun disk => disk.grows_makeDirectories _ path

theorem relates_createLayout (output : Path) : (createLayout output).Relates (Disk.Grows []) :=
  (Action.relates_each Disk.Grows.refl Disk.Grows.trans (fun _ => relates_prepare _) _).bind
    Disk.Grows.trans fun _ => Action.relates_pure Disk.Grows.refl ()

def IsUnprepared (e : GenerationError) : Prop := ∃ path fault, e = .createDirectory path fault

theorem isUnprepared_of_createLayout (output : Path) :
    (createLayout output).FailsAs IsUnprepared :=
  (Action.failsAs_each (fun _ => Action.failsAs_explain _ fun fault => ⟨_, fault, rfl⟩) _).bind
    fun _ => Action.failsAs_pure ()

/-! ## Writing the artifacts -/

/-- In a project that is laid out, an artifact that fails is one that cannot be written. -/
theorem stays_of_writeArtifact (laid : LaidOut disk output root) (listed : a.path ∈ paths)
    (h : (writeArtifact output a).run disk = ⟨.error e, after⟩) :
    after = disk ∧ ∃ fault, e = .writeFile (output.join (.ofString a.path)) fault := by
  rw [run_writeArtifact laid listed] at h
  rcases Action.error_of_run_bind h with failed | ⟨_, _, _, done⟩
  · obtain ⟨fault, wrote, rfl⟩ := Action.error_of_run_explain failed
    exact ⟨Disk.eq_of_write_error wrote, fault, rfl⟩
  · cases done

/-- The artifacts before the one that fails are written as in a generation of them alone. -/
theorem stops_of_each (listed : ∀ a ∈ artifacts, a.path ∈ paths)
    (nodup : (artifacts.map (·.path)).Nodup) (laid : LaidOut disk output root)
    (h : (Action.each (writeArtifact output) artifacts).run disk = ⟨.error e, after⟩) :
    ∃ k files, (Action.each (writeArtifact output) (artifacts.take k)).run disk
        = ⟨.ok files, after⟩ ∧ Stops output artifacts after e k := by
  obtain ⟨front, a, behind, files, between, rfl, wrote, failed⟩ := Action.error_of_run_each h
  have mem : a ∈ front ++ a :: behind := List.mem_append_right front List.mem_cons_self
  have laidBetween := laid.mono (written_of_each wrote).2
  obtain ⟨rfl, fault, rfl⟩ := stays_of_writeArtifact laidBetween (listed a mem) failed
  have next : (front ++ a :: behind)[front.length]? = some a := by simp
  refine ⟨front.length, files, ?_, .artifact fault next (fun i b found same => ?_) ?_⟩
  · rw [List.take_left]
    exact wrote
  · have areNames := fun c hc =>
      areNames_paths c.path (List.mem_append_left directories (listed c hc))
    have path := join_injective (areNames b (List.mem_of_getElem? found)) (areNames a mem) same
    have inside : i < ((front ++ a :: behind).map (·.path)).length := by
      rw [List.length_map]
      exact (List.getElem?_eq_some_iff.mp found).1
    refine (List.getElem?_inj inside nodup).mp ?_
    rw [List.getElem?_map, List.getElem?_map, found, next, Option.map_some, Option.map_some, path]
  · exact fun path hp => Disk.isDirectory_iff.mpr (laidBetween.directory path hp)

theorem grows_of_stopped {accepted : ModuleName} (laidOut : LaidOut laid output root)
    (noLinks : after.nodeAt? true (output.joinName ".") = .ok (root, .directory) →
      laid.NoLinks root)
    (failed : (Action.each (writeArtifact output) (m.artifacts accepted)).run laid
      = ⟨.error e, after⟩) :
    ∃ k, Stops output (m.artifacts accepted) after e k ∧
      Disk.Grows (((m.artifacts accepted).take k).map fun a => locationOf root a.path) laid after ∧
      ∀ a ∈ (m.artifacts accepted).take k, Holds after output root a := by
  obtain ⟨k, files, wrote, stops⟩ := stops_of_each (listed_artifacts m accepted)
    (nodup_paths.sublist (paths_artifacts m accepted)) laidOut failed
  have rooted := Disk.nodeAt?_directory (written_of_each wrote).2 laidOut.rooted
  have areNames : ∀ a ∈ (m.artifacts accepted).take k, Path.AreNames (names a.path) :=
    fun a ha => areNames_artifact (List.mem_of_mem_take ha)
  have nodup : (((m.artifacts accepted).take k).map fun a => locationOf root a.path).Nodup :=
    (nodup_locations m accepted root).sublist ((List.take_sublist _ _).map _)
  exact ⟨k, stops, holds_of_each areNames nodup rooted (noLinks rooted) wrote⟩

/-! ## The whole generation -/

/-- Where there are no links, a generation that fails has written just the artifacts before the
failure. -/
theorem generate_stops (ran : (generate m name output false).run disk = ⟨.error e, after⟩)
    (noLinks : ∀ root, after.nodeAt? true (output.joinName ".") = .ok (root, .directory) →
      disk.NoLinks root) :
    (m.render name = .error e ∧ after = disk) ∨
      ∃ artifacts k root, m.render name = .ok artifacts ∧ Stops output artifacts after e k ∧
        Written output root (artifacts.take k) disk after := by
  have steps : generate m name output false = (do
      let artifacts ← Action.look fun _ => m.render name
      createLayout output
      let files ← Action.each (writeArtifact output) artifacts
      pure ⟨output, files, m.pendingCount⟩) := rfl
  rw [steps] at ran
  -- The run stopped at the name of the module, in the layout or among the artifacts.
  rcases Action.error_of_run_bind ran with rejected | ⟨artifacts, _, rendered, ran⟩
  · exact .inl ⟨congrArg Outcome.result rejected, (congrArg Outcome.disk rejected).symm⟩
  obtain rfl := (congrArg Outcome.disk rendered : disk = _)
  replace rendered : m.render name = .ok artifacts := congrArg Outcome.result rendered
  obtain ⟨accepted, rfl⟩ := artifacts_of_render rendered
  have grows := relates_createLayout output disk
  right
  rcases Action.error_of_run_bind ran with unprepared | ⟨_, laid, made, ran⟩
  · obtain ⟨path, fault, rfl⟩ := isUnprepared_of_createLayout output disk e after unprepared
    replace unprepared : (createLayout output).run disk = _ := unprepared
    rw [unprepared] at grows
    exact ⟨_, 0, [], rendered, .directory path fault,
      .of_grows grows fun a ha => (List.not_mem_nil ha).elim⟩
  · replace made : (createLayout output).run disk = _ := made
    rw [made] at grows
    obtain ⟨-, root, laidOut⟩ := laidOut_of_createLayout made
    rcases Action.error_of_run_bind ran with failed | ⟨_, _, _, done⟩
    · obtain ⟨k, stops, more, held⟩ :=
        grows_of_stopped laidOut (fun rooted => grows.noLinks (noLinks root rooted)) failed
      exact ⟨_, k, root, rendered, stops, .of_grows (grows.trans more) held⟩
    · cases done

/-- An output directory where another directory has the place of the main file. -/
def obstructed : Disk where
  entries := [
    (["out"], .directory),
    (["out", "go.mod"], .file "module old\n".toUTF8),
    (["out", "cmd"], .directory),
    (["out", "cmd", "server"], .directory),
    (["out", "cmd", "server", "main.go"], .directory)]

theorem noLinks_obstructed (root : Location) : obstructed.NoLinks root := by
  intro loc path _ isLink
  unfold Disk.node? at isLink
  split at isLink
  · cases isLink
  · obtain ⟨before, behind, entries, -⟩ := List.lookup_eq_some_iff.mp isLink
    have listed : (loc, Node.link path) ∈ obstructed.entries := by
      rw [entries]
      exact List.mem_append_right _ List.mem_cons_self
    simp [obstructed] at listed

def mainUnwritten : GenerationError :=
  .writeFile ((Path.ofString "out").join (.ofString "cmd/server/main.go")) .isDirectory

theorem generate_obstructed :
    ((generate {} "x" (.ofString "out") false).run obstructed).result = .error mainUnwritten := by
  decide +kernel

theorem generate_stops_obstructed : ∃ after root,
    (generate {} "x" (.ofString "out") false).run obstructed = ⟨.error mainUnwritten, after⟩ ∧
      Stops (.ofString "out") (({} : Model).artifacts ⟨"x", by decide⟩) after mainUnwritten 1 ∧
      Written (.ofString "out") root ((({} : Model).artifacts ⟨"x", by decide⟩).take 1)
        obstructed after := by
  have run : (generate {} "x" (.ofString "out") false).run obstructed = ⟨.error mainUnwritten,
      ((generate {} "x" (.ofString "out") false).run obstructed).disk⟩ := by
    rw [← generate_obstructed]
  rcases generate_stops run fun root _ => noLinks_obstructed root with
    ⟨rejected, -⟩ | ⟨artifacts, k, root, rendered, stops, written⟩
  · cases (Model.render_text {} ⟨"x", by decide⟩).symm.trans rejected
  · cases (Model.render_text {} ⟨"x", by decide⟩).symm.trans rendered
    have second : 1 = k := by
      generalize same : mainUnwritten = e at stops
      cases stops with
      | directory path fault => cases same
      | artifact fault next alone _ => exact alone 1 _ rfl (GenerationError.writeFile.inj same).1
    subst second
    exact ⟨_, root, run, stops, written⟩

end Project

end Scaffold
