import Scaffold.Proofs.Disk.FileTree
import Scaffold.Proofs.Project.Layout

/-!
# Cleaning the output

An output directory that is cleaned goes with everything below it, and no link in it is followed.
The project is then made anew in an empty directory, so there is just the project in the end.
-/

namespace Scaffold

namespace Project

variable {m : Model} {name : String} {output : Path} {root old loc : Location}
  {disk before after laid : Disk} {a : Artifact} {artifacts : List Artifact} {node : Node}
  {P : Location → Prop}

/-- Below the root there is the project and nothing else: its directories with those above them,
and the artifacts with their contents. -/
def IsProject (disk : Disk) (root : Location) (artifacts : List Artifact) : Prop :=
  ∀ below node, disk.node? (root ++ below) = some node ↔
    (node = .directory ∧ ∃ path ∈ directories, below <+: names path) ∨
      ∃ a ∈ artifacts, below = names a.path ∧ node = .file a.contents.toUTF8

theorem not_prefix_directory {path directory : String} (listed : path ∈ paths)
    (mem : directory ∈ directories) : ¬ names path <+: names directory := by
  have all : ∀ segments ∈ paths.map names, ∀ above ∈ directories.map names,
      ¬ segments <+: above := by
    rw [names_paths, names_directories]
    decide
  exact all _ (List.mem_map_of_mem listed) _ (List.mem_map_of_mem mem)

theorem node?_of_laidOut {path : String} {below : Location} (laidOut : LaidOut laid output root)
    (noLinks : laid.NoLinks root) (there : laid.node? root = some .directory)
    (mem : path ∈ directories) (inside : below <+: names path) :
    laid.node? (root ++ below) = some .directory := by
  by_cases none : below = []
  · rw [none, List.append_nil, there]
  · obtain ⟨loc, found⟩ := laidOut.directory path mem
    have areNames := areNames_directory mem
    obtain ⟨root', left, slash, rooted, walked⟩ := Disk.root_of_locate
      (Disk.Grows.refl laid).keepsWays areNames (Disk.locate_of_nodeAt? found)
    cases laidOut.rooted.symm.trans rooted
    obtain ⟨_, leads⟩ := Disk.leads_iff_walk.mpr walked
    exact leads.directory areNames.isName List.prefix_rfl noLinks below inside none

/-- In a directory that was empty there are just the directories of the project. -/
structure LaidAnew (output : Path) (root : Location) (before laid : Disk) : Prop where
  laidOut : LaidOut laid output root
  noLinks : laid.NoLinks root
  inside : ∀ below node, laid.node? (root ++ below) = some node ↔
    node = .directory ∧ ∃ path ∈ directories, below <+: names path
  outside : ∀ loc, ¬ root <+: loc → laid.node? loc = before.node? loc

theorem laidAnew_of_opened (opened : Opened P output disk before root)
    (made : (createLayout output).run (before.set root .directory) = ⟨.ok (), laid⟩) :
    LaidAnew output root before laid := by
  obtain ⟨grows, root', laidOut⟩ := laidOut_of_createLayout made
  cases (Disk.nodeAt?_directory grows.keepsWays opened.rooted).symm.trans laidOut.rooted
  obtain ⟨_, _, each, done⟩ := Action.ok_of_run_bind made
  cases done
  have extended := extends_of_each (fun _ hp => hp) opened.rooted opened.noLinks each
  have noLinks := grows.noLinks opened.noLinks
  have there : laid.node? root = some .directory :=
    grows.node?_of_some List.not_mem_nil (by rw [opened.node?_set, if_pos rfl])
  refine ⟨laidOut, noLinks, fun below node => ⟨fun h => ?_, ?_⟩, fun loc outside => ?_⟩
  · -- The root was empty, so what is below it now is the root or a directory of the layout.
    rcases extended.node (root ++ below) with same | ⟨_, new, path, mem, front, inside, _, place⟩
    · rw [same, opened.node?_set] at h
      split at h
      · rename_i place
        cases h
        obtain rfl : below = [] := List.append_right_eq_self.mp place
        exact ⟨rfl, "cmd/server", List.mem_cons_self, List.nil_prefix⟩
      · cases (opened.clear _ (List.prefix_append root below)).symm.trans h
    · cases h.symm.trans new
      obtain rfl := List.append_cancel_left place
      exact ⟨rfl, path, mem, inside⟩
  · rintro ⟨rfl, path, mem, inside⟩
    exact node?_of_laidOut laidOut noLinks there mem inside
  · have notLayout : ¬ InLayout root loc := by
      rintro ⟨_, _, front, _, _, rfl⟩
      exact outside (List.prefix_append root front)
    have notRoot : loc ≠ root := by
      rintro rfl
      exact outside List.prefix_rfl
    rw [extended.node?_eq notLayout, opened.node?_set, if_neg notRoot]

/-- A project that is made in an empty directory is all that there is. -/
theorem isProject_of_opened {accepted : ModuleName} {files : List WrittenFile}
    (opened : Opened P output disk before root)
    (made : (createLayout output).run (before.set root .directory) = ⟨.ok (), laid⟩)
    (wrote : (Action.each (writeArtifact output) (m.artifacts accepted)).run laid
      = ⟨.ok files, after⟩) :
    IsProject after root (m.artifacts accepted) ∧
      ∀ loc, ¬ root <+: loc → after.node? loc = before.node? loc := by
  obtain ⟨laidOut, noLinks, inside, outside⟩ := laidAnew_of_opened opened made
  obtain ⟨written, kept⟩ := contents_of_each (listed_artifacts m accepted)
    (nodup_locations m accepted root) laidOut noLinks wrote
  refine ⟨fun below node => ⟨fun h => ?_, ?_⟩, fun loc elsewhere => ?_⟩
  · by_cases hit : ∃ a ∈ m.artifacts accepted, root ++ below = locationOf root a.path
    · obtain ⟨a, ha, place⟩ := hit
      rw [place, written a ha] at h
      exact .inr ⟨a, ha, List.append_cancel_left place, (Option.some.inj h).symm⟩
    · rw [kept _ fun a ha place => hit ⟨a, ha, place⟩] at h
      exact .inl ((inside below node).mp h)
  · rintro (isDirectory | ⟨a, ha, rfl, rfl⟩)
    · rw [kept]
      · exact (inside below node).mpr isDirectory
      · rintro a ha place
        obtain ⟨-, path, mem, within⟩ := isDirectory
        obtain rfl := List.append_cancel_left place
        exact not_prefix_directory (listed_artifacts m accepted a ha) mem within
    · exact written a ha
  · rw [kept loc, outside loc elsewhere]
    rintro a - rfl
    exact elsewhere (List.prefix_append root _)

theorem IsProject.node?_root (h : IsProject disk root artifacts) :
    disk.node? root = some .directory := by
  have first : "cmd/server" ∈ directories := List.mem_cons_self
  have found := (h [] .directory).mpr (.inl ⟨rfl, _, first, List.nil_prefix⟩)
  rwa [List.append_nil] at found

theorem Opened.keepsWays {files : List WrittenFile} (opened : Opened P output disk before root)
    (made : (createLayout output).run (before.set root .directory) = ⟨.ok (), laid⟩)
    (wrote : (Action.each (writeArtifact output) artifacts).run laid = ⟨.ok files, after⟩) :
    Disk.KeepsWays before after :=
  (opened.extends_set.grows.keepsWays.trans (laidOut_of_createLayout made).1.keepsWays).trans
    (written_of_each wrote).2

theorem Opened.endsAt_output (opened : Opened P output disk before root)
    (named : output.fileName? = some name) (ends : output.EndsInName)
    (ways : Disk.KeepsWays before after) : Disk.EndsAt after output root :=
  (opened.endsAt.mono ways.embeds).congr output.above_home.absolute.symm
    (Path.solid_home named ends).symm

theorem removeAll_of_tidy (present : disk.exists? output = true)
    (named : output.fileName? = some name) (h : (tidy output true).run disk = ⟨.ok (), after⟩) :
    disk.removeAll output = ⟨.ok (), after⟩ := by
  rw [run_tidy, present, named] at h
  exact Action.ok_of_run_explain h

theorem keepsTrees_tidy (output : Path) (cleanOutput : Bool) :
    (tidy output cleanOutput).KeepsTrees := by
  cases cleanOutput with
  | false => exact Action.keepsTrees_pure ()
  | true =>
    refine (Action.keepsTrees_look _).bind fun present => ?_
    split
    · exact (Action.keepsTrees_removeAll output).explain _
    · exact Action.keepsTrees_pure ()

/-- Cleaning takes away all that was in the output directory and nothing else, and then just the
project is there. If the output directory was a link, only the link is taken away. -/
theorem generate_cleans {report : GenerationReport} (present : disk.exists? output = true)
    (named : output.fileName?.isSome = true) (noUps : .up ∉ output.components)
    (ran : (generate m name output true).run disk = ⟨.ok report, after⟩) :
    ∃ artifacts old node root, m.render name = .ok artifacts ∧
      disk.nodeAt? false ⟨Path.trimSlashes output.segments⟩ = .ok (old, node) ∧
      after.nodeAt? false ⟨Path.trimSlashes output.segments⟩ = .ok (root, .directory) ∧
      IsProject after root artifacts ∧
      (∀ loc, ¬ old <+: loc → after.node? loc = disk.node? loc) ∧
      (∀ loc, old <+: loc → ¬ root <+: loc →
        after.node? loc = none ∨ after.node? loc = some .directory) ∧
      (disk.IsTree → ∀ target, node = .link target →
        ∀ loc found, loc ≠ old → disk.node? loc = some found → after.node? loc = some found) := by
  obtain ⟨artifacts, files, cleaned, laid, rendered, tidied, made, wrote, rfl⟩ :=
    run_generate_iff.mp ran
  obtain ⟨accepted, rfl⟩ := artifacts_of_render rendered
  obtain ⟨s, named⟩ := Option.isSome_iff_exists.mp named
  obtain ⟨ends, old, node, endsAt, there, rfl⟩ :=
    Disk.removeAll_ok named (removeAll_of_tidy present named tidied)
  obtain ⟨before, root, opened, made⟩ := createLayout_opens
    (Disk.unreached_of_removed named ends endsAt)
    (Disk.opens_removed endsAt there (Path.descends_of_no_ups noUps)) made
  obtain ⟨project, outside⟩ := isProject_of_opened opened made wrote
  have accepted := Disk.accepts_of_exists present
  have frame : ∀ loc, ¬ old <+: loc → after.node? loc = disk.node? loc := fun loc elsewhere => by
    have notRoot : ¬ root <+: loc := fun inside => elsewhere (opened.place.trans inside)
    rw [outside loc notRoot, opened.above.node?_eq elsewhere, Disk.node?_removeTree endsAt.below,
      if_neg elsewhere]
  refine ⟨_, old, node, root, rendered, endsAt.found_trimmed accepted there, ?_, project, frame,
    fun loc inside notProject => ?_, fun tree target isLink loc found other taken => ?_⟩
  · exact (opened.endsAt_output named ends (opened.keepsWays made wrote)).found_trimmed accepted
      project.node?_root
  · rw [outside loc notProject]
    rcases opened.above.node loc with same | ⟨_, new, _⟩
    · exact .inl (same.trans (Disk.clear_removeTree endsAt.below inside).here)
    · exact .inr new
  · -- Nothing is below a link.
    rw [frame loc, taken]
    rintro ⟨more, rfl⟩
    have lower : more ≠ [] := fun none => other (by rw [none, List.append_nil])
    cases (there.symm.trans (tree.above lower taken)).symm.trans (congrArg some isLink)

/-- An output directory with an old file, and a link in it that leads out. -/
def stale : FileTree where
  disk.entries := [
    (["keep"], .directory),
    (["keep", "notes.md"], .file "keep\n".toUTF8),
    (["out"], .directory),
    (["out", "old.go"], .file "package old\n".toUTF8),
    (["out", "shared"], .link (.ofString "../keep"))]
  isTree := by
    refine Disk.isTree_of_entries (fun entry mem => ?_) rfl
    simp only [List.mem_cons, List.not_mem_nil, or_false] at mem
    rcases mem with rfl | rfl | rfl | rfl | rfl <;> rfl

theorem generate_stale :
    ((generate {} "x" (.ofString "out") true).run stale.disk).result.toOption.isSome = true := by
  decide +kernel

theorem generate_cleans_stale : ∃ report after root,
    (generate {} "x" (.ofString "out") true).run stale.disk = ⟨.ok report, after⟩ ∧
      IsProject after root (({} : Model).artifacts ⟨"x", by decide⟩) ∧
      after.node? ["keep", "notes.md"] = some (.file "keep\n".toUTF8) ∧
      ∀ bytes, after.node? ["out", "old.go"] ≠ some (.file bytes) := by
  obtain ⟨report, after, run⟩ := Action.exists_ok_of_run generate_stale
  obtain ⟨artifacts, old, node, root, rendered, found, -, project, frame, emptied, -⟩ :=
    generate_cleans (by decide +kernel) (by decide +kernel) (by decide +kernel) run
  cases (Model.render_text {} ⟨"x", by decide⟩).symm.trans rendered
  have place : stale.disk.nodeAt? false ⟨Path.trimSlashes (Path.ofString "out").segments⟩
      = .ok (["out"], .directory) := by rfl
  cases place.symm.trans found
  refine ⟨report, after, root, run, project, frame _ (by decide), fun bytes there => ?_⟩
  by_cases inside : root <+: ["out", "old.go"]
  · obtain ⟨below, parts⟩ := inside
    rw [← parts, project] at there
    have notPath : ∀ segments ∈ paths.map names, ¬ segments <:+ ["out", "old.go"] := by
      rw [names_paths]
      decide
    rcases there with ⟨isDirectory, _⟩ | ⟨a, ha, rfl, _⟩
    · cases isDirectory
    · have listed := (paths_artifacts {} _).subset (List.mem_map_of_mem ha)
      exact notPath _ (List.mem_map_of_mem listed) ⟨root, parts⟩
  · rcases emptied _ (by decide) inside with free | isDirectory
    · cases free.symm.trans there
    · cases isDirectory.symm.trans there

end Project

end Scaffold
