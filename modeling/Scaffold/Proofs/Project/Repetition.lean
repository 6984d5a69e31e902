import Scaffold.Proofs.Disk.Sameness
import Scaffold.Proofs.Project.Cleaning

/-!
# Generating once more

A project that was just generated is generated again in the same way. Without cleaning, all
directories are there and every artifact is written over itself. With cleaning, what is taken away
is the output directory that the first run made, and it is made again in the same place.
-/

namespace Scaffold

namespace Disk

variable {disk between after : Disk} {loc : Location} {bytes : ByteArray}

/-- What is there stays of its kind, and files may have other contents. -/
structure KeepsKinds (disk after : Disk) : Prop extends KeepsWays disk after where
  file : ∀ x old, disk.node? x = some (.file old) → ∃ new, after.node? x = some (.file new)

theorem KeepsKinds.refl (disk : Disk) : KeepsKinds disk disk :=
  ⟨(Grows.refl disk).keepsWays, fun _ old isFile => ⟨old, isFile⟩⟩

theorem KeepsKinds.trans (first : KeepsKinds disk between) (second : KeepsKinds between after) :
    KeepsKinds disk after := by
  refine ⟨first.toKeepsWays.trans second.toKeepsWays, fun x old isFile => ?_⟩
  obtain ⟨new, isFile⟩ := first.file x old isFile
  exact second.file x new isFile

theorem keepsKinds_set (free : disk.node? loc = none ∨ ∃ old, disk.node? loc = some (.file old))
    (below : loc ≠ []) : KeepsKinds disk (disk.set loc (.file bytes)) := by
  refine ⟨keepsWays_set free, fun x old isFile => ?_⟩
  rw [node?_set below]
  split
  · exact ⟨bytes, rfl⟩
  · exact ⟨old, isFile⟩

theorem keptDirectory_congr (same : after.workingDirectory = disk.workingDirectory)
    (sameLost : after.lost = disk.lost) : after.keptDirectory = disk.keptDirectory := by
  rw [keptDirectory, keptDirectory, same, sameLost]

end Disk

namespace Project

variable {m : Model} {name : String} {output : Path} {root loc : Location}
  {disk before cleaned after laid other : Disk} {a : Artifact} {artifacts : List Artifact}
  {P : Location → Prop}

/-! ## Writing over what was written -/

/-- What was written from one disk to the next has been written over another one: where anything
was changed there is the same now. -/
structure Rewrites (disk after other final : Disk) : Prop where
  workingDirectory : final.workingDirectory = other.workingDirectory
  lost : final.lost = other.lost
  node : ∀ loc, final.node? loc = after.node? loc ∨
    final.node? loc = other.node? loc ∧ after.node? loc = disk.node? loc

theorem Rewrites.same {final : Disk} (h : Rewrites disk after after final) :
    after.Same final := by
  refine ⟨h.workingDirectory, h.lost, fun loc => ?_⟩
  rcases h.node loc with same | ⟨same, -⟩
  · exact same
  · exact same

theorem run_writeArtifact_over {old : ByteArray} (laid : LaidOut disk output root)
    (listed : a.path ∈ paths)
    (located : disk.locate true (output.join (.ofString a.path)) = .ok (.found loc (.file old))) :
    (writeArtifact output a).run disk =
      ⟨.ok ⟨output.join (.ofString a.path), a.inputs⟩, disk.set loc (.file a.contents.toUTF8)⟩ := by
  have wrote : disk.write (output.join (.ofString a.path)) a.contents.toUTF8
      = ⟨.ok (), disk.set loc (.file a.contents.toUTF8)⟩ := by
    rw [Disk.write, located]
  rw [run_writeArtifact laid listed]
  exact Action.run_bind_of_ok (Action.run_explain_of_ok wrote)

/-- Artifacts that were written are written again wherever what they led to stayed of its kind. -/
theorem rewrites_of_each {files : List WrittenFile} (listed : ∀ a ∈ artifacts, a.path ∈ paths)
    (laid : LaidOut disk output root)
    (h : (Action.each (writeArtifact output) artifacts).run disk = ⟨.ok files, after⟩) :
    disk.KeepsKinds after ∧ ∀ other, after.KeepsKinds other → ∃ final,
      (Action.each (writeArtifact output) artifacts).run other = ⟨.ok files, final⟩ ∧
        Rewrites disk after other final := by
  induction artifacts generalizing disk files with
  | nil =>
    cases h
    exact ⟨.refl _, fun other _ => ⟨other, rfl, rfl, rfl, fun loc => .inr ⟨rfl, rfl⟩⟩⟩
  | cons a rest ih =>
    obtain ⟨_, _, later, first, others, rfl⟩ := Action.ok_of_run_each_cons h
    obtain ⟨mem, memRest⟩ := List.forall_mem_cons.mp listed
    obtain ⟨rfl, spot, loc, puts, rfl⟩ := set_of_writeArtifact laid mem first
    have written : (disk.set loc (.file a.contents.toUTF8)).node? loc
        = some (.file a.contents.toUTF8) := by
      rw [Disk.node?_set puts.below, if_pos rfl]
    have one : disk.KeepsKinds (disk.set loc (.file a.contents.toUTF8)) := by
      obtain ⟨_, _, _, _, walked⟩ := Disk.locate_eq_ok_iff.mp puts.located
      exact Disk.keepsKinds_set (Disk.node?_target walked puts.target) puts.below
    obtain ⟨more, again⟩ := ih memRest (laid.mono one.toKeepsWays) others
    refine ⟨one.trans more, fun other kinds => ?_⟩
    obtain ⟨old, there⟩ := (more.trans kinds).file loc _ written
    have ways := ((one.trans more).trans kinds).toKeepsWays
    have rewritten := run_writeArtifact_over (laid.mono ways) mem
      (Disk.locate_target ways puts.located puts.target there)
    obtain ⟨final, run, rewrites⟩ :=
      again _ (kinds.trans (Disk.keepsKinds_set (.inr ⟨old, there⟩) puts.below))
    refine ⟨final, (Action.run_bind_of_ok rewritten).trans (Action.run_bind_of_ok run),
      rewrites.workingDirectory, rewrites.lost, fun x => ?_⟩
    rcases rewrites.node x with same | ⟨same, kept⟩
    · exact .inl same
    · -- The artifacts that follow left the location alone both times.
      rw [Disk.node?_set puts.below] at same kept
      by_cases here : x = loc
      · rw [if_pos here] at same kept
        exact .inl (same.trans kept.symm)
      · rw [if_neg here] at same kept
        exact .inr ⟨same, kept⟩

theorem again_of_tidy {cleanOutput : Bool} {report : GenerationReport}
    (idle : (tidy output cleanOutput).run after = ⟨.ok (), after⟩)
    (ran : (generate m name output cleanOutput).run disk = ⟨.ok report, after⟩) :
    ∃ again, (generate m name output cleanOutput).run after = ⟨.ok report, again⟩ ∧
      after.Same again := by
  obtain ⟨artifacts, files, cleaned, laid, rendered, -, made, wrote, rfl⟩ :=
    run_generate_iff.mp ran
  obtain ⟨accepted, rfl⟩ := artifacts_of_render rendered
  obtain ⟨-, root, laidOut⟩ := laidOut_of_createLayout made
  obtain ⟨kinds, rewritten⟩ := rewrites_of_each (listed_artifacts m accepted) laidOut wrote
  obtain ⟨again, run, rewrites⟩ := rewritten after (.refl after)
  have there := createLayout_of_laidOut (laidOut.mono kinds.toKeepsWays)
  exact ⟨again, run_generate_iff.mpr ⟨_, files, after, after, rendered, idle, there, run, rfl⟩,
    Rewrites.same rewrites⟩

theorem tidy_of_unnamed {cleanOutput : Bool}
    (unnamed : cleanOutput = true → output.fileName?.isSome = false) :
    (tidy output cleanOutput).run disk = ⟨.ok (), disk⟩ := by
  cases cleanOutput with
  | false => rfl
  | true =>
    rw [run_tidy, unnamed rfl, Bool.and_false]
    rfl

/-! ## Making what was taken away -/

theorem respects_prepare (path : Path) : Action.Respects (prepare path) :=
  Action.respects_explain _ fun _ _ same => same.makeDirectories _ path

theorem respects_createLayout (output : Path) : Action.Respects (createLayout output) :=
  (Action.respects_each (fun _ => respects_prepare _) directories).bind fun _ =>
    Action.respects_pure ()

theorem respects_writeArtifact (output : Path) (a : Artifact) :
    Action.Respects (writeArtifact output a) := by
  have written := fun file : WrittenFile =>
    (Action.respects_explain (GenerationError.writeFile (output.join (.ofString a.path)))
      fun _ _ same => same.write (output.join (.ofString a.path)) a.contents.toUTF8).bind
        fun _ => Action.respects_pure file
  unfold writeArtifact
  dsimp only
  split
  · exact (respects_prepare _).bind fun _ => written _
  · exact written _

/-- What must be true of an output that is cleaned so that it is found again: no dot comes behind
its name, and its spelling turns back upwards only where nothing is missing. -/
structure Steady (disk : Disk) (output : Path) : Prop where
  noDot : (Disk.solid output.segments).getLast? ≠ some "."
  way : output.Descends ∨ ∃ cleaned parent, (tidy output true).run disk = ⟨.ok (), cleaned⟩ ∧
    output.parent? = some parent ∧ cleaned.isDirectory parent = true

theorem Steady.opens {cleaned : FileTree} (steady : Steady disk output)
    (named : output.fileName? = some name)
    (tidied : (tidy output true).run disk = ⟨.ok (), cleaned.disk⟩) {fuel : Nat} {opened : Disk}
    (h : cleaned.disk.makeDirectories fuel output.home = ⟨.ok (), opened⟩) :
    opened = cleaned.disk ∨ Disk.Opens (fun _ => True) cleaned.disk output.home opened := by
  rcases steady.way with descends | ⟨_, parent, tidied', isParent, there⟩
  · exact Disk.opens_of_makeDirectories (Path.descends_home descends) output.endsInName_home
      (fun _ _ _ => trivial) (fun _ _ _ _ free => ⟨cleaned.isTree.clear free, trivial⟩) h
  · cases tidied.symm.trans tidied'
    exact Disk.opens_of_parent (output.parent?_home.trans isParent) there
      (output.fileName?_home.trans named) output.endsInName_home
      (fun _ _ free => ⟨cleaned.isTree.clear free, trivial⟩) h

theorem unreached_of_tidy (named : output.fileName? = some name)
    (tidied : (tidy output true).run disk = ⟨.ok (), cleaned⟩) :
    Disk.Unreached cleaned output := by
  by_cases present : disk.exists? output = true
  · obtain ⟨ends, old, node, endsAt, -, rfl⟩ :=
      Disk.removeAll_ok named (removeAll_of_tidy present named tidied)
    exact Disk.unreached_of_removed named ends endsAt
  · rw [run_tidy, Bool.eq_false_iff.mpr present, Bool.false_and,
      if_neg Bool.false_ne_true] at tidied
    cases tidied
    refine fun root rooted => present ?_
    obtain ⟨accepted, reaches⟩ := Disk.rooted_iff.mp rooted
    have some : output.components ≠ [] := by
      rintro none
      rw [Path.fileName?_eq, none] at named
      cases named
    have accepts := Disk.accepts_of_join Path.areSolid_here accepted
      (Path.isEmpty_of_components some)
    have there := Disk.nodeAt?_eq_directory_iff.mpr ⟨accepts, reaches⟩
    rw [Disk.exists?, there]
    rfl

theorem Opened.not_prefix_keptDirectory {cleaned : FileTree}
    (opened : Opened P output cleaned.disk before root) :
    ¬ root <+: cleaned.disk.keptDirectory := by
  -- The working directory was there before, so it is not in a directory that is new.
  intro inside
  have free := opened.clear _ inside
  rcases opened.above.node cleaned.disk.keptDirectory with same | ⟨missing, -, -⟩
  · cases (cleaned.isTree.working.symm.trans same.symm).trans free
  · cases cleaned.isTree.working.symm.trans missing

/-- Cleaning an output directory that was made in an empty place leads back to before it. -/
theorem tidy_of_opened {cleaned : FileTree} (opened : Opened P output cleaned.disk before root)
    (named : output.fileName? = some name) (ends : output.EndsInName)
    (ways : before.KeepsWays after) (there : after.node? root = some .directory)
    (outside : ∀ loc, ¬ root <+: loc → after.node? loc = before.node? loc) :
    (tidy output true).run after = ⟨.ok (), after.removeTree root⟩ ∧
      before.Same (after.removeTree root) := by
  have endsAt := opened.endsAt_output named ends ways
  have accepted := Disk.accepts_of_join Path.areSolid_here opened.accepted
    (Path.isEmpty_of_components endsAt.components_ne_nil)
  constructor
  · have present : after.exists? output = true := by
      rw [Disk.exists?, endsAt.directory accepted true there]
      rfl
    rw [run_tidy, present, named]
    exact Action.run_explain_of_ok
      (Disk.removeAll_of_directory endsAt accepted named ends there)
  · have apart : ¬ root <+: after.keptDirectory := by
      rw [Disk.keptDirectory_congr (ways.workingDirectory.trans opened.above.workingDirectory)
        (ways.lost.trans opened.above.lost)]
      exact opened.not_prefix_keptDirectory
    refine ⟨ways.workingDirectory, (Disk.lost_removeTree apart).trans ways.lost, fun loc => ?_⟩
    rw [Disk.node?_removeTree endsAt.below]
    split
    · rename_i inside
      exact (opened.clear loc inside).symm
    · rename_i elsewhere
      exact outside loc elsewhere

/-- A generation that succeeded is repeated with the same report and changes nothing, unless an
output that is cleaned has a spelling under which it is not found again. -/
theorem generate_again {tree : FileTree} {cleanOutput : Bool} {report : GenerationReport}
    (steady : cleanOutput = true → output.fileName?.isSome = true → Steady tree.disk output)
    (ran : (generate m name output cleanOutput).run tree.disk = ⟨.ok report, after⟩) :
    ∃ again, (generate m name output cleanOutput).run after = ⟨.ok report, again⟩ ∧
      after.Same again := by
  by_cases cleans : cleanOutput = true ∧ output.fileName?.isSome = true
  · obtain ⟨rfl, isNamed⟩ := cleans
    obtain ⟨s, named⟩ := Option.isSome_iff_exists.mp isNamed
    have steady := steady rfl isNamed
    have ends := Path.endsInName_of_getLast? steady.noDot
    obtain ⟨artifacts, files, cleaned, laid, rendered, tidied, made, wrote, rfl⟩ :=
      run_generate_iff.mp ran
    obtain ⟨accepted, rfl⟩ := artifacts_of_render rendered
    obtain ⟨cleaned, rfl⟩ := (keepsTrees_tidy output true).exists_after tidied
    have far := unreached_of_tidy named tidied
    obtain ⟨before, root, opened, made⟩ :=
      createLayout_opens far (steady.opens named tidied) made
    obtain ⟨project, outside⟩ := isProject_of_opened opened made wrote
    -- Cleaning leads back to `before`, and from there the layout comes out as it did.
    obtain ⟨tidied, same⟩ := tidy_of_opened opened named ends (opened.keepsWays made wrote)
      project.node?_root outside
    obtain ⟨laidAgain, made, same⟩ :=
      (respects_createLayout output).ok same (opened.run_createLayout made)
    obtain ⟨again, wrote, same⟩ :=
      (Action.respects_each (respects_writeArtifact output) _).ok same wrote
    exact ⟨again, run_generate_iff.mpr ⟨_, files, _, laidAgain, rendered, tidied, made, wrote, rfl⟩,
      same⟩
  · refine again_of_tidy (tidy_of_unnamed fun clean => ?_) ran
    exact Bool.eq_false_iff.mpr fun named => cleans ⟨clean, named⟩

theorem generate_again_stale : ∃ report after again,
    (generate {} "x" (.ofString "out") true).run stale.disk = ⟨.ok report, after⟩ ∧
      (generate {} "x" (.ofString "out") true).run after = ⟨.ok report, again⟩ ∧
      after.Same again := by
  obtain ⟨report, after, run⟩ := Action.exists_ok_of_run generate_stale
  have steady : Steady stale.disk (.ofString "out") :=
    ⟨by decide +kernel, .inl (Path.descends_of_no_ups (by decide +kernel))⟩
  obtain ⟨again, repeated, same⟩ := generate_again (fun _ _ => steady) run
  exact ⟨report, after, again, run, repeated, same⟩

/-- Behind a name that is missing the first run finds nothing to clean. -/
theorem generate_turned_stale :
    ((generate {} "x" (.ofString "x/../out") true).run stale.disk).result.toOption.isSome = true ∧
      (((generate {} "x" (.ofString "x/../out") true).run stale.disk).disk.node?
        ["out", "old.go"]).isSome = true ∧
      (((generate {} "x" (.ofString "x/../out") true).run
        ((generate {} "x" (.ofString "x/../out") true).run stale.disk).disk).disk.node?
          ["out", "old.go"]).isNone = true := by
  decide +kernel

theorem generate_differs_stale : ∃ report after,
    (generate {} "x" (.ofString "x/../out") true).run stale.disk = ⟨.ok report, after⟩ ∧
      ¬ ∃ again, (generate {} "x" (.ofString "x/../out") true).run after = ⟨.ok report, again⟩ ∧
        after.Same again := by
  obtain ⟨succeeds, kept, gone⟩ := generate_turned_stale
  obtain ⟨report, after, run⟩ := Action.exists_ok_of_run succeeds
  refine ⟨report, after, run, ?_⟩
  rintro ⟨again, repeated, same⟩
  rw [run] at kept gone
  rw [repeated, same.node] at gone
  rw [Option.isNone_iff_eq_none.mp gone] at kept
  cases kept

end Project

end Scaffold
