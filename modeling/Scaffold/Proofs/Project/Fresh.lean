import Scaffold.Proofs.Disk.Descent
import Scaffold.Proofs.Project.Cleaning

/-!
# Generating where nothing is

In an output directory that is not there yet nothing obstructs a project: no artifact is in the
place of a directory, and no two have one place. So the generation succeeds, unless a name or a
path is more than the system takes.
-/

namespace Scaffold

namespace Project

variable {m : Model} {name : ModuleName} {output : Path} {cleanOutput : Bool}
  {disk after laid : Disk} {base root root' : Location} {outer : List String} {path : String}
  {a : Artifact} {artifacts : List Artifact} {listed : List String}

/-- A part of the output directory is there, the rest of it are names, and nothing has the first of
these. -/
def Fresh (disk : Disk) (output : Path) : Prop :=
  ∃ base name others, disk.Below output base (name :: others) ∧
    disk.node? (base ++ [name]) = none

/-- The names of the output directory and the paths of the artifacts are none too long, and can be
followed. -/
structure Fits (output : Path) (artifacts : List Artifact) : Prop where
  short : ∀ s ∈ output.segments, s.utf8ByteSize ≤ Disk.nameLimit
  accepted : ∀ a ∈ artifacts, Disk.Accepts (output.join (.ofString a.path))

/-! ## What a generation needs -/

theorem located_of_each {files : List WrittenFile}
    (h : (Action.each (writeArtifact output) artifacts).run disk = ⟨.ok files, after⟩) :
    ∀ a ∈ artifacts, ∃ (between : Disk) (spot : Spot),
      between.locate true (output.join (.ofString a.path)) = .ok spot := by
  induction artifacts generalizing disk files with
  | nil => exact fun a ha => absurd ha List.not_mem_nil
  | cons a rest ih =>
    obtain ⟨file, _, later, first, others, rfl⟩ := Action.ok_of_run_each_cons h
    obtain ⟨-, between, spot, loc, puts, -⟩ := puts_of_writeArtifact first
    exact List.forall_mem_cons.mpr ⟨⟨between, spot, puts.located⟩, ih others⟩

/-- Only where everything fits a generation can succeed. -/
theorem fits_of_generate {report : GenerationReport}
    (ran : (generate m name.text output cleanOutput).run disk = ⟨.ok report, after⟩) :
    Fits output (m.artifacts name) := by
  obtain ⟨artifacts, files, cleaned, laid, rendered, -, -, wrote, -⟩ := run_generate_iff.mp ran
  cases (Model.render_text m name).symm.trans rendered
  have located := located_of_each wrote
  refine ⟨fun s hs => ?_, fun a ha => ?_⟩
  · by_cases empty : s = ""
    · rw [empty]
      decide
    · have first : ⟨"go.mod", ProjectText.goMod.fill name.text, []⟩ ∈ m.artifacts name :=
        List.mem_cons_self
      obtain ⟨between, spot, located⟩ := located _ first
      have areNames : Path.AreNames (names "go.mod") := areNames_artifact first
      refine Disk.short_of_locate located s ?_
      rw [show Path.ofString "go.mod" = ⟨names "go.mod"⟩ from rfl,
        Path.solid_join output areNames.solid]
      exact List.mem_append_left _ (List.mem_filter.mpr ⟨hs, bne_iff_ne.mpr empty⟩)
  · obtain ⟨between, spot, located⟩ := located a ha
    exact (Disk.locate_eq_ok_iff.mp located).1

/-! ## The directories -/

def longest : String := "migrations/0001_core_schema.sql"

theorem accepts_path (accepted : Disk.Accepts (output.join (.ofString longest)))
    (listed : path ∈ paths ++ directories) : Disk.Accepts (output.join (.ofString path)) := by
  have all : ∀ segments ∈ (paths ++ directories).map names,
      '\x00' ∉ (⟨segments⟩ : Path).text.toList ∧
        (⟨segments⟩ : Path).text.utf8ByteSize ≤ longest.utf8ByteSize := by
    rw [List.map_append, names_paths, names_directories]
    decide
  obtain ⟨noZero, shorter⟩ := all _ (List.mem_map_of_mem listed)
  have spelled : (⟨names longest⟩ : Path).text = longest := Path.text_ofString longest
  have areNames := areNames_paths longest (List.mem_append_left _ (by decide))
  exact Disk.accepts_join areNames.solid (areNames_paths path listed).solid noZero
    (spelled.symm ▸ shorter) accepted

theorem accepts_longest (fits : Fits output (m.artifacts name)) :
    Disk.Accepts (output.join (.ofString longest)) :=
  fits.accepted ⟨longest, ProjectText.coreMigration, []⟩
    (List.mem_append_left _ (List.mem_append_left _ (by simp [longest])))

theorem fits_of_longest (short : ∀ s ∈ output.segments, s.utf8ByteSize ≤ Disk.nameLimit)
    (accepted : Disk.Accepts (output.join (.ofString longest))) :
    Fits output (m.artifacts name) :=
  ⟨short, fun a ha => accepts_path accepted (List.mem_append_left _ (listed_artifacts m name a ha))⟩

theorem short_names (mem : path ∈ paths ++ directories) :
    ∀ s ∈ names path, s.utf8ByteSize ≤ Disk.nameLimit := by
  have all : ∀ segments ∈ (paths ++ directories).map names, ∀ s ∈ segments,
      s.utf8ByteSize ≤ Disk.nameLimit := by
    rw [List.map_append, names_paths, names_directories]
    decide
  exact all _ (List.mem_map_of_mem mem)

theorem short_append_names (short : ∀ s ∈ outer, s.utf8ByteSize ≤ Disk.nameLimit)
    (mem : path ∈ paths ++ directories) :
    ∀ s ∈ outer ++ names path, s.utf8ByteSize ≤ Disk.nameLimit :=
  List.forall_mem_append.mpr ⟨short, short_names mem⟩

/-- The place of a directory of the project or of one above it, down from the directory that was
there. -/
def InPlan (base : Location) (outer : List String) (loc : Location) : Prop :=
  ∃ path ∈ directories, Disk.Along base (outer ++ names path) loc

/-- Nothing is in the way of the directories of the project. -/
structure IsReady (disk : Disk) (output : Path) (base : Location) (outer : List String) : Prop where
  below : disk.Below output base outer
  short : ∀ s ∈ outer, s.utf8ByteSize ≤ Disk.nameLimit
  accepted : ∀ path ∈ directories, Disk.Accepts (output.join (.ofString path))
  isOpen : ∀ path ∈ directories, disk.IsOpen base (outer ++ names path)

theorem getLast?_solid_join (output : Path) {tail : List String} (areNames : Path.AreNames tail) :
    (Disk.solid (output.join ⟨tail⟩).segments).getLast? ≠ some "." := by
  rw [Path.solid_join output areNames.solid, List.getLast?_append_of_ne_nil _ areNames.some]
  intro last
  exact (areNames.isName "." (List.mem_of_getLast? last)).notHere rfl

theorem IsReady.makes (ready : IsReady disk output base outer) (mem : path ∈ directories) :
    ∃ after, (prepare (output.join (.ofString path))).run disk = ⟨.ok (), after⟩ ∧
      Disk.Fills base (outer ++ names path) disk after ∧ IsReady after output base outer := by
  have areNames := areNames_directory mem
  have below : disk.Below (output.join (.ofString path)) base (outer ++ names path) :=
    ready.below.join areNames
  have short := short_append_names ready.short (List.mem_append_right paths mem)
  obtain ⟨after, made, fills⟩ := below.makeDirectories
    (List.append_ne_nil_of_right_ne_nil outer areNames.some)
    (Path.endsInName_of_getLast? (getLast?_solid_join output areNames)) (ready.accepted path mem)
    short (ready.isOpen path mem) (Nat.le_succ_of_le below.length_le)
  exact ⟨after, run_prepare_of_made made, fills, {
    below := ready.below.mono fills.extends_.grows.keepsWays.embeds
    short := ready.short
    accepted := ready.accepted
    isOpen := fun other h => (ready.isOpen other h).mono fills }⟩

theorem IsReady.makes_each (ready : IsReady disk output base outer)
    (within : ∀ path ∈ listed, path ∈ directories) :
    ∃ units laid, (Action.each (fun path => prepare (output.join (.ofString path))) listed).run disk
        = ⟨.ok units, laid⟩ ∧ Disk.Extends (InPlan base outer) disk laid ∧
      ∀ path ∈ listed, laid.AreDirectories base (outer ++ names path) := by
  induction listed generalizing disk with
  | nil => exact ⟨[], disk, rfl, .refl disk, fun path h => absurd h List.not_mem_nil⟩
  | cons path rest ih =>
    obtain ⟨mem, memRest⟩ := List.forall_mem_cons.mp within
    obtain ⟨between, first, fills, ready⟩ := ready.makes mem
    obtain ⟨units, laid, others, extended, there⟩ := ih ready memRest
    refine ⟨() :: units, laid, (Action.run_bind_of_ok first).trans (Action.run_bind_of_ok others),
      (fills.extends_.imp fun loc along => ⟨path, mem, along⟩).trans extended,
      List.forall_mem_cons.mpr ⟨?_, there⟩⟩
    exact fills.there.mono extended.grows.keepsWays.embeds

/-! ## The artifacts -/

/-- The path of the artifact ends in its place, and nothing is there. -/
structure Awaits (disk : Disk) (output : Path) (root : Location) (a : Artifact) : Prop where
  endsAt : disk.EndsAt (output.join (.ofString a.path)) (locationOf root a.path)
  free : disk.node? (locationOf root a.path) = none

theorem Awaits.write (awaits : Awaits disk output root a) (laid : LaidOut disk output root')
    (listed : a.path ∈ paths) (accepted : Disk.Accepts (output.join (.ofString a.path))) :
    (writeArtifact output a).run disk = ⟨.ok ⟨output.join (.ofString a.path), a.inputs⟩,
      disk.set (locationOf root a.path) (.file a.contents.toUTF8)⟩ := by
  obtain ⟨directory, last, place, located⟩ := awaits.endsAt.vacant accepted true awaits.free
  have areNames := areNames_paths a.path (List.mem_append_left _ listed)
  have noSlash : (output.join (.ofString a.path)).endsInSlash = false := by
    have last : (output.join ⟨names a.path⟩).segments.getLast? ≠ some "" := by
      rw [Path.join_solid output areNames.solid]
      exact Path.getLast?_append_solid _ areNames.solid
    rw [Path.endsInSlash, show Path.ofString a.path = ⟨names a.path⟩ from rfl]
    simp [last]
  rw [noSlash] at located
  have wrote : disk.write (output.join (.ofString a.path)) a.contents.toUTF8
      = ⟨.ok (), disk.set (locationOf root a.path) (.file a.contents.toUTF8)⟩ := by
    rw [Disk.write, located, place]
    rfl
  rw [run_writeArtifact laid listed]
  exact Action.run_bind_of_ok (Action.run_explain_of_ok wrote)

/-- Artifacts whose places are free are all written, one after the other. -/
theorem exists_run_each (listed : ∀ a ∈ artifacts, a.path ∈ paths)
    (nodup : (artifacts.map fun a => locationOf root a.path).Nodup)
    (laid : LaidOut disk output root') (awaits : ∀ a ∈ artifacts, Awaits disk output root a)
    (accepted : ∀ a ∈ artifacts, Disk.Accepts (output.join (.ofString a.path))) :
    ∃ files after,
      (Action.each (writeArtifact output) artifacts).run disk = ⟨.ok files, after⟩ := by
  induction artifacts generalizing disk with
  | nil => exact ⟨[], disk, rfl⟩
  | cons a rest ih =>
    obtain ⟨apart, nodupRest⟩ := List.nodup_cons.mp nodup
    obtain ⟨first, others⟩ := List.forall_mem_cons.mp awaits
    obtain ⟨mem, memRest⟩ := List.forall_mem_cons.mp listed
    obtain ⟨acceptedFirst, acceptedRest⟩ := List.forall_mem_cons.mp accepted
    have ways : Disk.KeepsWays disk
        (disk.set (locationOf root a.path) (.file a.contents.toUTF8)) :=
      Disk.keepsWays_set (.inl first.free)
    obtain ⟨files, after, ran⟩ := ih memRest nodupRest (laid.mono ways) (fun b hb => {
      endsAt := (others b hb).endsAt.mono ways.embeds
      free := by
        rw [Disk.node?_set first.endsAt.below, if_neg, (others b hb).free]
        exact fun same => apart (List.mem_map.mpr ⟨b, hb, same⟩) }) acceptedRest
    exact ⟨_, after, (Action.run_bind_of_ok (first.write laid mem acceptedFirst)).trans
      (Action.run_bind_of_ok ran)⟩

theorem dropLast_prefix_directory (listed : path ∈ paths) :
    ∃ directory ∈ directories, (names path).dropLast <+: names directory := by
  rcases directory_of_path listed with none | ⟨directory, mem, same⟩
  · have first : "cmd/server" ∈ directories := List.mem_cons_self
    exact ⟨_, first, none ▸ List.nil_prefix⟩
  · exact ⟨directory, mem, same ▸ List.prefix_rfl⟩

theorem awaits_of_laid (below : disk.Below output base outer)
    (short : ∀ s ∈ outer, s.utf8ByteSize ≤ Disk.nameLimit)
    (extended : Disk.Extends (InPlan base outer) disk laid)
    (there : ∀ path ∈ directories, laid.AreDirectories base (outer ++ names path))
    (listed : a.path ∈ paths) (free : disk.node? (base ++ (outer ++ names a.path)) = none) :
    Awaits laid output (base ++ outer) a := by
  have areNames := areNames_paths a.path (List.mem_append_left _ listed)
  have place : locationOf (base ++ outer) a.path = base ++ (outer ++ names a.path) :=
    List.append_assoc ..
  constructor
  case endsAt =>
    -- The directories above an artifact belong to the layout, so they have been made.
    obtain ⟨directory, mem, above⟩ := dropLast_prefix_directory listed
    have through := (there directory mem).sooner ((List.prefix_append_right_inj outer).mpr above)
    have whole : outer ++ names a.path
        = outer ++ (names a.path).dropLast ++ [(names a.path).getLast areNames.some] := by
      rw [List.append_assoc, List.dropLast_append_getLast]
    have below := (below.mono extended.grows.keepsWays.embeds).join areNames
    have short := short_append_names short (List.mem_append_left directories listed)
    rw [place, whole]
    rw [whole] at below short
    exact below.endsAt (Path.endsInName_of_getLast? (getLast?_solid_join output areNames)) short
      through
  case free =>
    rw [place, extended.node?_eq, free]
    rintro ⟨directory, mem, front, inside, -, same⟩
    obtain rfl := List.append_cancel_left same
    exact not_prefix_directory listed mem ((List.prefix_append_right_inj outer).mp inside)

/-! ## The whole generation -/

/-- Where the output directory is missing and everything fits, a generation succeeds. -/
theorem exists_run_generate (tree : FileTree) (fresh : Fresh tree.disk output)
    (fits : Fits output (m.artifacts name)) (cleanOutput : Bool) : ∃ report after,
      (generate m name.text output cleanOutput).run tree.disk = ⟨.ok report, after⟩ := by
  obtain ⟨base, next, others, below, free⟩ := fresh
  have clear := tree.isTree.clear free
  have ready : IsReady tree.disk output base (next :: others) := {
    below := below
    short := fun s hs => fits.short s (below.mem_segments s hs)
    accepted := fun path mem => accepts_path (accepts_longest fits) (List.mem_append_right _ mem)
    isOpen := fun path mem => Disk.isOpen_of_clear clear _ }
  -- There is nothing to clean, since the output directory is missing.
  have tidied : (tidy output cleanOutput).run tree.disk = ⟨.ok (), tree.disk⟩ := by
    cases cleanOutput with
    | false => rfl
    | true =>
      rw [run_tidy, below.exists?_eq_false free]
      rfl
  obtain ⟨units, laid, made, extended, there⟩ := ready.makes_each fun path mem => mem
  have created : (createLayout output).run tree.disk = ⟨.ok (), laid⟩ := Action.run_bind_of_ok made
  obtain ⟨-, root, laidOut⟩ := laidOut_of_createLayout created
  have listed := listed_artifacts m name
  have awaits : ∀ a ∈ m.artifacts name, Awaits laid output (base ++ next :: others) a :=
    fun a ha => awaits_of_laid below ready.short extended there (listed a ha)
      (clear _ ⟨others ++ names a.path, by simp⟩)
  obtain ⟨files, after, wrote⟩ :=
    exists_run_each listed (nodup_locations m name _) laidOut awaits fits.accepted
  exact ⟨_, after, run_generate_iff.mpr
    ⟨_, files, tree.disk, laid, Model.render_text m name, tidied, created, wrote, rfl⟩⟩

/-- Where a part of the output directory is there and nothing has its next name, a generation gives
a report exactly if everything fits. -/
theorem generate_fresh (tree : FileTree) (fresh : Fresh tree.disk output) (m : Model)
    (name : ModuleName) (cleanOutput : Bool) :
    (∃ report after,
        (generate m name.text output cleanOutput).run tree.disk = ⟨.ok report, after⟩) ↔
      Fits output (m.artifacts name) :=
  ⟨fun ⟨_, _, ran⟩ => fits_of_generate ran,
    fun fits => exists_run_generate tree fresh fits cleanOutput⟩

/-- A name of one byte more than the system takes. -/
def overlong : String := String.ofList (List.replicate 256 'a')

theorem isName_overlong : Path.IsName overlong := by
  have spelled : overlong.toList = List.replicate 256 'a' := String.toList_ofList
  have length : overlong.toList.length = 256 := by rw [spelled, List.length_replicate]
  constructor
  case noSlash =>
    rw [spelled]
    exact fun mem => absurd (List.eq_of_mem_replicate mem) (by decide)
  all_goals
    intro same
    rw [same] at length
    exact absurd length (by decide)

/-- On an empty disk every name is free, but not every one can be given. -/
theorem generate_overlong : Fresh (default : FileTree).disk (.ofString overlong) ∧
    ∀ cleanOutput report after, (generate {} "x" (.ofString overlong) cleanOutput).run
      (default : FileTree).disk ≠ ⟨.ok report, after⟩ := by
  have alone := Path.areNames_singleton isName_overlong
  rw [Path.ofString_of_isName isName_overlong]
  refine ⟨?_, fun cleanOutput report after ran => ?_⟩
  · refine ⟨[], overlong, [], ⟨⟨[""]⟩, [overlong], (Path.isAbsolute_solid alone.solid).symm,
      Path.solid_of_areSolid alone.solid, ?_, Path.bodyComponents_names alone⟩, rfl⟩
    exact ⟨[], [], _, rfl, .arrived ..⟩
  · have fits : Fits ⟨[overlong]⟩ (({} : Model).artifacts ⟨"x", by decide⟩) := fits_of_generate ran
    exact absurd (fits.short overlong List.mem_cons_self) (by decide +kernel)

def usedTree : FileTree where
  disk := used
  isTree := by
    refine Disk.isTree_of_entries (fun entry mem => ?_) rfl
    simp only [used, List.mem_cons, List.not_mem_nil, or_false] at mem
    rcases mem with rfl | rfl | rfl | rfl <;> rfl

/-- Two directories are missing behind a link. -/
theorem generate_fresh_used : Fresh usedTree.disk (.ofString "latest/v2//./app/") ∧
    ∃ report after, (generate {} "x" (.ofString "latest/v2//./app/") true).run usedTree.disk
      = ⟨.ok report, after⟩ := by
  have latest : usedTree.disk.nodeAt? true (.ofString "latest") = .ok (["out"], .directory) := rfl
  have fresh : Fresh usedTree.disk (.ofString "latest/v2//./app/") :=
    ⟨["out"], "v2", ["app"], ⟨.ofString "latest", ["v2", ".", "app"], by decide,
      by decide, (Disk.nodeAt?_eq_directory_iff.mp latest).2, by decide⟩, rfl⟩
  have accepted : Disk.Accepts
      ((Path.ofString "latest/v2//./app/").join (.ofString longest)) :=
    ⟨by decide, by decide, by decide⟩
  have fits : Fits (.ofString "latest/v2//./app/") (({} : Model).artifacts ⟨"x", by decide⟩) :=
    fits_of_longest (by decide) accepted
  exact ⟨fresh, (generate_fresh usedTree fresh {} ⟨"x", by decide⟩ true).mpr fits⟩

end Project

end Scaffold
