import Scaffold.Proofs.Disk.Opening
import Scaffold.Proofs.Project.Written

/-!
# The layout of a project

Where there is no output directory yet, laying out a project makes one first, and it is empty. In
an output directory without links just the directories of the project come to be, and then the
artifacts find all directories that they need.
-/

namespace Scaffold

namespace Project

variable {output : Path} {root loc : Location} {disk before between after laid : Disk}
  {a : Artifact} {artifacts : List Artifact} {P : Location → Prop}

/-! ## The steps of a generation -/

def tidy (output : Path) (cleanOutput : Bool) : Action GenerationError Unit :=
  if cleanOutput then clean output else pure ()

theorem generate_steps (m : Model) (name : String) (output : Path) (cleanOutput : Bool) :
    generate m name output cleanOutput = (do
      let artifacts ← Action.look fun _ => m.render name
      tidy output cleanOutput
      createLayout output
      let files ← Action.each (writeArtifact output) artifacts
      pure ⟨output, files, m.pendingCount⟩) := by
  cases cleanOutput <;> rfl

theorem run_generate_iff {m : Model} {name : String} {cleanOutput : Bool}
    {report : GenerationReport} :
    (generate m name output cleanOutput).run disk = ⟨.ok report, after⟩ ↔
      ∃ artifacts files cleaned laid, m.render name = .ok artifacts ∧
        (tidy output cleanOutput).run disk = ⟨.ok (), cleaned⟩ ∧
        (createLayout output).run cleaned = ⟨.ok (), laid⟩ ∧
        (Action.each (writeArtifact output) artifacts).run laid = ⟨.ok files, after⟩ ∧
        report = ⟨output, files, m.pendingCount⟩ := by
  rw [generate_steps]
  constructor
  · intro ran
    obtain ⟨artifacts, _, rendered, ran⟩ := Action.ok_of_run_bind ran
    obtain rfl := (congrArg Outcome.disk rendered : disk = _)
    obtain ⟨_, cleaned, tidied, ran⟩ := Action.ok_of_run_bind ran
    obtain ⟨_, laid, made, ran⟩ := Action.ok_of_run_bind ran
    obtain ⟨files, _, wrote, ran⟩ := Action.ok_of_run_bind ran
    cases ran
    exact ⟨artifacts, files, cleaned, laid, congrArg Outcome.result rendered, tidied, made, wrote,
      rfl⟩
  · rintro ⟨artifacts, files, cleaned, laid, rendered, tidied, made, wrote, rfl⟩
    rw [Action.run_bind_of_ok (Action.run_look_of_eq rendered), Action.run_bind_of_ok tidied,
      Action.run_bind_of_ok made, Action.run_bind_of_ok wrote]
    rfl

theorem run_tidy : (tidy output true).run disk =
    if disk.exists? output && output.fileName?.isSome then
      (Action.explain (.cleanDirectory output) (·.removeAll output)).run disk
    else ⟨.ok (), disk⟩ := by
  rw [tidy, if_pos rfl, clean]
  refine (Action.run_bind_of_ok
    (Action.run_look (fun disk => .ok (disk.exists? output)) disk)).trans ?_
  split <;> rfl

/-! ## The output directory -/

/-- A disk on which a directory for the output can be made, and will be empty. What had to be made
above it are the only changes to an earlier disk. -/
structure Opened (P : Location → Prop) (output : Path) (disk before : Disk) (root : Location) :
    Prop where
  above : Disk.Extends P disk before
  place : P root
  clear : Disk.ClearFrom before root
  endsAt : Disk.EndsAt before output.home root
  accepted : Disk.Accepts (output.join ⟨["."]⟩)

namespace Opened

theorem extends_set (h : Opened P output disk before root) :
    Disk.Extends P before (before.set root .directory) := Disk.extends_set h.clear.here h.place

theorem node?_set (h : Opened P output disk before root) (loc : Location) :
    (before.set root .directory).node? loc
      = if loc = root then some .directory else before.node? loc := Disk.node?_set h.endsAt.below

theorem rooted (h : Opened P output disk before root) :
    (before.set root .directory).nodeAt? true (output.joinName ".") = .ok (root, .directory) := by
  have there : (before.set root .directory).node? root = some .directory := by
    rw [h.node?_set, if_pos rfl]
  have endsAt := h.endsAt.mono h.extends_set.grows.keepsWays.embeds
  exact Disk.rooted_iff.mpr ⟨h.accepted, Disk.reaches_home_iff.mp (endsAt.reaches there)⟩

theorem noLinks (h : Opened P output disk before root) :
    (before.set root .directory).NoLinks root := by
  intro loc path below isLink
  rw [h.node?_set] at isLink
  split at isLink
  · cases isLink
  · cases (h.clear loc below).symm.trans isLink

end Opened

theorem run_prepare_congr {path : Path} {other : Disk}
    (same : disk.makeAll path = other.makeAll path) :
    (prepare path).run disk = (prepare path).run other := Action.run_explain_congr same

theorem run_prepare_of_made {path : Path} (made : disk.makeAll path = ⟨.ok (), after⟩) :
    (prepare path).run disk = ⟨.ok (), after⟩ := Action.run_explain_of_ok made

theorem prepare_of_isDirectory {path : Path} (there : disk.isDirectory path = true) :
    (prepare path).run disk = ⟨.ok (), disk⟩ :=
  run_prepare_of_made (Disk.makeDirectories_of_isDirectory there)

theorem areNames_first : Path.AreNames (names "cmd/server") := by
  have listed : "cmd/server" ∈ paths ++ directories := by decide
  exact areNames_paths _ listed

theorem short_first : ∀ s ∈ names "cmd/server", s.utf8ByteSize ≤ Disk.nameLimit := by
  have short : ∀ segments ∈ directories.map names, ∀ s ∈ segments,
      s.utf8ByteSize ≤ Disk.nameLimit := by
    rw [names_directories]
    decide
  exact short _ List.mem_cons_self

theorem length_join_names {path : String} (areNames : Path.AreNames (names path)) :
    (output.join (.ofString path)).segments.length + 1
      = (Path.dropSlash output.segments).length + 1 + (names path).length := by
  rw [show Path.ofString path = ⟨names path⟩ from rfl, Path.join_solid output areNames.solid,
    List.length_append]
  omega

theorem prepare_opens {path : String} (areNames : Path.AreNames (names path))
    (short : ∀ s ∈ names path, s.utf8ByteSize ≤ Disk.nameLimit) (far : Disk.Unreached disk output)
    (opens : ∀ {fuel opened}, disk.makeDirectories fuel output.home = ⟨.ok (), opened⟩ →
      opened = disk ∨ Disk.Opens P disk output.home opened)
    (h : (prepare (output.join (.ofString path))).run disk = ⟨.ok (), after⟩) :
    ∃ before root, Opened P output disk before root ∧
      (prepare (output.join (.ofString path))).run disk =
        (prepare (output.join (.ofString path))).run (before.set root .directory) := by
  have all := makeAll_of_prepare h
  rw [Disk.makeAll, length_join_names areNames] at all
  obtain ⟨missing, opened, changed, home⟩ := Disk.home_of_makeDirectories far areNames all
  obtain ⟨before, root, above, place, clear, endsAt, rfl⟩ := (opens home).resolve_left changed
  have accepted := Disk.accepts_of_missing areNames (missing _ List.prefix_rfl areNames.some)
  have fresh : Opened P output disk before root :=
    ⟨above, place, clear, endsAt, Disk.accepts_here areNames.solid accepted⟩
  refine ⟨before, root, fresh, run_prepare_congr ?_⟩
  rw [Disk.makeAll, Disk.makeAll, length_join_names areNames]
  exact Disk.makeDirectories_join_eq home fresh.rooted
    (fun name => (clear.below_set name).here) areNames short missing

/-- Laying out a project where it has no output directory is laying it out in a new one. -/
theorem createLayout_opens (far : Disk.Unreached disk output)
    (opens : ∀ {fuel opened}, disk.makeDirectories fuel output.home = ⟨.ok (), opened⟩ →
      opened = disk ∨ Disk.Opens P disk output.home opened)
    (h : (createLayout output).run disk = ⟨.ok (), laid⟩) :
    ∃ before root, Opened P output disk before root ∧
      (createLayout output).run (before.set root .directory) = ⟨.ok (), laid⟩ := by
  obtain ⟨_, between, made, _⟩ := Action.ok_of_run_bind h
  obtain ⟨_, later, _, first, _, _⟩ := Action.ok_of_run_each_cons made
  obtain ⟨before, root, opened, same⟩ :=
    prepare_opens areNames_first short_first far opens first
  refine ⟨before, root, opened, ?_⟩
  rw [← h]
  exact (Action.run_bind_congr (Action.run_bind_congr same)).symm

theorem Opened.run_prepare {path : String} (opened : Opened P output disk before root)
    (areNames : Path.AreNames (names path))
    (short : ∀ s ∈ names path, s.utf8ByteSize ≤ Disk.nameLimit)
    (accepted : Disk.Accepts (output.join (.ofString path))) :
    (prepare (output.join (.ofString path))).run before =
      (prepare (output.join (.ofString path))).run (before.set root .directory) := by
  have free := opened.clear.here
  have some := opened.endsAt.components_ne_nil
  have accepts := Disk.accepts_home some
    (Disk.accepts_of_join Path.areSolid_here opened.accepted (Disk.isEmpty_home some))
  refine run_prepare_congr ?_
  rw [Disk.makeAll, Disk.makeAll, length_join_names areNames]
  refine Disk.makeDirectories_join_eq (Disk.makeDirectories_of_free opened.endsAt accepts free)
    opened.rooted (fun name => (opened.clear.below_set name).here) areNames short
    fun front inside some => ?_
  exact opened.endsAt.missing free ⟨some, fun s hs => areNames.isName s (inside.subset hs)⟩
    (Disk.accepts_of_sooner inside areNames.solid some accepted)

/-- Laying out a project makes a missing output directory anew. -/
theorem Opened.run_createLayout (opened : Opened P output disk before root)
    (h : (createLayout output).run (before.set root .directory) = ⟨.ok (), laid⟩) :
    (createLayout output).run before = ⟨.ok (), laid⟩ := by
  obtain ⟨_, between, made, _⟩ := Action.ok_of_run_bind h
  obtain ⟨_, later, _, first, _, _⟩ := Action.ok_of_run_each_cons made
  obtain ⟨loc, there⟩ := directory_of_prepare areNames_first first
  have accepted := (Disk.nodeAt?_eq_directory_iff.mp there).1
  rw [← h]
  exact Action.run_bind_congr (Action.run_bind_congr
    (opened.run_prepare areNames_first short_first accepted))

/-! ## The directories of a project -/

/-- The place of a directory of the project, or of one above such a directory. -/
def InLayout (root loc : Location) : Prop :=
  ∃ path ∈ directories, Disk.Along root (names path) loc

theorem areNames_directory {path : String} (h : path ∈ directories) : Path.AreNames (names path) :=
  areNames_paths path (List.mem_append_right _ h)

theorem extends_of_each {listed : List String} {units : List Unit}
    (within : ∀ path ∈ listed, path ∈ directories)
    (rooted : disk.nodeAt? true (output.joinName ".") = .ok (root, .directory))
    (noLinks : disk.NoLinks root)
    (h : (Action.each (fun path => prepare (output.join (.ofString path))) listed).run disk
      = ⟨.ok units, laid⟩) : Disk.Extends (InLayout root) disk laid := by
  induction listed generalizing disk units with
  | nil =>
    cases h
    exact .refl _
  | cons path rest ih =>
    obtain ⟨_, between, later, first, others, rfl⟩ := Action.ok_of_run_each_cons h
    obtain ⟨mem, memRest⟩ := List.forall_mem_cons.mp within
    have made : Disk.Extends (InLayout root) disk between :=
      (Disk.extends_of_makeDirectories (areNames_directory mem) rooted noLinks
        (makeAll_of_prepare first)).imp fun loc along => ⟨path, mem, along⟩
    exact made.trans (ih memRest (Disk.nodeAt?_directory made.grows.keepsWays rooted)
      (made.grows.noLinks noLinks) others)

/-- The directories of the project are there, from a root on. -/
structure LaidOut (disk : Disk) (output : Path) (root : Location) : Prop where
  rooted : disk.nodeAt? true (output.joinName ".") = .ok (root, .directory)
  directory : ∀ path ∈ directories,
    ∃ loc, disk.nodeAt? true (output.join (.ofString path)) = .ok (loc, .directory)

theorem LaidOut.mono (ways : Disk.KeepsWays disk after) (h : LaidOut disk output root) :
    LaidOut after output root where
  rooted := Disk.nodeAt?_directory ways h.rooted
  directory path hp := (h.directory path hp).imp fun _ => Disk.nodeAt?_directory ways

theorem laidOut_of_createLayout (h : (createLayout output).run disk = ⟨.ok (), laid⟩) :
    Disk.Grows [] disk laid ∧ ∃ root, LaidOut laid output root := by
  obtain ⟨_, _, made, done⟩ := Action.ok_of_run_bind h
  cases done
  obtain ⟨grows, found⟩ := layout_of_each (fun path => areNames_directory) made
  have first : "cmd/server" ∈ directories := List.mem_cons_self
  obtain ⟨_, node⟩ := found _ first
  obtain ⟨root, _, _, rooted, _⟩ := Disk.root_of_locate (Disk.Grows.refl laid).keepsWays
    (areNames_directory first) (Disk.locate_of_nodeAt? node)
  exact ⟨grows, root, rooted, found⟩

theorem createLayout_of_laidOut (laid : LaidOut disk output root) :
    (createLayout output).run disk = ⟨.ok (), disk⟩ := by
  have again : ∀ listed, (∀ path ∈ listed, path ∈ directories) → ∃ units,
      (Action.each (fun path => prepare (output.join (.ofString path))) listed).run disk
        = ⟨.ok units, disk⟩ := by
    intro listed within
    induction listed with
    | nil => exact ⟨[], rfl⟩
    | cons path rest ih =>
      obtain ⟨mem, memRest⟩ := List.forall_mem_cons.mp within
      obtain ⟨units, others⟩ := ih memRest
      have there : (prepare (output.join (.ofString path))).run disk = ⟨.ok (), disk⟩ :=
        prepare_of_isDirectory (Disk.isDirectory_iff.mpr (laid.directory path mem))
      exact ⟨() :: units, (Action.run_bind_of_ok there).trans (Action.run_bind_of_ok others)⟩
  obtain ⟨units, run⟩ := again directories fun _ hp => hp
  exact Action.run_bind_of_ok run

/-! ## The artifacts -/

theorem directory_of_path {path : String} (listed : path ∈ paths) : (names path).dropLast = [] ∨
    ∃ directory ∈ directories, (names path).dropLast = names directory := by
  have all : ∀ segments ∈ paths.map names,
      segments.dropLast = [] ∨ segments.dropLast ∈ directories.map names := by
    rw [names_paths, names_directories]
    decide
  refine (all (names path) (List.mem_map_of_mem listed)).imp_right fun inside => ?_
  obtain ⟨directory, mem, same⟩ := List.mem_map.mp inside
  exact ⟨directory, mem, same.symm⟩

theorem prepare_parent {path : String} {parent : Path} (laid : LaidOut disk output root)
    (listed : path ∈ paths) (h : (output.join (.ofString path)).parent? = some parent) :
    (prepare parent).run disk = ⟨.ok (), disk⟩ := by
  have areNames := areNames_paths path (List.mem_append_left _ listed)
  obtain ⟨front, name, parts⟩ := (List.eq_nil_or_concat' (names path)).resolve_left areNames.some
  have isName : Path.IsName name :=
    areNames.isName name (parts ▸ List.mem_append_right front List.mem_cons_self)
  rw [show Path.ofString path = ⟨names path⟩ from rfl, parts] at h
  have directory := directory_of_path listed
  rw [parts, List.dropLast_concat] at directory
  rcases directory with rfl | ⟨above, mem, rfl⟩
  · cases (Path.parent?_join_name output isName).symm.trans h
    exact run_prepare_of_made (Disk.makeDirectories_home laid.rooted)
  · cases (Path.parent?_join output (areNames_directory mem) isName).symm.trans h
    exact prepare_of_isDirectory (Disk.isDirectory_iff.mpr (laid.directory above mem))

/-- In a project that is laid out an artifact is written and nothing else is done. -/
theorem run_writeArtifact (laid : LaidOut disk output root) (listed : a.path ∈ paths) :
    (writeArtifact output a).run disk =
      (do
        Action.explain (.writeFile (output.join (.ofString a.path)))
          (·.write (output.join (.ofString a.path)) a.contents.toUTF8)
        pure ⟨output.join (.ofString a.path), a.inputs⟩ :
          Action GenerationError WrittenFile).run disk := by
  unfold writeArtifact
  dsimp only
  split
  · rename_i parent isParent
    exact Action.run_bind_of_ok (prepare_parent laid listed isParent)
  · rfl

theorem set_of_writeArtifact {file : WrittenFile} (laid : LaidOut disk output root)
    (listed : a.path ∈ paths) (h : (writeArtifact output a).run disk = ⟨.ok file, after⟩) :
    file = ⟨output.join (.ofString a.path), a.inputs⟩ ∧ ∃ spot loc,
      Puts output a disk disk spot loc ∧ after = disk.set loc (.file a.contents.toUTF8) := by
  rw [run_writeArtifact laid listed] at h
  obtain ⟨_, between, wrote, done⟩ := Action.ok_of_run_bind h
  cases done
  obtain ⟨spot, loc, located, target, rfl⟩ := Disk.target_of_write (Action.ok_of_run_explain wrote)
  exact ⟨rfl, spot, loc, ⟨.refl disk, located, target⟩, rfl⟩

/-- Without links the artifacts are written to their places, and nothing else changes. -/
theorem contents_of_each {files : List WrittenFile} (listed : ∀ a ∈ artifacts, a.path ∈ paths)
    (nodup : (artifacts.map fun a => locationOf root a.path).Nodup)
    (laid : LaidOut disk output root) (noLinks : disk.NoLinks root)
    (h : (Action.each (writeArtifact output) artifacts).run disk = ⟨.ok files, after⟩) :
    (∀ a ∈ artifacts, after.node? (locationOf root a.path) = some (.file a.contents.toUTF8)) ∧
      ∀ loc, (∀ a ∈ artifacts, loc ≠ locationOf root a.path) →
        after.node? loc = disk.node? loc := by
  induction artifacts generalizing disk files with
  | nil =>
    cases h
    exact ⟨fun a ha => absurd ha List.not_mem_nil, fun loc _ => rfl⟩
  | cons a rest ih =>
    obtain ⟨file, _, later, first, others, rfl⟩ := Action.ok_of_run_each_cons h
    obtain ⟨mem, memRest⟩ := List.forall_mem_cons.mp listed
    obtain ⟨-, spot, loc, puts, rfl⟩ := set_of_writeArtifact laid mem first
    obtain ⟨apart, nodupRest⟩ := List.nodup_cons.mp nodup
    have areNames := areNames_paths a.path (List.mem_append_left _ mem)
    obtain rfl : loc = locationOf root a.path := by
      rw [← Spot.place_of_target puts.target]
      exact Disk.place_of_locate (Disk.Grows.refl disk).keepsWays laid.rooted noLinks areNames
        puts.located
    -- No later artifact has the location of this one, so it is left as it is written here.
    obtain ⟨written, kept⟩ := ih memRest nodupRest (laid.mono (puts.keepsWays _))
      (Disk.noLinks_setFile puts.below noLinks) others
    have set : ∀ x, (disk.set (locationOf root a.path) (.file a.contents.toUTF8)).node? x
        = if x = locationOf root a.path then some (.file a.contents.toUTF8) else disk.node? x :=
      fun x => Disk.node?_set puts.below
    refine ⟨List.forall_mem_cons.mpr ⟨?_, written⟩, fun x elsewhere => ?_⟩
    · rw [kept _ fun b hb same => apart (List.mem_map.mpr ⟨b, hb, same.symm⟩), set, if_pos rfl]
    · obtain ⟨notFirst, notRest⟩ := List.forall_mem_cons.mp elsewhere
      rw [kept x notRest, set, if_neg notFirst]

end Project

end Scaffold
