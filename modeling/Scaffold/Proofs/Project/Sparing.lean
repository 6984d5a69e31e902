import Scaffold.Proofs.Project.Interruption
import Scaffold.Proofs.Project.Repetition

/-!
# What cleaning spares

Writing a project never takes a file away, so only cleaning does. An output directory whose spelling
does not end in a name is not cleaned, and of a link that stands at the end of the spelling just the
link goes. Under every other spelling all files of the directory go, whichever directory it is: the
working directory is spared as `.` and `..` spell it, and emptied under its own name.
-/

namespace Scaffold

namespace Disk

variable {disk between after : Disk}

/-- What was a file is a file still, perhaps with other contents. -/
def KeepsFiles (disk after : Disk) : Prop :=
  ∀ x old, disk.node? x = some (.file old) → ∃ new, after.node? x = some (.file new)

theorem KeepsFiles.refl (disk : Disk) : KeepsFiles disk disk := fun _ old isFile => ⟨old, isFile⟩

theorem KeepsFiles.trans (first : KeepsFiles disk between) (second : KeepsFiles between after) :
    KeepsFiles disk after := fun x old isFile => by
  obtain ⟨new, isFile⟩ := first x old isFile
  exact second x new isFile

end Disk

namespace Project

variable {m : Model} {name : String} {output : Path} {dir loc : Location}
  {disk between after : Disk} {artifacts : List Artifact} {old now later : Option Node}

/-! ## Writing over what is there -/

/-- What becomes of the node at one location while artifacts are written. -/
inductive Turns (artifacts : List Artifact) : Option Node → Option Node → Prop
  | same (node : Option Node) : Turns artifacts node node
  | made : Turns artifacts none (some .directory)
  | written {old : Option Node} {a : Artifact} (mem : a ∈ artifacts)
    (free : old = none ∨ ∃ bytes, old = some (.file bytes)) :
    Turns artifacts old (some (.file a.contents.toUTF8))

theorem Turns.trans (first : Turns artifacts old now) (second : Turns artifacts now later) :
    Turns artifacts old later := by
  cases first with
  | same => exact second
  | made =>
    cases second with
    | same => exact .made
    | written mem free => rcases free with free | ⟨_, free⟩ <;> cases free
  | written mem free =>
    cases second with
    | same => exact .written mem free
    | written later _ => exact .written later free

/-- Everything is as it was, or a directory came where nothing was, or an artifact where nothing or
a file was. -/
def WritesOver (artifacts : List Artifact) (disk after : Disk) : Prop :=
  ∀ loc, Turns artifacts (disk.node? loc) (after.node? loc)

namespace WritesOver

theorem refl (disk : Disk) : WritesOver artifacts disk disk := fun _ => .same _

theorem trans (first : WritesOver artifacts disk between)
    (second : WritesOver artifacts between after) : WritesOver artifacts disk after :=
  fun loc => (first loc).trans (second loc)

theorem of_grows (grows : Disk.Grows [] disk after) : WritesOver artifacts disk after := by
  intro loc
  rcases grows.node loc List.not_mem_nil with same | ⟨free, made⟩
  · rw [same]
    exact .same _
  · rw [free, made]
    exact .made

theorem keepsFiles (h : WritesOver artifacts disk after) : Disk.KeepsFiles disk after := by
  intro x old isFile
  have turned := h x
  rw [isFile] at turned
  generalize after.node? x = now at turned
  cases turned with
  | same => exact ⟨old, rfl⟩
  | written mem free => exact ⟨_, rfl⟩

end WritesOver

theorem writesOver_write {a : Artifact} (mem : a ∈ artifacts) (disk : Disk) (path : Path) :
    WritesOver artifacts disk (disk.write path a.contents.toUTF8).disk := by
  cases wrote : disk.write path a.contents.toUTF8 with
  | mk result after =>
    cases result with
    | error fault =>
      obtain rfl := Disk.eq_of_write_error wrote
      exact .refl _
    | ok done =>
      obtain ⟨loc, free, rfl, -⟩ := Disk.set_of_write wrote
      have below : loc ≠ [] := by
        rintro rfl
        rcases free with free | ⟨_, free⟩ <;> cases free
      intro x
      rw [Disk.node?_set below]
      split
      · rename_i here
        exact .written mem (here ▸ free)
      · exact .same _

theorem relates_writeArtifact {a : Artifact} (mem : a ∈ artifacts) (output : Path) :
    (writeArtifact output a).Relates (WritesOver artifacts) := by
  have wrote : ∀ file : WrittenFile, Action.Relates (WritesOver artifacts) (do
      Action.explain (.writeFile (output.join (.ofString a.path)))
        (·.write (output.join (.ofString a.path)) a.contents.toUTF8)
      pure file : Action GenerationError WrittenFile) := fun file =>
    (Action.relates_explain _ fun disk => writesOver_write mem disk _).bind
      WritesOver.trans fun _ => Action.relates_pure WritesOver.refl file
  unfold writeArtifact
  dsimp only
  split
  · exact Action.Relates.bind WritesOver.trans
      (fun disk => .of_grows (relates_prepare _ disk)) fun _ => wrote _
  · exact wrote _

theorem run_generate_of_error {cleanOutput : Bool} {e : GenerationError}
    (rejected : m.render name = .error e) :
    (generate m name output cleanOutput).run disk = ⟨.error e, disk⟩ := by
  rw [generate_steps, Action.run_bind_of_error (Action.run_look_of_eq rejected)]

theorem run_generate_of_ok {cleanOutput : Bool} (rendered : m.render name = .ok artifacts) :
    (generate m name output cleanOutput).run disk = (do
      tidy output cleanOutput
      createLayout output
      let files ← Action.each (writeArtifact output) artifacts
      pure (⟨output, files, m.pendingCount⟩ : GenerationReport) :
        Action GenerationError GenerationReport).run disk := by
  rw [generate_steps, Action.run_bind_of_ok (Action.run_look_of_eq rendered)]

/-- However a generation ends, from when it has cleaned the output it only writes over it. -/
theorem writesOver_generate {cleanOutput : Bool} (rendered : m.render name = .ok artifacts)
    (disk : Disk) : WritesOver artifacts ((tidy output cleanOutput).run disk).disk
      ((generate m name output cleanOutput).run disk).disk := by
  have rest : Action.Relates (WritesOver artifacts) (do
      createLayout output
      let files ← Action.each (writeArtifact output) artifacts
      pure (⟨output, files, m.pendingCount⟩ : GenerationReport) :
        Action GenerationError GenerationReport) :=
    Action.Relates.bind WritesOver.trans (fun disk => .of_grows (relates_createLayout output disk))
      fun _ => (Action.relates_each_mem WritesOver.refl WritesOver.trans
        fun a ha => relates_writeArtifact ha output).bind WritesOver.trans
          fun _ => Action.relates_pure WritesOver.refl _
  rw [run_generate_of_ok rendered]
  cases tidied : (tidy output cleanOutput).run disk with
  | mk result cleaned =>
    cases result with
    | ok done =>
      rw [Action.run_bind_of_ok tidied]
      exact rest cleaned
    | error e =>
      rw [Action.run_bind_of_error tidied]
      exact .refl _

theorem run_generate_of_tidy (idle : (tidy output true).run disk = ⟨.ok (), disk⟩) :
    (generate m name output true).run disk = (generate m name output false).run disk := by
  cases rendered : m.render name with
  | error e => rw [run_generate_of_error rendered, run_generate_of_error rendered]
  | ok artifacts =>
    rw [run_generate_of_ok rendered, run_generate_of_ok rendered, Action.run_bind_of_ok idle]
    rfl

/-! ## Cleaning -/

/-- The spelling of the output has no name at its end, or a link stands there. -/
def Guarded (disk : Disk) (output : Path) : Prop :=
  output.fileName? = none ∨ ∃ x target, disk.nodeAt? false output = .ok (x, .link target)

theorem disk_tidy (present : disk.exists? output = true) (named : output.fileName? = some name) :
    ((tidy output true).run disk).disk = (disk.removeAll output).disk := by
  rw [run_tidy, present, named]
  cases removed : Action.run (·.removeAll output) disk with
  | mk result after =>
    have left : (disk.removeAll output).disk = after := congrArg Outcome.disk removed
    rw [left]
    cases result with
    | ok done => exact congrArg Outcome.disk (Action.run_explain_of_ok removed)
    | error fault => exact congrArg Outcome.disk (Action.run_explain_of_error removed)

theorem tidy_keepsFiles {tree : FileTree} (present : tree.disk.exists? output = true)
    (guarded : Guarded tree.disk output) :
    tree.disk.KeepsFiles ((tidy output true).run tree.disk).disk := by
  cases named : output.fileName? with
  | none =>
    rw [tidy_of_unnamed fun _ => by rw [named]; rfl]
    exact .refl tree.disk
  | some s =>
    rcases guarded with unnamed | ⟨x, target, found⟩
    · cases unnamed.symm.trans named
    · obtain ⟨-, -, isLink⟩ := Disk.endsAt_of_link named found
      intro loc old isFile
      have other : loc ≠ x := by
        rintro rfl
        cases isLink.symm.trans isFile
      rw [disk_tidy present named, Disk.node?_removeAll_of_link tree.isTree found other isLink]
      exact ⟨old, isFile⟩

theorem exists?_of_directory (h : disk.nodeAt? true output = .ok (dir, .directory)) :
    disk.exists? output = true := by
  rw [Disk.exists?, h]
  rfl

/-- An output directory loses no file if it is guarded by its spelling. Else, whichever directory it
is, just the project is left in it, and files elsewhere stay. -/
theorem generate_guards {tree : FileTree}
    (denotes : tree.disk.nodeAt? true output = .ok (dir, .directory)) :
    (Guarded tree.disk output →
        tree.disk.KeepsFiles ((generate m name output true).run tree.disk).disk) ∧
      (output.fileName? = none → (generate m name output true).run tree.disk =
        (generate m name output false).run tree.disk) ∧
      (∀ e, m.render name = .error e →
        (generate m name output true).run tree.disk = ⟨.error e, tree.disk⟩) ∧
      (¬ Guarded tree.disk output → ∀ artifacts, m.render name = .ok artifacts → ∀ x, x ≠ dir →
        Turns artifacts (if dir <+: x then none else tree.disk.node? x)
          (((generate m name output true).run tree.disk).disk.node? x)) := by
  have present := exists?_of_directory denotes
  refine ⟨fun guarded => ?_, fun unnamed => ?_, fun e rejected => run_generate_of_error rejected,
    fun unguarded artifacts rendered x other => ?_⟩
  · cases rendered : m.render name with
    | error e =>
      rw [run_generate_of_error rendered]
      exact .refl tree.disk
    | ok artifacts =>
      exact (tidy_keepsFiles present guarded).trans
        (writesOver_generate rendered tree.disk).keepsFiles
  · exact run_generate_of_tidy (tidy_of_unnamed fun _ => by rw [unnamed]; rfl)
  · obtain ⟨named, notLink⟩ := not_or.mp unguarded
    obtain ⟨s, named⟩ := Option.ne_none_iff_exists'.mp named
    have found := (Disk.nodeAt?_of_directory denotes).resolve_right notLink
    rw [← Disk.node?_removeAll tree.isTree found other, ← disk_tidy present named]
    exact writesOver_generate rendered tree.disk x

/-- A working directory with a file of its own, and a link to it beside it. -/
def home : FileTree where
  disk.entries := [
    (["wd"], .directory),
    (["wd", "keep.txt"], .file "keep\n".toUTF8),
    (["here"], .link (.ofString "wd"))]
  disk.workingDirectory := ["wd"]
  isTree := by
    refine Disk.isTree_of_entries (fun entry mem => ?_) rfl
    simp only [List.mem_cons, List.not_mem_nil, or_false] at mem
    rcases mem with rfl | rfl | rfl <;> rfl

/-- Under its own name the working directory is emptied, although the generation fails then. -/
theorem generate_empties_home :
    home.disk.nodeAt? true (.ofString "../wd/.") =
      .ok (home.disk.workingDirectory, .directory) ∧
    home.disk.node? ["wd", "keep.txt"] = some (.file "keep\n".toUTF8) ∧
    ((generate {} "x" (.ofString "../wd/.") true).run home.disk).disk.node? ["wd", "keep.txt"] =
      none := by
  refine ⟨rfl, rfl, Option.isNone_iff_eq_none.mp ?_⟩
  decide +kernel

theorem generate_guards_home :
    (∃ new, ((generate {} "x" (.ofString ".") true).run home.disk).disk.node? ["wd", "keep.txt"]
      = some (.file new)) ∧
    (∃ new, ((generate {} "x" (.ofString "../here") true).run home.disk).disk.node? ["wd", "keep.txt"]
      = some (.file new)) ∧
    Turns (({} : Model).artifacts ⟨"x", by decide⟩) none
      (((generate {} "x" (.ofString "../wd") true).run home.disk).disk.node? ["wd", "keep.txt"]) := by
  have here : home.disk.nodeAt? true (.ofString ".") = .ok (["wd"], .directory) := rfl
  have linked : home.disk.nodeAt? true (.ofString "../here") = .ok (["wd"], .directory) := rfl
  have named : home.disk.nodeAt? true (.ofString "../wd") = .ok (["wd"], .directory) := rfl
  have unguarded : ¬ Guarded home.disk (.ofString "../wd") := by
    rintro (unnamed | ⟨x, target, found⟩)
    · cases unnamed
    · have place : home.disk.nodeAt? false (.ofString "../wd") = .ok (["wd"], .directory) := rfl
      cases place.symm.trans found
  have rendered : ({} : Model).render "x" = .ok _ := Model.render_text {} ⟨"x", by decide⟩
  refine ⟨(generate_guards here).1 (.inl rfl) _ _ rfl,
    (generate_guards linked).1 (.inr ⟨["here"], .ofString "wd", rfl⟩) _ _ rfl, ?_⟩
  exact (generate_guards named).2.2.2 unguarded _ rendered ["wd", "keep.txt"]
    (by decide)

end Project

end Scaffold
