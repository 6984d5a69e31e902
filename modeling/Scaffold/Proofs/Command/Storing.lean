import Scaffold.Command.Run
import Scaffold.Proofs.Disk.Passage
import Scaffold.Proofs.Disk.Sequence

/-!
# What an analysis leaves

An analysis reads the sources and writes one file, the model. The directory of the file is made
first, so directories that were missing on the way may come even if the analysis fails. No file is
touched then, and if it succeeds only the one that the output leads to.
-/

namespace Scaffold

namespace Disk

variable {disk between after : Disk} {output parent p : Path} {places : List Location}

/-- At the places there may be other files. Elsewhere directories that were missing may have come
on the way to where the output is, and all else is as before. -/
structure Spares (places : List Location) (output : Path) (disk after : Disk) : Prop where
  workingDirectory : after.workingDirectory = disk.workingDirectory
  lost : after.lost = disk.lost
  node : ∀ loc ∉ places, after.node? loc = disk.node? loc ∨
    disk.node? loc = none ∧ after.node? loc = some .directory ∧
      ∃ parent, output.parent? = some parent ∧ after.Passes parent loc

theorem spares_refl (output : Path) (disk : Disk) : Spares [] output disk disk :=
  ⟨rfl, rfl, fun _ _ => .inl rfl⟩

theorem Paves.spares (isParent : output.parent? = some parent) (h : Paves parent disk after) :
    Spares [] output disk after := by
  refine ⟨h.workingDirectory, h.lost, fun loc _ => ?_⟩
  rcases h.node loc with same | ⟨free, made, passes⟩
  · exact .inl same
  · exact .inr ⟨free, made, parent, isParent, passes⟩

theorem Spares.grows (h : Spares places output disk after) : Grows places disk after := by
  refine ⟨h.workingDirectory, h.lost, fun loc elsewhere => ?_⟩
  rcases h.node loc elsewhere with same | ⟨missing, made, -⟩
  · exact .inl same
  · exact .inr ⟨missing, made⟩

end Disk

namespace Model

open Disk

variable {m : Model} {output p : Path} {disk after : Disk}

theorem load_eq_ok_iff : load p disk = .ok m ↔
    ∃ text, disk.readText p = .ok text ∧ ofStored text = .ok m := by
  constructor
  · intro h
    unfold load at h
    split at h
    · cases h
    · split at h
      · cases h
      · rename_i text read
        split at h
        · rename_i told
          cases h
          exact ⟨text, read, told⟩
        · cases h
  · rintro ⟨text, read, told⟩
    obtain ⟨loc, bytes, leads, -⟩ := readText_eq_ok_iff.mp read
    simp only [load, isFile_of_nodeAt? leads, read, told, Bool.not_true, Bool.false_eq_true, if_false]

/-- Where only directories have come, a model that was stored is loaded as before. -/
theorem load_of_grows (grows : Grows [] disk after) (h : load p disk = .ok m) :
    load p after = .ok m := by
  obtain ⟨text, read, told⟩ := load_eq_ok_iff.mp h
  obtain ⟨loc, bytes, leads, decoded⟩ := readText_eq_ok_iff.mp read
  have still := readText_eq_ok_iff.mpr ⟨loc, bytes, nodeAt?_file grows leads, decoded⟩
  exact load_eq_ok_iff.mpr ⟨text, still, told⟩

/-- The model is in the file that the output leads to, and nothing else was touched. -/
def StoredAt (m : Model) (output : Path) (disk after : Disk) : Prop :=
  ∃ loc, after.nodeAt? true output = .ok (loc, .file m.store.toUTF8) ∧
    (disk.node? loc = none ∨ ∃ bytes, disk.node? loc = some (.file bytes)) ∧
      Spares [loc] output disk after

theorem run_save (m : Model) (output : Path) (disk : Disk) :
    ∃ ready, Spares [] output disk ready ∧
      ((∃ e, (m.save output).run disk = ⟨.error e, ready⟩) ∨
        (m.save output).run disk =
          (Action.explain (.write output) (·.write output m.store.toUTF8)).run ready) := by
  unfold save
  dsimp only
  split
  · rename_i parent isParent
    split
    · cases made : disk.makeAll parent with
      | mk result ready =>
        have paved : Paves parent disk (disk.makeAll parent).disk :=
          disk.paves_makeDirectories _ parent
        rw [made] at paved
        refine ⟨ready, paved.spares isParent, ?_⟩
        cases result with
        | error fault =>
          exact .inl ⟨_, Action.run_bind_of_error (Action.run_explain_of_error made)⟩
        | ok _ => exact .inr (Action.run_bind_of_ok (Action.run_explain_of_ok made))
    · exact ⟨disk, spares_refl output disk, .inr rfl⟩
  · exact ⟨disk, spares_refl output disk, .inr rfl⟩

theorem spares_of_save {e : StoreError} (h : (m.save output).run disk = ⟨.error e, after⟩) :
    Spares [] output disk after := by
  obtain ⟨ready, spares, ⟨e, failed⟩ | written⟩ := m.run_save output disk
  · cases failed.symm.trans h
    exact spares
  · obtain ⟨fault, failed, -⟩ := Action.error_of_run_explain (written.symm.trans h)
    rw [eq_of_write_error failed]
    exact spares

theorem storedAt_of_save (h : (m.save output).run disk = ⟨.ok (), after⟩) :
    m.StoredAt output disk after := by
  obtain ⟨ready, spares, ⟨e, failed⟩ | written⟩ := m.run_save output disk
  · cases failed.symm.trans h
  · obtain ⟨loc, free, rfl, found⟩ :=
      set_of_write (Action.ok_of_run_explain (written.symm.trans h))
    have ways : KeepsWays ready (ready.set loc (.file m.store.toUTF8)) := keepsWays_set free
    have below : loc ≠ [] := by
      rintro rfl
      rcases free with free | ⟨_, free⟩ <;> cases free
    refine ⟨loc, found, ?_, spares.workingDirectory, spares.lost, fun other elsewhere => ?_⟩
    · -- A directory that has just been made is no place for a file.
      rcases spares.node loc List.not_mem_nil with same | ⟨missing, -, -⟩
      · rw [← same]
        exact free
      · exact .inl missing
    · rw [node?_set below, if_neg fun same => elsewhere (List.mem_singleton.mpr same)]
      rcases spares.node other List.not_mem_nil with same | ⟨missing, made, parent, isParent, passes⟩
      · exact .inl same
      · exact .inr ⟨missing, made, parent, isParent, passes.mono ways⟩

end Model

namespace Task

open Disk

/-- An analysis stores a model and touches nothing else, or fails and touches no file. Then every
model that was stored before is there still. -/
theorem surveyAndStore_spares [PatternReader] (backend output : Path) (config : Option Path)
    (disk : Disk) :
    (∃ m after, (surveyAndStore backend output config).run disk = ⟨.ok m, after⟩ ∧
      m.StoredAt output disk after) ∨
    ∃ e after, (surveyAndStore backend output config).run disk = ⟨.error e, after⟩ ∧
      Spares [] output disk after ∧
        ∀ p earlier, Model.load p disk = .ok earlier → Model.load p after = .ok earlier := by
  have stays : ∀ {after : Disk}, Spares [] output disk after → Spares [] output disk after ∧
      ∀ p earlier, Model.load p disk = .ok earlier → Model.load p after = .ok earlier :=
    fun spares => ⟨spares, fun _ _ => Model.load_of_grows spares.grows⟩
  -- Only loading the settings and saving can fail, and neither touches a file if it does.
  cases loaded : Settings.analyzer.load config disk with
  | error cause =>
    refine .inr ⟨.analyzerSettings cause, disk, ?_, stays (spares_refl output disk)⟩
    exact Action.run_bind_of_error (Action.run_explain_of_error (Action.run_look_of_eq loaded))
  | ok layout =>
    have surveyed : (surveyAndStore backend output config).run disk = (do
        Action.explain .store ((Survey.model disk backend layout).save output)
        pure (Survey.model disk backend layout) : Action TaskError Model).run disk :=
      (Action.run_bind_of_ok (Action.run_explain_of_ok (Action.run_look_of_eq loaded))).trans
        (Action.run_bind_of_ok (Action.run_look_of_eq rfl))
    rw [surveyed]
    cases saved : ((Survey.model disk backend layout).save output).run disk with
    | mk result after =>
      cases result with
      | error cause =>
        refine .inr ⟨.store cause, after, ?_, stays (Model.spares_of_save saved)⟩
        exact Action.run_bind_of_error (Action.run_explain_of_error saved)
      | ok _ =>
        refine .inl ⟨_, after, ?_, Model.storedAt_of_save saved⟩
        exact Action.run_bind_of_ok (Action.run_explain_of_ok saved)

end Task

end Scaffold
