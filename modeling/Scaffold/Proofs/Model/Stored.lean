import Scaffold.Proofs.Json.Printing
import Scaffold.Proofs.Model.Telling

/-!
# Storing a model loses nothing

The text that stores a model tells it, so a model is read back from its stored text. With what a
written file holds afterwards, a model that was saved is the model that is loaded.
-/

namespace Scaffold

open Json

theorem Route.tells_printed (r : Route) (depth : Nat) : r.Tells (r.printed depth) := by
  refine tells_record (by simp [entries]) ?_
  exact .cons ⟨rfl, spells_quoted r.method.name⟩ <| .cons ⟨rfl, spells_quoted r.path⟩ <|
      .cons ⟨rfl, spells_quoted r.handler⟩ <| .cons ⟨rfl, tells_texts r.middleware (depth + 1)⟩ <|
      .cons ⟨rfl, spells_quoted r.controller⟩ .nil

theorem SourceModule.tells_printed (m : SourceModule) (depth : Nat) :
    m.Tells (m.printed depth) := by
  refine ⟨m.functions.toList, fun _ => Iff.rfl, ?_⟩
  refine tells_record (by simp [entries]) ?_
  exact .cons ⟨rfl, spells_quoted m.name⟩ <| .cons ⟨rfl, spells_quoted m.file⟩ <|
      .cons ⟨rfl, tells_texts m.functions.toList (depth + 1)⟩ .nil

theorem Middleware.tells_printed (m : Middleware) (depth : Nat) : m.Tells (m.printed depth) := by
  refine tells_record (by simp [entries]) ?_
  exact .cons ⟨rfl, spells_quoted m.name⟩ <| .cons ⟨rfl, spells_quoted m.file⟩ <|
      .cons ⟨rfl, spells_quoted m.description⟩ .nil

namespace Model

theorem tells_printed (m : Model) (depth : Nat) : m.Tells (m.printed depth) := by
  have routes : TellsList Route.Tells m.routes _ :=
    tells_list (depth + 1) fun r _ => r.tells_printed (depth + 2)
  have controllers : TellsList SourceModule.Tells m.controllers _ :=
    tells_list (depth + 1) fun c _ => c.tells_printed (depth + 2)
  have middleware : TellsList Middleware.Tells m.middleware _ :=
    tells_list (depth + 1) fun w _ => w.tells_printed (depth + 2)
  have services : TellsList SourceModule.Tells m.services _ :=
    tells_list (depth + 1) fun s _ => s.tells_printed (depth + 2)
  refine ⟨m.tables.toList, m.dependencies.entries, fun _ => Iff.rfl, .refl _, ?_⟩
  refine tells_record (by simp [entries]) ?_
  exact .cons ⟨rfl, routes⟩ <| .cons ⟨rfl, controllers⟩ <| .cons ⟨rfl, middleware⟩ <|
      .cons ⟨rfl, services⟩ <| .cons ⟨rfl, tells_texts m.tables.toList (depth + 1)⟩ <|
      .cons ⟨rfl, tells_pairs m.dependencies.entries (depth + 1)⟩ .nil

theorem document_store (m : Model) : Document m.Tells m.store :=
  document_of_tells (m.tells_printed 0)

theorem ofStored_store (m : Model) : ofStored m.store = .ok m :=
  ofStored_document m.document_store

theorem write_of_save {m : Model} {path : Path} {disk after : Disk}
    (saved : (m.save path).run disk = ⟨.ok (), after⟩) :
    ∃ before : Disk, before.write path m.store.toUTF8 = ⟨.ok (), after⟩ := by
  unfold save at saved
  dsimp only at saved
  split at saved
  · split at saved
    · obtain ⟨_, between, _, written⟩ := Action.ok_of_run_bind saved
      exact ⟨between, Action.ok_of_run_explain written⟩
    · exact ⟨disk, Action.ok_of_run_explain saved⟩
  · exact ⟨disk, Action.ok_of_run_explain saved⟩

/-- A model that was saved is loaded as it was, on any disk and from any path. -/
theorem load_of_save (m : Model) (path : Path) (disk after : Disk)
    (saved : (m.save path).run disk = ⟨.ok (), after⟩) : load path after = .ok m := by
  obtain ⟨before, written⟩ := write_of_save saved
  obtain ⟨loc, node⟩ := Disk.nodeAt?_of_write written
  unfold load
  simp only [Disk.isFile_of_nodeAt? node, Bool.not_true, Bool.false_eq_true, if_false,
    Disk.readText_of_nodeAt? node, ofStored_store]

/-- A model with line breaks, quotes, backslashes and controls in its texts. -/
def unruly : Model where
  routes := [⟨.patch, "/a\n\"b\\", "h\u0001\r", ["é\t", ""], ""⟩]
  controllers := [⟨"c", "c.js", .ofList ["z", "a", "z"]⟩]
  dependencies := .ofList [("p\"", "1"), ("", "\n")]

def linkedDisk : Disk where
  entries := [(["out"], .directory), (["here"], .link ⟨["out"]⟩)]

theorem save_linkedDisk (m : Model) :
    (m.save ⟨["here", "m.json"]⟩).run linkedDisk
      = ⟨.ok (), linkedDisk.set ["out", "m.json"] (.file m.store.toUTF8)⟩ :=
  rfl

theorem load_of_save_unruly :
    (unruly.save ⟨["here", "m.json"]⟩).run linkedDisk
        = ⟨.ok (), linkedDisk.set ["out", "m.json"] (.file unruly.store.toUTF8)⟩ ∧
      load ⟨["here", "m.json"]⟩ (linkedDisk.set ["out", "m.json"] (.file unruly.store.toUTF8))
        = .ok unruly :=
  ⟨save_linkedDisk unruly, load_of_save unruly _ linkedDisk _ (save_linkedDisk unruly)⟩

end Model

end Scaffold
