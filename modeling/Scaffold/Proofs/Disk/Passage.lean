import Scaffold.Proofs.Disk.Making

/-!
# Directories on the way

The directories of a path are made one after the other, from the first one that is missing. However
that ends, there is nothing new but directories that the path leads through.
-/

namespace Scaffold.Disk

variable {disk between after : Disk} {loc : Location} {p q : Path}

/-- Some part of the path, or the path itself, leads to the directory. -/
def Passes (disk : Disk) (p : Path) (loc : Location) : Prop :=
  ∃ q : Path, q.Above p ∧ disk.nodeAt? true q = .ok (loc, .directory)

theorem Passes.mono (ways : KeepsWays disk after) (h : disk.Passes p loc) : after.Passes p loc := by
  obtain ⟨q, above, leads⟩ := h
  exact ⟨q, above, nodeAt?_directory ways leads⟩

theorem Passes.of_above (above : q.Above p) (h : disk.Passes q loc) : disk.Passes p loc := by
  obtain ⟨r, sooner, leads⟩ := h
  exact ⟨r, sooner.trans above, leads⟩

/-- All that is new are directories that the path leads through in the end. -/
def Paves (p : Path) (disk after : Disk) : Prop := Extends (after.Passes p) disk after

theorem Paves.of_above (above : q.Above p) (h : Paves q disk after) : Paves p disk after :=
  h.imp fun _ => .of_above above

theorem Paves.trans (first : Paves p disk between) (second : Paves p between after) :
    Paves p disk after :=
  Extends.trans (first.imp fun _ => .mono second.grows.keepsWays) second

theorem paves_refl (p : Path) (disk : Disk) : Paves p disk disk := .refl disk

theorem above_trimSlashes (p : Path) : (⟨Path.trimSlashes p.segments⟩ : Path).Above p where
  absolute := Path.isAbsolute_trimSlashes p
  way := ⟨[], by rw [List.append_nil, Path.solid_trimSlashes]⟩

theorem paves_makeDirectory (disk : Disk) (p : Path) : Paves p disk (disk.makeDirectory p).disk := by
  cases made : disk.makeDirectory p with
  | mk result after =>
    cases result with
    | error fault =>
      rw [eq_of_makeDirectory_error made]
      exact paves_refl p disk
    | ok _ =>
      obtain ⟨loc, free, rfl, found⟩ := set_of_makeDirectory made
      exact extends_set free ⟨_, above_trimSlashes p, found⟩

theorem paves_makeDirectories (disk : Disk) (fuel : Nat) (p : Path) :
    Paves p disk (disk.makeDirectories fuel p).disk := by
  induction fuel generalizing disk p with
  | zero => exact paves_refl p disk
  | succ fuel ih =>
    have first := disk.paves_makeDirectory p
    rw [makeDirectories]
    split
    · exact paves_refl p disk
    split
    · rename_i made
      rw [made] at first
      exact first
    · rename_i missing
      rw [missing] at first
      split
      · exact first
      · rename_i between _ parent isParent
        have above := first.trans ((ih between parent).of_above (Path.above_parent isParent))
        split
        · rename_i failed
          rw [failed] at above
          exact above
        · rename_i later made
          rw [made] at above
          rw [disk_settle]
          exact above.trans (later.paves_makeDirectory p)
    · rw [disk_settle]
      exact first

end Scaffold.Disk
