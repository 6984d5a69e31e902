import Scaffold.Disk.Action

/-!
# Reading what was written

A path that led to a place where a file could be written leads to that file afterwards, through
the same directories and links, so its contents are what was written.
-/

namespace Scaffold

/-- The location that a write at the spot changes, if there can be one. -/
def Spot.target? : Spot → Option Location
  | .found loc (.file _) => some loc
  | .vacant directory name false => some (directory ++ [name])
  | _ => none

def Spot.node? : Spot → Option Node
  | .found _ node => some node
  | .vacant _ _ _ => none

namespace Disk

variable {disk after : Disk} {spot : Spot} {loc : Location} {bytes : ByteArray}

/-- What paths are followed through is the same on both disks. -/
structure KeepsWays (disk after : Disk) : Prop where
  workingDirectory : after.workingDirectory = disk.workingDirectory
  lost : after.lost = disk.lost
  directory : ∀ x, disk.node? x = some .directory → after.node? x = some .directory
  link : ∀ x target, disk.node? x = some (.link target) → after.node? x = some (.link target)

theorem walkWith_target (ways : KeepsWays disk after)
    {enter enter' : Bool → Location → List String → Except Fault Spot}
    (entered : ∀ slash dir segments, enter slash dir segments = .ok spot →
      enter' slash dir segments = .ok (.found loc (.file bytes)))
    {follow slash : Bool} {dir : Location} {segments : List String}
    (h : disk.walkWith enter follow slash dir segments = .ok spot)
    (target : spot.target? = some loc) (written : after.node? loc = some (.file bytes)) :
    after.walkWith enter' follow slash dir segments = .ok (.found loc (.file bytes)) := by
  -- What is passed on the way is kept. `entered` is the case of a link, a walk with fewer links.
  fun_induction Disk.walkWith disk enter follow slash dir segments with
  | case1 =>
    cases h
    cases target
  | case2 dir name rest here ih =>
    rw [walkWith, if_pos here]
    exact ih h
  | case3 dir name rest here up ih =>
    rw [walkWith, if_neg here, if_pos up]
    exact ih h
  | case4 => cases h
  | case5 dir name rest here up long free last =>
    cases h
    cases slash with
    | true => cases target
    | false =>
      cases target
      rw [walkWith, if_neg here, if_neg up, if_neg long, written]
      simp [last]
  | case6 => cases h
  | case7 dir name rest here up long isDirectory ih =>
    rw [walkWith, if_neg here, if_neg up, if_neg long, ways.directory _ isDirectory]
    exact ih h
  | case8 dir name rest here up long old isFile last =>
    cases h
    cases target
    rw [walkWith, if_neg here, if_neg up, if_neg long, written]
    simp only [last, if_true]
  | case9 => cases h
  | case10 =>
    cases h
    cases target
  | case11 dir name rest here up long path isLink notLast =>
    rw [walkWith, if_neg here, if_neg up, if_neg long, ways.link _ _ isLink]
    simp only [notLast]
    exact entered _ _ _ h

/-- A path to a place for a file leads to the file that is there on a disk with the same ways. -/
theorem walk_target (ways : KeepsWays disk after) {links : Nat} {follow slash : Bool}
    {dir : Location} {segments : List String}
    (h : disk.walk links follow slash dir segments = .ok spot) (target : spot.target? = some loc)
    (written : after.node? loc = some (.file bytes)) :
    after.walk links follow slash dir segments = .ok (.found loc (.file bytes)) := by
  induction links generalizing slash dir segments with
  | zero => exact walkWith_target ways (fun _ _ _ h => by cases h) h target written
  | succ links ih => exact walkWith_target ways (fun _ _ _ h => ih h) h target written

theorem node?_spotWith {enter : Bool → Location → List String → Except Fault Spot}
    (entered : ∀ slash dir segments, enter slash dir segments = .ok spot →
      disk.node? loc = spot.node?)
    {follow slash : Bool} {dir : Location} {segments : List String}
    (h : disk.walkWith enter follow slash dir segments = .ok spot)
    (target : spot.target? = some loc) : disk.node? loc = spot.node? := by
  fun_induction Disk.walkWith disk enter follow slash dir segments with
  | case1 =>
    cases h
    cases target
  | case2 dir name rest here ih => exact ih h
  | case3 dir name rest here up ih => exact ih h
  | case4 => cases h
  | case5 dir name rest here up long free last =>
    cases h
    cases slash with
    | true => cases target
    | false =>
      cases target
      exact free
  | case6 => cases h
  | case7 dir name rest here up long isDirectory ih => exact ih h
  | case8 dir name rest here up long old isFile last =>
    cases h
    cases target
    exact isFile
  | case9 => cases h
  | case10 =>
    cases h
    cases target
  | case11 dir name rest here up long path isLink notLast => exact entered _ _ _ h

theorem node?_spot {links : Nat} {follow slash : Bool} {dir : Location} {segments : List String}
    (h : disk.walk links follow slash dir segments = .ok spot) (target : spot.target? = some loc) :
    disk.node? loc = spot.node? := by
  induction links generalizing slash dir segments with
  | zero => exact node?_spotWith (fun _ _ _ h => by cases h) h target
  | succ links ih => exact node?_spotWith (fun _ _ _ h => ih h) h target

theorem node?_target {links : Nat} {follow slash : Bool} {dir : Location} {segments : List String}
    (h : disk.walk links follow slash dir segments = .ok spot) (target : spot.target? = some loc) :
    disk.node? loc = none ∨ ∃ old, disk.node? loc = some (.file old) := by
  rw [node?_spot h target]
  cases spot with
  | vacant => exact .inl rfl
  | found place node =>
    cases node with
    | file old => exact .inr ⟨old, rfl⟩
    | directory => cases target
    | link => cases target

/-- Writing a file keeps the ways if there was no directory and no link in its place. -/
theorem keepsWays_set (free : disk.node? loc = none ∨ ∃ old, disk.node? loc = some (.file old)) :
    KeepsWays disk (disk.set loc (.file bytes)) := by
  have other : ∀ x node, disk.node? x = some node → (∀ old, node ≠ .file old) → x ≠ loc := by
    rintro x node hx notFile rfl
    rcases free with free | ⟨old, isFile⟩
    · cases free.symm.trans hx
    · exact notFile old (Option.some.inj (hx.symm.trans isFile))
  have below : loc ≠ [] := other [] .directory rfl (by simp) |>.symm
  refine ⟨rfl, rfl, fun x hx => ?_, fun x target hx => ?_⟩
  · rw [node?_set below, if_neg (other x _ hx (by simp)), hx]
  · rw [node?_set below, if_neg (other x _ hx (by simp)), hx]

/-- A path that leads somewhere is followed from a place that the working directory decides. -/
theorem locate_eq_walk {follow : Bool} {p : Path} (h : disk.locate follow p = .ok spot) :
    ∃ dir segments, ∀ other : Disk, other.workingDirectory = disk.workingDirectory →
      other.lost = disk.lost →
      other.locate follow p = other.walk linkLimit follow p.endsInSlash dir segments := by
  unfold locate at h ⊢
  split at h
  · cases h
  rename_i noZero
  split at h
  · cases h
  rename_i notEmpty
  split at h
  · cases h
  rename_i notLong
  simp only [noZero, notEmpty, notLong, Bool.false_eq_true, if_false]
  split at h
  · rename_i absolute
    exact ⟨[], solid p.segments, fun other _ _ => if_pos absolute⟩
  · rename_i relative
    cases way : climb disk.lost disk.workingDirectory (solid p.segments) with
    | error fault =>
      rw [way] at h
      cases h
    | ok start =>
      refine ⟨start.1, start.2, fun other same sameLost => ?_⟩
      rw [if_neg relative, same, sameLost, way]
      rfl

theorem locate_target (ways : KeepsWays disk after) {follow : Bool} {p : Path}
    (h : disk.locate follow p = .ok spot) (target : spot.target? = some loc)
    (written : after.node? loc = some (.file bytes)) :
    after.locate follow p = .ok (.found loc (.file bytes)) := by
  obtain ⟨dir, segments, walked⟩ := locate_eq_walk h
  rw [walked disk rfl rfl] at h
  rw [walked after ways.workingDirectory ways.lost]
  exact walk_target ways h target written

/-- What a successful write does: the path leads to a place for a file, which is set there. -/
theorem target_of_write {p : Path} (h : disk.write p bytes = ⟨.ok (), after⟩) :
    ∃ spot loc, disk.locate true p = .ok spot ∧ spot.target? = some loc
      ∧ after = disk.set loc (.file bytes) := by
  unfold write at h
  split at h
  · cases h
  · rename_i loc old found
    cases h
    exact ⟨_, loc, found, rfl, rfl⟩
  · cases h
  · rename_i dir name slash vacant
    cases slash with
    | true => cases h
    | false =>
      cases h
      exact ⟨_, dir ++ [name], vacant, rfl, rfl⟩

/-- A successful write sets one file, where there was a file or nothing, and the path leads to it. -/
theorem set_of_write {p : Path} (h : disk.write p bytes = ⟨.ok (), after⟩) :
    ∃ loc, (disk.node? loc = none ∨ ∃ old, disk.node? loc = some (.file old)) ∧
      after = disk.set loc (.file bytes) ∧ after.nodeAt? true p = .ok (loc, .file bytes) := by
  obtain ⟨spot, loc, found, target, rfl⟩ := target_of_write h
  obtain ⟨dir, segments, walked⟩ := locate_eq_walk found
  have free := node?_target ((walked disk rfl rfl).symm.trans found) target
  have below : loc ≠ [] := by
    rintro rfl
    rcases free with free | ⟨_, free⟩ <;> cases free
  have written : (disk.set loc (.file bytes)).node? loc = some (.file bytes) := by
    rw [node?_set below, if_pos rfl]
  refine ⟨loc, free, rfl, ?_⟩
  rw [nodeAt?, locate_target (keepsWays_set free) found target written]

theorem nodeAt?_of_write {p : Path} (h : disk.write p bytes = ⟨.ok (), after⟩) :
    ∃ loc, after.nodeAt? true p = .ok (loc, .file bytes) := by
  obtain ⟨loc, -, -, found⟩ := set_of_write h
  exact ⟨loc, found⟩

theorem eq_of_write_error {p : Path} {fault : Fault}
    (h : disk.write p bytes = ⟨.error fault, after⟩) : after = disk := by
  unfold write at h
  split at h
  · exact (congrArg Outcome.disk h).symm
  · cases h
  · exact (congrArg Outcome.disk h).symm
  · split at h
    · exact (congrArg Outcome.disk h).symm
    · cases h

theorem isFile_of_nodeAt? {p : Path} (h : disk.nodeAt? true p = .ok (loc, .file bytes)) :
    disk.isFile p = true := by
  rw [isFile, h]

theorem fromUTF8?_toUTF8 (text : String) : String.fromUTF8? text.toUTF8 = some text := by
  simp [String.fromUTF8?, String.fromUTF8, text.isValidUTF8]

theorem readBytes_eq_ok_iff {p : Path} :
    disk.readBytes p = .ok bytes ↔ ∃ loc, disk.nodeAt? true p = .ok (loc, .file bytes) := by
  unfold readBytes
  constructor
  · intro h
    cases leads : disk.nodeAt? true p with
    | error fault =>
      rw [leads] at h
      cases h
    | ok found =>
      obtain ⟨loc, node⟩ := found
      rw [leads] at h
      cases node <;> cases h
      exact ⟨loc, rfl⟩
  · rintro ⟨loc, leads⟩
    rw [leads]
    rfl

theorem readText_eq_ok_iff {p : Path} {text : String} : disk.readText p = .ok text ↔
    ∃ loc bytes, disk.nodeAt? true p = .ok (loc, .file bytes) ∧
      String.fromUTF8? bytes = some text := by
  constructor
  · intro h
    cases read : disk.readBytes p with
    | error fault =>
      rw [readText, read] at h
      cases h
    | ok bytes =>
      obtain ⟨loc, leads⟩ := readBytes_eq_ok_iff.mp read
      refine ⟨loc, bytes, leads, ?_⟩
      simp only [readText, read, bind, Except.bind] at h
      split at h <;> cases h
      assumption
  · rintro ⟨loc, bytes, leads, decoded⟩
    simp only [readText, readBytes_eq_ok_iff.mpr ⟨loc, leads⟩, bind, Except.bind, decoded]

theorem readText_of_nodeAt? {p : Path} {text : String}
    (h : disk.nodeAt? true p = .ok (loc, .file text.toUTF8)) : disk.readText p = .ok text :=
  readText_eq_ok_iff.mpr ⟨loc, text.toUTF8, h, fromUTF8?_toUTF8 text⟩

end Disk

end Scaffold
