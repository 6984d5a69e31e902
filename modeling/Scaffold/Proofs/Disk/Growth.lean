import Scaffold.Disk.Action
import Scaffold.Proofs.Disk.Leading

/-!
# Making directories

Making a directory adds directories where nothing was, and changes nothing else, however it ends.
If it succeeds, the path leads to a directory.
-/

namespace Scaffold.Disk

variable {disk between after : Disk} {links : Nat} {follow slash : Bool} {dir directory : Location}
  {name : String} {segments : List String} {p : Path}

/-- At the places there may be other files. Elsewhere directories may have come where nothing was,
and all else is as before. -/
structure Grows (places : List Location) (disk after : Disk) : Prop where
  workingDirectory : after.workingDirectory = disk.workingDirectory
  lost : after.lost = disk.lost
  node : ∀ loc ∉ places, after.node? loc = disk.node? loc ∨
    disk.node? loc = none ∧ after.node? loc = some .directory

theorem Grows.refl (disk : Disk) : Grows [] disk disk := ⟨rfl, rfl, fun _ _ => .inl rfl⟩

theorem Grows.trans {places others : List Location} (first : Grows places disk between)
    (second : Grows others between after) : Grows (places ++ others) disk after := by
  refine ⟨second.workingDirectory.trans first.workingDirectory, second.lost.trans first.lost, ?_⟩
  intro loc elsewhere
  rw [List.mem_append, not_or] at elsewhere
  obtain ⟨notFirst, notSecond⟩ := elsewhere
  rcases second.node loc notSecond with same | ⟨free, made⟩
  · rw [same]
    exact first.node loc notFirst
  · rcases first.node loc notFirst with same | ⟨_, old⟩
    · exact .inr ⟨same.symm.trans free, made⟩
    · cases old.symm.trans free

theorem Grows.node?_of_some {places : List Location} (h : Grows places disk after) {loc : Location}
    (elsewhere : loc ∉ places) {node : Node} (old : disk.node? loc = some node) :
    after.node? loc = some node := by
  rcases h.node loc elsewhere with same | ⟨free, _⟩
  · exact same.trans old
  · cases old.symm.trans free

theorem Grows.keepsWays (h : Grows [] disk after) : KeepsWays disk after where
  workingDirectory := h.workingDirectory
  lost := h.lost
  directory _ old := h.node?_of_some List.not_mem_nil old
  link _ _ old := h.node?_of_some List.not_mem_nil old

theorem node?_of_nodeAt?_file {loc : Location} {bytes : ByteArray}
    (leads : disk.nodeAt? true p = .ok (loc, .file bytes)) :
    disk.node? loc = some (.file bytes) := by
  have located := locate_of_nodeAt? leads
  obtain ⟨dir, segments, walked⟩ := locate_eq_walk located
  exact node?_spot ((walked disk rfl rfl).symm.trans located) rfl

/-- A path that led to a file leads there still, if the file and the ways are the same. -/
theorem nodeAt?_file_of_keepsWays {loc : Location} {bytes : ByteArray} (ways : KeepsWays disk after)
    (leads : disk.nodeAt? true p = .ok (loc, .file bytes))
    (still : after.node? loc = some (.file bytes)) :
    after.nodeAt? true p = .ok (loc, .file bytes) := by
  rw [nodeAt?, locate_target ways (locate_of_nodeAt? leads) rfl still]

theorem nodeAt?_file {loc : Location} {bytes : ByteArray} (h : Grows [] disk after)
    (leads : disk.nodeAt? true p = .ok (loc, .file bytes)) :
    after.nodeAt? true p = .ok (loc, .file bytes) :=
  nodeAt?_file_of_keepsWays h.keepsWays leads
    (h.node?_of_some List.not_mem_nil (node?_of_nodeAt?_file leads))

theorem KeepsWays.trans (first : KeepsWays disk between) (second : KeepsWays between after) :
    KeepsWays disk after where
  workingDirectory := second.workingDirectory.trans first.workingDirectory
  lost := second.lost.trans first.lost
  directory x old := second.directory x (first.directory x old)
  link x target old := second.link x target (first.link x target old)

theorem Grows.noLinks (h : Grows [] disk after) {root : Location} (noLinks : disk.NoLinks root) :
    after.NoLinks root := by
  intro loc path below isLink
  rcases h.node loc List.not_mem_nil with same | ⟨_, made⟩
  · exact noLinks loc path below (same.symm.trans isLink)
  · cases made.symm.trans isLink

/-! ## One file -/

section File

variable {loc root : Location} {bytes : ByteArray}

theorem grows_setFile (below : loc ≠ []) : Grows [loc] disk (disk.set loc (.file bytes)) := by
  refine ⟨rfl, rfl, fun x elsewhere => .inl ?_⟩
  rw [node?_set below, if_neg fun same => elsewhere (List.mem_singleton.mpr same)]

theorem noLinks_setFile (below : loc ≠ []) (noLinks : disk.NoLinks root) :
    (disk.set loc (.file bytes)).NoLinks root := by
  intro x path inside isLink
  rw [node?_set below] at isLink
  split at isLink
  · cases isLink
  · exact noLinks x path inside isLink

theorem ne_nil_of_target {spot : Spot} (h : disk.locate follow p = .ok spot)
    (target : spot.target? = some loc) : loc ≠ [] := by
  obtain ⟨_, dir, segments, _, walked⟩ := locate_eq_ok_iff.mp h
  rintro rfl
  rcases node?_target walked target with free | ⟨_, old⟩
  · cases free
  · cases old

end File

/-! ## One directory -/

theorem grows_set {loc : Location} (free : disk.node? loc = none) :
    Grows [] disk (disk.set loc .directory) := by
  have below : loc ≠ [] := by
    rintro rfl
    cases free
  refine ⟨rfl, rfl, fun x _ => ?_⟩
  rw [node?_set below]
  split
  · rename_i same
    exact .inr ⟨same ▸ free, rfl⟩
  · exact .inl rfl

/-- A free spot is free, and once a directory is there, what led to the spot leads to it. -/
theorem leads_of_vacant {links : Nat} {slash : Bool} {dir : Location} {segments : List String}
    {slash' : Bool}
    (h : disk.walk links follow slash dir segments = .ok (.vacant directory name slash')) :
    disk.node? (directory ++ [name]) = none ∧ ∀ after, KeepsWays disk after →
      after.node? (directory ++ [name]) = some .directory →
      ∃ left, Leads after links dir segments left (directory ++ [name]) := by
  -- There are only directories and links on the way, and `KeepsWays` keeps both of them.
  match segments with
  | [] =>
    rw [walk_nil] at h
    cases h
  | first :: rest =>
    by_cases here : first = "."
    · subst here
      rw [walk_here] at h
      obtain ⟨free, leads⟩ := leads_of_vacant h
      refine ⟨free, fun after ways made => ?_⟩
      exact (leads after ways made).imp fun _ => .here
    by_cases up : first = ".."
    · subst up
      rw [walk_up] at h
      obtain ⟨free, leads⟩ := leads_of_vacant h
      refine ⟨free, fun after ways made => ?_⟩
      exact (leads after ways made).imp fun _ => .up
    by_cases long : nameLimit < first.utf8ByteSize
    · rw [walk_long here up long] at h
      cases h
    have isEntry : IsEntry first := ⟨here, up, Nat.le_of_not_lt long⟩
    rw [walk_entry isEntry] at h
    split at h
    · rename_i free
      split at h
      · rename_i last
        cases h
        rw [List.isEmpty_iff.mp last]
        exact ⟨free, fun after ways made => ⟨links, .entry isEntry made (.arrived ..)⟩⟩
      · cases h
    · rename_i node
      obtain ⟨free, leads⟩ := leads_of_vacant h
      refine ⟨free, fun after ways made => ?_⟩
      exact (leads after ways made).imp fun _ => .entry isEntry (ways.directory _ node)
    · split at h <;> cases h
    · rename_i path node
      split at h
      · cases h
      cases links with
      | zero => cases h
      | succ links =>
        obtain ⟨free, leads⟩ := leads_of_vacant h
        refine ⟨free, fun after ways made => ?_⟩
        exact (leads after ways made).imp fun _ => .link isEntry (ways.link _ _ node)
termination_by (links, segments.length)

/-- Making a directory fails and changes nothing, or fills a free spot. -/
theorem makeDirectory_cases (disk : Disk) (p : Path) :
    (∃ fault, disk.makeDirectory p = ⟨.error fault, disk⟩) ∨
      ∃ directory name slash,
        disk.locate false ⟨Path.trimSlashes p.segments⟩ = .ok (.vacant directory name slash) ∧
        disk.makeDirectory p = ⟨.ok (), disk.set (directory ++ [name]) .directory⟩ := by
  unfold makeDirectory
  cases located : disk.locate false ⟨Path.trimSlashes p.segments⟩ with
  | error fault => exact .inl ⟨fault, rfl⟩
  | ok spot =>
    cases spot with
    | found loc node => exact .inl ⟨.alreadyExists, rfl⟩
    | vacant directory name slash => exact .inr ⟨directory, name, slash, rfl, rfl⟩

theorem free_of_locate (h : disk.locate follow p = .ok (.vacant directory name slash)) :
    disk.node? (directory ++ [name]) = none := by
  obtain ⟨_, dir, segments, _, walked⟩ := locate_eq_ok_iff.mp h
  exact (leads_of_vacant walked).1

theorem grows_makeDirectory (disk : Disk) (p : Path) :
    Grows [] disk (disk.makeDirectory p).disk := by
  rcases disk.makeDirectory_cases p with ⟨fault, failed⟩ | ⟨directory, name, slash, located, made⟩
  · rw [failed]
    exact .refl disk
  · rw [made]
    exact grows_set (free_of_locate located)

theorem trimSlashes_of_last (h : segments.getLast? ≠ some "") :
    Path.trimSlashes segments = segments := by
  have kept : segments.reverse.dropWhile (· == "") = segments.reverse := by
    cases reversed : segments.reverse with
    | nil => rfl
    | cons last rest =>
      rw [List.getLast?_eq_head?_reverse, reversed] at h
      refine List.dropWhile_cons_of_neg ?_
      simpa using h
  rw [Path.trimSlashes, kept, List.reverse_reverse]
  split
  · rfl
  · rfl

theorem set_of_makeDirectory (h : disk.makeDirectory p = ⟨.ok (), after⟩) :
    ∃ loc, disk.node? loc = none ∧ after = disk.set loc .directory ∧
      after.nodeAt? true ⟨Path.trimSlashes p.segments⟩ = .ok (loc, .directory) := by
  rcases disk.makeDirectory_cases p with ⟨fault, failed⟩ | ⟨directory, name, slash, located, made⟩
  · cases failed.symm.trans h
  · cases made.symm.trans h
    obtain ⟨accepted, dir, segments, started, walked⟩ := locate_eq_ok_iff.mp located
    obtain ⟨free, leads⟩ := leads_of_vacant walked
    have there : (disk.set (directory ++ [name]) .directory).node? (directory ++ [name])
        = some .directory := by
      rw [node?_set (List.append_ne_nil_of_right_ne_nil directory (List.cons_ne_nil name [])),
        if_pos rfl]
    have found : (disk.set (directory ++ [name]) .directory).locate true
        ⟨Path.trimSlashes p.segments⟩ = .ok (.found (directory ++ [name]) .directory) :=
      locate_eq_ok_iff.mpr ⟨accepted, dir, segments, started,
        leads_iff_walk.mp (leads _ (grows_set free).keepsWays there)⟩
    exact ⟨directory ++ [name], free, rfl, by rw [nodeAt?, found]⟩

theorem isDirectory_of_makeDirectory (last : p.segments.getLast? ≠ some "")
    (h : disk.makeDirectory p = ⟨.ok (), after⟩) : after.isDirectory p = true := by
  obtain ⟨loc, -, -, found⟩ := set_of_makeDirectory h
  rw [trimSlashes_of_last last] at found
  rw [isDirectory, found]

/-! ## With those above -/

theorem disk_settle (p : Path) (outcome : Outcome Fault Unit) :
    (makeDirectories.settle p outcome).disk = outcome.disk := by
  unfold makeDirectories.settle
  split
  · rfl
  · split <;> rfl

theorem grows_makeDirectories (disk : Disk) (fuel : Nat) (p : Path) :
    Grows [] disk (disk.makeDirectories fuel p).disk := by
  induction fuel generalizing disk p with
  | zero => exact .refl disk
  | succ fuel ih =>
    rw [makeDirectories]
    split
    · exact .refl disk
    have first := disk.grows_makeDirectory p
    split
    · rename_i made
      rw [made] at first
      exact first
    · rename_i missing
      rw [missing] at first
      split
      · exact first
      · rename_i between _ parent _
        have above := first.trans (ih between parent)
        split
        · rename_i failed
          rw [failed] at above
          exact above
        · rename_i later made
          rw [made] at above
          rw [disk_settle]
          exact above.trans (later.grows_makeDirectory p)
    · rw [disk_settle]
      exact first

theorem isDirectory_of_settle (last : p.segments.getLast? ≠ some "")
    (h : makeDirectories.settle p (disk.makeDirectory p) = ⟨.ok (), after⟩) :
    after.isDirectory p = true := by
  unfold makeDirectories.settle at h
  split at h
  · rename_i made
    cases h
    exact isDirectory_of_makeDirectory last made
  · split at h
    · rename_i isDirectory
      cases h
      exact isDirectory
    · cases h

theorem isDirectory_of_makeDirectories {fuel : Nat} (named : p.components ≠ [])
    (last : p.segments.getLast? ≠ some "")
    (h : disk.makeDirectories fuel p = ⟨.ok (), after⟩) : after.isDirectory p = true := by
  cases fuel with
  | zero => cases h
  | succ fuel =>
    rw [makeDirectories, if_neg (by simpa using named)] at h
    split at h
    · rename_i made
      cases h
      exact isDirectory_of_makeDirectory last made
    · split at h
      · cases h
      · split at h
        · cases h
        · exact isDirectory_of_settle last h
    · exact isDirectory_of_settle last h

end Scaffold.Disk
