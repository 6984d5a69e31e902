import Scaffold.Proofs.Disk.Growth
import Scaffold.Proofs.Disk.Sequence
import Scaffold.Proofs.Disk.Tree

/-!
# Trees of files

A tree of files is a disk with the proof that it is a tree. On a tree every path comes out in a
directory, so writing a file, making directories and removing leave a tree, whether they succeed or
fail, and so does every action that is made of them.
-/

namespace Scaffold

/-- A disk on which everything is in a directory, what is left of the working directory too. -/
structure FileTree where
  disk : Disk
  isTree : disk.IsTree

instance : Inhabited FileTree := ⟨⟨{}, Disk.isTree_of_entries (by simp) rfl⟩⟩

/-- What the spot says is so: the node is there, or the name is free in a directory. -/
def Spot.Holds (disk : Disk) : Spot → Prop
  | .found loc node => disk.node? loc = some node
  | .vacant directory name _ =>
    disk.node? directory = some .directory ∧ disk.node? (directory ++ [name]) = none

namespace Disk

variable {disk after : Disk} {links fuel : Nat} {follow slash : Bool} {dir loc : Location}
  {name : String} {segments : List String} {node : Node} {p : Path} {spot : Spot}
  {bytes : ByteArray}

theorem IsTree.dropLast (tree : IsTree disk) (directory : disk.node? loc = some .directory) :
    disk.node? loc.dropLast = some .directory := by
  cases loc using List.reverseRecOn with
  | nil => rfl
  | append_singleton front name =>
    rw [List.dropLast_concat]
    exact tree.parent front name .directory directory

/-! ## Where a path comes out -/

theorem holds_walkWith (tree : IsTree disk)
    {enter : Bool → Location → List String → Except Fault Spot}
    (entered : ∀ slash dir segments, disk.node? dir = some .directory →
      enter slash dir segments = .ok spot → spot.Holds disk)
    (directory : disk.node? dir = some .directory)
    (h : disk.walkWith enter follow slash dir segments = .ok spot) : spot.Holds disk := by
  -- The walk is in a directory at every step. `entered` is the case of a link.
  fun_induction Disk.walkWith disk enter follow slash dir segments with
  | case1 =>
    cases h
    exact directory
  | case2 dir name rest here ih => exact ih directory h
  | case3 dir name rest here up ih => exact ih (tree.dropLast directory) h
  | case4 => cases h
  | case5 dir name rest here up long free last =>
    cases h
    exact ⟨directory, free⟩
  | case6 => cases h
  | case7 dir name rest here up long isDirectory ih => exact ih isDirectory h
  | case8 dir name rest here up long bytes isFile last =>
    cases h
    exact isFile
  | case9 => cases h
  | case10 dir name rest here up long path isLink last =>
    cases h
    exact isLink
  | case11 dir name rest here up long path isLink notLast =>
    refine entered _ _ _ ?_ h
    split
    · rfl
    · exact directory

theorem holds_walk (tree : IsTree disk) (directory : disk.node? dir = some .directory)
    (h : disk.walk links follow slash dir segments = .ok spot) : spot.Holds disk := by
  induction links generalizing slash dir segments with
  | zero => exact holds_walkWith tree (fun _ _ _ _ h => by cases h) directory h
  | succ links ih => exact holds_walkWith tree (fun _ _ _ => ih) directory h

theorem eq_take_of_climb {lost : Nat} {rest : List String}
    (h : climb lost dir segments = .ok (loc, rest)) : loc = dir.take (dir.length - lost) := by
  fun_induction climb lost dir segments with
  | case1 dir =>
    cases h
    exact (List.take_length).symm
  | case2 lost dir rest ih =>
    rw [ih h, List.length_dropLast, List.dropLast_eq_take, List.take_take]
    congr 1
    omega
  | case3 lost dir rest ih => exact ih h
  | case4 => cases h

theorem IsTree.start (tree : IsTree disk) (h : disk.start p = .ok (dir, segments)) :
    disk.node? dir = some .directory := by
  unfold Disk.start at h
  split at h
  · cases h
    rfl
  · rw [eq_take_of_climb h]
    exact tree.working

/-- On a tree there is what a path leads to. -/
theorem IsTree.holds (tree : IsTree disk) (h : disk.locate follow p = .ok spot) :
    spot.Holds disk := by
  obtain ⟨-, dir, segments, started, walked⟩ := locate_eq_ok_iff.mp h
  exact holds_walk tree (tree.start started) walked

/-! ## Single operations -/

theorem isTree_set (tree : IsTree disk) (directory : disk.node? loc = some .directory)
    (free : disk.node? (loc ++ [name]) ≠ some .directory) (node : Node) :
    IsTree (disk.set (loc ++ [name]) node) := by
  have below : loc ++ [name] ≠ [] := List.append_ne_nil_of_right_ne_nil loc (List.cons_ne_nil _ _)
  have kept : ∀ x, disk.node? x = some .directory →
      (disk.set (loc ++ [name]) node).node? x = some .directory := by
    intro x isDirectory
    rw [node?_set below, if_neg, isDirectory]
    rintro rfl
    exact free isDirectory
  refine ⟨fun x n found there => kept x ?_, kept _ tree.working⟩
  rw [node?_set below] at there
  split at there
  · rename_i same
    rw [List.append_inj_left' same rfl]
    exact directory
  · exact tree.parent x n found there

theorem isTree_makeDirectory (tree : IsTree disk) (p : Path) :
    IsTree (disk.makeDirectory p).disk := by
  rcases disk.makeDirectory_cases p with ⟨fault, failed⟩ | ⟨directory, name, slash, located, made⟩
  · rwa [failed]
  · obtain ⟨isDirectory, free⟩ := tree.holds located
    rw [made]
    exact isTree_set tree isDirectory (by simp [free]) .directory

theorem isTree_makeDirectories (tree : IsTree disk) (fuel : Nat) (p : Path) :
    IsTree (disk.makeDirectories fuel p).disk := by
  induction fuel generalizing disk p with
  | zero => exact tree
  | succ fuel ih =>
    have first := isTree_makeDirectory tree p
    rw [makeDirectories]
    split
    · exact tree
    split
    · rename_i made
      rwa [made] at first
    · rename_i missing
      rw [missing] at first
      split
      · exact first
      · rename_i between _ parent _
        have above := ih first parent
        split
        · rename_i failed
          rwa [failed] at above
        · rename_i made
          rw [made] at above
          rw [disk_settle]
          exact isTree_makeDirectory above p
    · rwa [disk_settle]

theorem isTree_write (tree : IsTree disk) (p : Path) (bytes : ByteArray) :
    IsTree (disk.write p bytes).disk := by
  cases wrote : disk.write p bytes with
  | mk result after =>
    cases result with
    | error fault =>
      obtain rfl := eq_of_write_error wrote
      exact tree
    | ok done =>
      obtain ⟨spot, loc, located, target, rfl⟩ := target_of_write wrote
      have there := tree.holds located
      cases spot with
      | vacant directory name slash =>
        cases slash with
        | true => cases target
        | false =>
          cases target
          exact isTree_set tree there.1 (by simp [there.2]) _
      | found place node =>
        cases node with
        | directory => cases target
        | link path => cases target
        | file old =>
          cases target
          cases loc using List.reverseRecOn with
          | nil => cases there
          | append_singleton front name =>
            have isFile : disk.node? (front ++ [name]) = some (.file old) := there
            exact isTree_set tree (tree.parent front name _ isFile) (by simp [isFile]) _

theorem isTree_removeBelow (tree : IsTree disk) (loc : Location) :
    IsTree (disk.removeBelow loc) := by
  unfold removeBelow
  generalize (disk.entries.filterMap fun entry =>
    if loc.isPrefixOf entry.1 && entry.1.length == loc.length + 1 then some entry.1
    else none) = children
  induction children generalizing disk with
  | nil => exact tree
  | cons child others ih => exact ih (isTree_removeTree tree child)

theorem isTree_removeAll (tree : IsTree disk) (p : Path) : IsTree (disk.removeAll p).disk := by
  unfold removeAll
  split
  · exact tree
  · exact isTree_removeTree tree _
  · exact tree
  · dsimp only
    split
    · exact isTree_removeBelow tree _
    · split
      · exact isTree_removeBelow tree _
      · split
        · exact isTree_removeBelow tree _
        · exact isTree_removeTree tree _

end Disk

/-! ## Actions -/

namespace Action

variable {ε δ α β : Type}

/-- However it ends, the action leaves a tree where it found one. -/
def KeepsTrees (action : Action ε α) : Prop :=
  action.Relates fun disk after => disk.IsTree → after.IsTree

theorem keepsTrees_pure (a : α) : KeepsTrees (pure a : Action ε α) := relates_pure (fun _ => id) a

theorem keepsTrees_look (f : Disk → Except ε α) : KeepsTrees (look f) := fun _ => id

theorem KeepsTrees.bind {action : Action ε α} {next : α → Action ε β} (first : KeepsTrees action)
    (later : ∀ a, KeepsTrees (next a)) : KeepsTrees (action >>= next) :=
  Relates.bind (fun one two tree => two (one tree)) first later

theorem KeepsTrees.explain {action : Action ε α} (h : KeepsTrees action) (f : ε → δ) :
    KeepsTrees (explain f action) := relates_explain f h

theorem keepsTrees_each {f : α → Action ε β} (h : ∀ a, KeepsTrees (f a)) (as : List α) :
    KeepsTrees (each f as) :=
  relates_each (fun _ => id) (fun one two tree => two (one tree)) h as

theorem keepsTrees_makeAll (p : Path) : KeepsTrees (·.makeAll p) :=
  fun _ tree => Disk.isTree_makeDirectories tree _ p

theorem keepsTrees_write (p : Path) (bytes : ByteArray) : KeepsTrees (·.write p bytes) :=
  fun _ tree => Disk.isTree_write tree p bytes

theorem keepsTrees_removeAll (p : Path) : KeepsTrees (·.removeAll p) :=
  fun _ tree => Disk.isTree_removeAll tree p

theorem KeepsTrees.exists_after {action : Action ε α} (keeps : KeepsTrees action) {tree : FileTree}
    {result : Except ε α} {after : Disk} (ran : action.run tree.disk = ⟨result, after⟩) :
    ∃ later : FileTree, later.disk = after := by
  have left := keeps tree.disk tree.isTree
  rw [ran] at left
  exact ⟨⟨after, left⟩, rfl⟩

end Action

end Scaffold
