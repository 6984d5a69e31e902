import Mathlib.Data.List.Induction
import Scaffold.Proofs.Disk.Removal

/-!
# Disks as trees

On a disk everything is in a directory, and what is left of the working directory is one. Then
nothing is below what is no directory, and removing a tree leaves a tree.
-/

namespace Scaffold

namespace Disk

variable {disk after : Disk} {loc more : Location} {name : String} {node : Node}

/-- The names of the working directory that are not lost. -/
def keptDirectory (disk : Disk) : Location :=
  disk.workingDirectory.take (disk.workingDirectory.length - disk.lost)

/-- Everything is in a directory. -/
structure IsTree (disk : Disk) : Prop where
  parent : ∀ loc name node, disk.node? (loc ++ [name]) = some node →
    disk.node? loc = some .directory
  working : disk.node? disk.keptDirectory = some .directory

theorem isTree_of_entries
    (parent : ∀ entry ∈ disk.entries, disk.node? entry.1.dropLast = some .directory)
    (working : disk.node? disk.keptDirectory = some .directory) : IsTree disk := by
  refine ⟨fun loc name node h => ?_, working⟩
  unfold node? at h
  split at h
  · rename_i root
    cases List.append_ne_nil_of_right_ne_nil loc (List.cons_ne_nil name [])
      (List.isEmpty_iff.mp root)
  · obtain ⟨before, behind, entries, -⟩ := List.lookup_eq_some_iff.mp h
    have listed : (loc ++ [name], node) ∈ disk.entries := by
      rw [entries]
      exact List.mem_append_right before List.mem_cons_self
    have found := parent _ listed
    rwa [List.dropLast_concat] at found

theorem IsTree.above (tree : IsTree disk) (lower : more ≠ [])
    (h : disk.node? (loc ++ more) = some node) : disk.node? loc = some .directory := by
  induction more using List.reverseRecOn generalizing node with
  | nil => exact absurd rfl lower
  | append_singleton front name ih =>
    rw [← List.append_assoc] at h
    have directory := tree.parent (loc ++ front) name node h
    by_cases none : front = []
    · rwa [none, List.append_nil] at directory
    · exact ih none directory

theorem IsTree.clear (tree : IsTree disk) (free : disk.node? loc = none) : ClearFrom disk loc := by
  rintro x ⟨more, rfl⟩
  by_cases none : more = []
  · rw [none, List.append_nil, free]
  · cases found : disk.node? (loc ++ more) with
    | none => rfl
    | some node => cases free.symm.trans (tree.above none found)

theorem lost_removeTree (apart : ¬ loc <+: disk.keptDirectory) :
    (disk.removeTree loc).lost = disk.lost :=
  if_neg (mt List.isPrefixOf_iff_prefix.mp apart)

theorem keptDirectory_removeTree (below : loc ≠ []) (inside : loc <+: disk.keptDirectory) :
    (disk.removeTree loc).keptDirectory = loc.dropLast := by
  have lost : (disk.removeTree loc).lost = disk.workingDirectory.length + 1 - loc.length :=
    if_pos (List.isPrefixOf_iff_prefix.mpr inside)
  obtain ⟨more, parts⟩ := inside.trans (List.take_prefix _ _)
  have some := List.length_pos_iff.mpr below
  have kept : disk.workingDirectory.length - (disk.workingDirectory.length + 1 - loc.length)
      = loc.length - 1 := by
    rw [← parts, List.length_append]
    omega
  rw [keptDirectory, lost,
    show (disk.removeTree loc).workingDirectory = disk.workingDirectory from rfl, kept, ← parts,
    List.take_append_of_le_length (by omega), List.dropLast_eq_take]

theorem not_prefix_dropLast (below : loc ≠ []) : ¬ loc <+: loc.dropLast := by
  intro inside
  have some := List.length_pos_iff.mpr below
  have length := inside.length_le
  rw [List.length_dropLast] at length
  omega

theorem isTree_removeTree_below (tree : IsTree disk) (below : loc ≠ []) :
    IsTree (disk.removeTree loc) where
  parent x name node h := by
    rw [node?_removeTree below] at h ⊢
    split at h
    · cases h
    · rename_i outside
      rw [if_neg fun inside => outside (inside.trans (List.prefix_append x [name]))]
      exact tree.parent x name node h
  working := by
    by_cases inside : loc <+: disk.keptDirectory
    · obtain ⟨more, parts⟩ := inside
      have directory : disk.node? loc.dropLast = some .directory := by
        have found := tree.working
        rw [← parts, ← List.dropLast_append_getLast below, List.append_assoc] at found
        exact tree.above (List.append_ne_nil_of_left_ne_nil (List.cons_ne_nil _ _) more) found
      rw [keptDirectory_removeTree below ⟨more, parts⟩, node?_removeTree below,
        if_neg (not_prefix_dropLast below), directory]
    · have same : (disk.removeTree loc).keptDirectory = disk.keptDirectory := by
        rw [keptDirectory, lost_removeTree inside]
        rfl
      rw [same, node?_removeTree below, if_neg inside, tree.working]

theorem isTree_removeTree_root (disk : Disk) : IsTree (disk.removeTree []) := by
  have empty : (disk.removeTree []).entries = [] := by simp [removeTree]
  have lost : (disk.removeTree []).lost = disk.workingDirectory.length + 1 := by
    simp [removeTree]
  have kept : (disk.removeTree []).keptDirectory = [] := by
    rw [keptDirectory, lost]
    simp [removeTree]
  refine isTree_of_entries (by simp [empty]) ?_
  rw [kept]
  rfl

theorem isTree_removeTree (tree : IsTree disk) (loc : Location) :
    IsTree (disk.removeTree loc) := by
  by_cases root : loc = []
  · rw [root]
    exact disk.isTree_removeTree_root
  · exact isTree_removeTree_below tree root

/-! ## Below a directory -/

theorem node?_foldl_removeTree {locs : List Location} (below : ∀ loc ∈ locs, loc ≠ [])
    (x : Location) : (locs.foldl removeTree disk).node? x
      = if ∃ loc ∈ locs, loc <+: x then none else disk.node? x := by
  induction locs generalizing disk with
  | nil => simp
  | cons loc rest ih =>
    obtain ⟨first, others⟩ := List.forall_mem_cons.mp below
    rw [List.foldl_cons, ih others, node?_removeTree first]
    by_cases inside : loc <+: x
    · simp [inside]
    · simp [inside]

theorem mem_entries_of_node? (below : loc ≠ []) (h : disk.node? loc = some node) :
    (loc, node) ∈ disk.entries := by
  unfold node? at h
  rw [if_neg (by simpa using below)] at h
  obtain ⟨before, behind, entries, -⟩ := List.lookup_eq_some_iff.mp h
  rw [entries]
  exact List.mem_append_right before List.mem_cons_self

/-- What was taken away is all that was below the location. -/
theorem node?_removeBelow (tree : IsTree disk) {x : Location} (other : x ≠ loc) :
    (disk.removeBelow loc).node? x = if loc <+: x then none else disk.node? x := by
  have child : ∀ {y}, y ∈ (disk.entries.filterMap fun entry =>
      if loc.isPrefixOf entry.1 && entry.1.length == loc.length + 1 then some entry.1 else none) ↔
      loc <+: y ∧ y.length = loc.length + 1 ∧ ∃ node, (y, node) ∈ disk.entries := by
    intro y
    simp only [List.mem_filterMap, Option.ite_none_right_eq_some, Option.some.injEq,
      Bool.and_eq_true, List.isPrefixOf_iff_prefix, beq_iff_eq]
    constructor
    · rintro ⟨⟨y, node⟩, mem, ⟨inside, length⟩, rfl⟩
      exact ⟨inside, length, node, mem⟩
    · rintro ⟨inside, length, node, mem⟩
      exact ⟨(y, node), mem, ⟨inside, length⟩, rfl⟩
  rw [removeBelow, node?_foldl_removeTree fun y mem none => by
    have length := (child.mp mem).2.1
    rw [none] at length
    cases length]
  by_cases inside : loc <+: x
  · rw [if_pos inside]
    split
    · rfl
    · rename_i spared
      cases found : disk.node? x with
      | none => rfl
      | some node =>
        -- On a tree the first name below the location has an entry of its own.
        obtain ⟨more, rfl⟩ := inside
        cases more with
        | nil => exact absurd (List.append_nil loc) other
        | cons name rest =>
          obtain ⟨entry, listed⟩ : ∃ entry, disk.node? (loc ++ [name]) = some entry := by
            by_cases last : rest = []
            · exact ⟨node, last ▸ found⟩
            · rw [List.append_cons] at found
              exact ⟨_, tree.above last found⟩
          refine absurd ⟨loc ++ [name], child.mpr ⟨List.prefix_append loc [name], by simp, entry,
            mem_entries_of_node? (by simp) listed⟩, ?_⟩ spared
          exact ⟨rest, (List.append_cons loc name rest).symm⟩
  · rw [if_neg inside, if_neg]
    rintro ⟨y, mem, above⟩
    exact inside ((child.mp mem).1.trans above)

/-- However removing a directory ends, all that was in it is gone, and nothing else. -/
theorem node?_removeAll (tree : IsTree disk) {p : Path} {x : Location}
    (found : disk.nodeAt? false p = .ok (loc, .directory)) (other : x ≠ loc) :
    (disk.removeAll p).disk.node? x = if loc <+: x then none else disk.node? x := by
  have whole : (disk.removeTree loc).node? x = if loc <+: x then none else disk.node? x := by
    by_cases root : x = []
    · exact node?_removeTree fun none => other (root.trans none.symm)
    · exact node?_removeTree_of_ne_nil root
  unfold removeAll
  rw [found]
  dsimp only
  split
  · exact node?_removeBelow tree other
  · split
    · exact node?_removeBelow tree other
    · split
      · exact node?_removeBelow tree other
      · exact whole

theorem node?_removeAll_of_link (tree : IsTree disk) {p target : Path} {x : Location}
    (found : disk.nodeAt? false p = .ok (loc, .link target)) (other : x ≠ loc)
    (isLink : disk.node? loc = some (.link target)) :
    (disk.removeAll p).disk.node? x = disk.node? x := by
  have removed : disk.removeAll p = ⟨.ok (), disk.removeTree loc⟩ := by
    rw [removeAll, found]
  have below : loc ≠ [] := by
    rintro rfl
    cases isLink
  rw [removed, node?_removeTree below]
  split
  · rename_i inside
    obtain ⟨more, rfl⟩ := inside
    cases free : disk.node? (loc ++ more) with
    | none => rfl
    | some node =>
      have lower : more ≠ [] := fun none => other (by rw [none, List.append_nil])
      cases (tree.above lower free).symm.trans isLink
  · rfl

end Disk

end Scaffold
