import Scaffold.Disk.Fault
import Scaffold.Names.Association
import Scaffold.Path

/-!
# A disk

Files, directories and symbolic links by their absolute location, together with the working
directory. The root is always a directory. When directories above the working directory are
removed, that many of its last names are lost: it can be left upwards, but nothing is in it.
-/

namespace Scaffold

/-- The names from the root downwards. -/
abbrev Location := List String

inductive Node
  | file (bytes : ByteArray)
  | directory
  | link (target : Path)

structure Disk where
  entries : List (Location × Node) := []
  workingDirectory : Location := []
  lost : Nat := 0

namespace Disk

def node? (disk : Disk) (loc : Location) : Option Node :=
  if loc.isEmpty then some .directory else disk.entries.lookup loc

def setIn (loc : Location) (node : Node) : List (Location × Node) → List (Location × Node)
  | [] => [(loc, node)]
  | (other, old) :: rest =>
    if other == loc then (loc, node) :: rest else (other, old) :: setIn loc node rest

def set (disk : Disk) (loc : Location) (node : Node) : Disk :=
  { disk with entries := setIn loc node disk.entries }

/-- Removes a location and all below it. A working directory that is removed loses its names from
that location on. -/
def removeTree (disk : Disk) (loc : Location) : Disk :=
  { disk with
    entries := disk.entries.filter fun entry => !loc.isPrefixOf entry.1
    lost :=
      if loc.isPrefixOf (disk.workingDirectory.take (disk.workingDirectory.length - disk.lost)) then
        disk.workingDirectory.length + 1 - loc.length
      else disk.lost }

def removeBelow (disk : Disk) (loc : Location) : Disk :=
  (disk.entries.filterMap fun entry =>
    if loc.isPrefixOf entry.1 && entry.1.length == loc.length + 1 then some entry.1 else none).foldl
      removeTree disk

/-- The names in a directory, in the order of the entries. What is no name is not listed. -/
def namesIn (disk : Disk) (loc : Location) : List String :=
  disk.entries.filterMap fun entry =>
    if loc.isPrefixOf entry.1 && entry.1.length == loc.length + 1 then
      entry.1.getLast?.filter fun name => Path.IsName name
    else none

theorem lookup_setIn (loc x : Location) (node : Node) (entries : List (Location × Node)) :
    (setIn loc node entries).lookup x = if x = loc then some node else entries.lookup x := by
  induction entries with
  | nil => exact lookup_pair_cons x loc node []
  | cons entry rest ih =>
    obtain ⟨other, old⟩ := entry
    rw [setIn]
    by_cases same : other = loc
    · rw [if_pos (beq_iff_eq.mpr same), lookup_pair_cons, lookup_pair_cons, same]
      by_cases h : x = loc
      · rw [if_pos h, if_pos h]
      · rw [if_neg h, if_neg h, if_neg h]
    · rw [if_neg (fun h => same (beq_iff_eq.mp h)), lookup_pair_cons, lookup_pair_cons, ih]
      by_cases h : x = other
      · have differ : x ≠ loc := h ▸ same
        rw [if_pos h, if_neg differ, if_pos h]
      · rw [if_neg h, if_neg h]

theorem node?_set {disk : Disk} {loc x : Location} {node : Node} (h : loc ≠ []) :
    (disk.set loc node).node? x = if x = loc then some node else disk.node? x := by
  unfold node? set
  by_cases root : x = []
  · subst root
    simp [Ne.symm h]
  · have : x.isEmpty = false := by simpa using root
    simp [this, lookup_setIn]

end Disk

end Scaffold
