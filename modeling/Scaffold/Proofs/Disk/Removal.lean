import Scaffold.Proofs.Disk.Opening

/-!
# Removing a tree

What is at a location and below it goes, and nothing else. A path under which a tree is removed
names the location itself, as a directory or as a link: links are never followed into a tree.
-/

namespace Scaffold

namespace Disk

variable {disk after : Disk} {links : Nat} {follow slash : Bool} {dir loc x : Location}
  {name : String} {segments : List String} {p q output : Path} {node : Node}

/-! ## Nodes -/

theorem lookup_filter_keys {α β : Type} [BEq α] [LawfulBEq α] (kept : α → Bool) (x : α)
    (entries : List (α × β)) : (entries.filter fun entry => kept entry.1).lookup x
      = if kept x then entries.lookup x else none := by
  induction entries with
  | nil => simp
  | cons entry rest ih =>
    obtain ⟨key, value⟩ := entry
    by_cases same : x == key
    · obtain rfl := eq_of_beq same
      by_cases kept_x : kept x = true
      · simp [kept_x]
      · simp [kept_x, ih]
    · by_cases kept_key : kept key = true
      · simp [kept_key, List.lookup_cons, same, ih]
      · simp [kept_key, List.lookup_cons, same, ih]

theorem node?_removeTree_of_ne_nil (notRoot : x ≠ []) :
    (disk.removeTree loc).node? x = if loc <+: x then none else disk.node? x := by
  unfold node?
  have notRoot : ¬ x.isEmpty = true := by simpa using notRoot
  rw [if_neg notRoot, if_neg notRoot]
  refine (lookup_filter_keys (fun key => !loc.isPrefixOf key) x disk.entries).trans ?_
  by_cases inside : loc <+: x
  · rw [if_pos inside, List.isPrefixOf_iff_prefix.mpr inside]
    rfl
  · rw [if_neg inside, Bool.eq_false_iff.mpr (mt List.isPrefixOf_iff_prefix.mp inside)]
    rfl

theorem node?_removeTree (below : loc ≠ []) :
    (disk.removeTree loc).node? x = if loc <+: x then none else disk.node? x := by
  by_cases root : x = []
  · rw [root, if_neg fun prefixed => below (List.prefix_nil.mp prefixed)]
    rfl
  · exact node?_removeTree_of_ne_nil root

theorem lost_le_removeTree (disk : Disk) (below : loc ≠ []) :
    disk.lost ≤ (disk.removeTree loc).lost := by
  rw [removeTree]
  dsimp only
  split
  · rename_i inside
    have length := (List.isPrefixOf_iff_prefix.mp inside).length_le
    have some := List.length_pos_iff.mpr below
    rw [List.length_take] at length
    omega
  · exact Nat.le_refl _

theorem embeds_removeTree (below : loc ≠ []) : Embeds (disk.removeTree loc) disk where
  workingDirectory := rfl
  lost := disk.lost_le_removeTree below
  directory x node := by
    rw [node?_removeTree below] at node
    split at node
    · cases node
    · exact node
  link x target node := by
    rw [node?_removeTree below] at node
    split at node
    · cases node
    · exact node

/-! ## The path of a tree -/

/-- With a slash at the end, or if links are followed anyway, no path comes out at a link. -/
theorem walk_ne_link {links : Nat} {slash : Bool} {dir : Location} {segments : List String}
    {target : Path} (through : follow = true ∨ slash = true) :
    disk.walk links follow slash dir segments ≠ .ok (.found loc (.link target)) := by
  intro h
  match segments with
  | [] =>
    rw [walk_nil] at h
    cases h
  | name :: rest =>
    by_cases here : name = "."
    · subst here
      rw [walk_here] at h
      exact walk_ne_link through h
    by_cases up : name = ".."
    · subst up
      rw [walk_up] at h
      exact walk_ne_link through h
    by_cases long : nameLimit < name.utf8ByteSize
    · rw [walk_long here up long] at h
      cases h
    rw [walk_entry ⟨here, up, Nat.le_of_not_lt long⟩] at h
    split at h
    · split at h <;> cases h
    · exact walk_ne_link through h
    · split at h <;> cases h
    · -- A link at the end is only left alone without `follow` and without a slash.
      have followed : (rest.isEmpty && !follow && !slash) = false := by
        rcases through with follows | slashed
        · simp [follows]
        · simp [slashed]
      rw [followed, if_neg Bool.false_ne_true] at h
      cases links with
      | zero => cases h
      | succ links =>
        refine walk_ne_link (through.imp_right fun slashed => ?_) h
        rw [slashed, Bool.true_or]
termination_by (links, segments.length)

theorem walk_of_leads_unfollowed (h : Leads disk links dir segments left loc) (slash : Bool) :
    disk.walk links false slash dir segments = .ok (.found loc .directory) ∨
      ∃ x target, disk.walk links false slash dir segments = .ok (.found x (.link target)) := by
  induction h generalizing slash with
  | arrived links dir => exact .inl (walk_nil ..)
  | here _ ih =>
    rw [walk_here]
    exact ih slash
  | up _ ih =>
    rw [walk_up]
    exact ih slash
  | entry isEntry node _ ih =>
    rw [walk_entry isEntry, node]
    exact ih slash
  | link isEntry node _ ih =>
    rw [walk_entry isEntry, node]
    dsimp only
    split
    · exact .inr ⟨_, _, rfl⟩
    · exact ih _

/-- A path that denotes a directory comes out at it, or at a link that stands at its end. -/
theorem nodeAt?_of_directory (h : disk.nodeAt? true p = .ok (loc, .directory)) :
    disk.nodeAt? false p = .ok (loc, .directory) ∨
      ∃ x target, disk.nodeAt? false p = .ok (x, .link target) := by
  obtain ⟨accepted, dir, segments, left, started, leads⟩ := nodeAt?_eq_directory_iff.mp h
  have located : disk.locate false p = disk.walk linkLimit false p.endsInSlash dir segments :=
    locate_of_start accepted started
  rcases walk_of_leads_unfollowed leads p.endsInSlash with found | ⟨x, target, found⟩
  · exact .inl (by rw [nodeAt?, located, found])
  · exact .inr ⟨x, target, by rw [nodeAt?, located, found]⟩

theorem EndsAt.found (h : EndsAt disk p loc) (accepted : Accepts p)
    (noSlash : p.endsInSlash = false) (there : disk.node? loc = some node) :
    disk.nodeAt? false p = .ok (loc, node) := by
  obtain ⟨left, directory, name, isEntry, rfl, located⟩ := h.locate accepted false
  rw [walk_entry isEntry, there, noSlash] at located
  cases node with
  | file bytes => rw [nodeAt?, located]; rfl
  | directory => rw [nodeAt?, located, walk_nil]
  | link target => rw [nodeAt?, located]; rfl

/-- Without the slashes at its end a path comes out where it ends, also at a link. -/
theorem EndsAt.found_trimmed (h : EndsAt disk p loc) (accepted : Accepts p)
    (there : disk.node? loc = some node) :
    disk.nodeAt? false ⟨Path.trimSlashes p.segments⟩ = .ok (loc, node) :=
  (h.congr (Path.isAbsolute_trimSlashes p) (Path.solid_trimSlashes p.segments)).found
    (accepts_trimSlashes accepted) (Path.endsInSlash_trimSlashes h.solid_ne_nil) there

theorem getLast?_ne_dot_of_link {target : Path}
    (h : disk.nodeAt? false p = .ok (loc, .link target)) :
    (solid p.segments).getLast? ≠ some "." := by
  intro last
  obtain ⟨front, way⟩ := List.getLast?_eq_some_iff.mp last
  obtain ⟨-, dir, segments, started, walked⟩ := locate_eq_ok_iff.mp (locate_of_nodeAt? h)
  obtain ⟨rest, rfl, -⟩ := start_of_append way (by decide) started
  obtain ⟨left, directory, slash', -, -, behind⟩ :=
    leads_of_walk walked (.inl (List.cons_ne_nil "." []))
  rw [walk_here, walk_nil] at behind
  cases behind

theorem walked_of_nodeAt? (named : p.fileName? = some name) (ends : p.EndsInName)
    (h : disk.nodeAt? follow p = .ok (loc, node)) :
    ∃ directory left, EndsAt disk p (directory ++ [name]) ∧ IsEntry name ∧
      disk.walk left follow p.endsInSlash directory [name] = .ok (.found loc node) := by
  obtain ⟨front, way⟩ := List.getLast?_eq_some_iff.mp (ends name named)
  have notUp := Path.notUp_of_fileName? named
  have notHere := Path.notHere_of_fileName? named
  have noUps : ".." ∉ [name] := fun up => notUp (List.mem_singleton.mp up).symm
  obtain ⟨-, dir, segments, started, walked⟩ := locate_eq_ok_iff.mp (locate_of_nodeAt? h)
  obtain ⟨rest, rfl, -⟩ := start_of_append way noUps started
  obtain ⟨left, directory, slash', leads, same, behind⟩ :=
    leads_of_walk walked (.inl (List.cons_ne_nil name []))
  rw [same (List.cons_ne_nil name [])] at behind
  by_cases long : nameLimit < name.utf8ByteSize
  · cases (walk_long notHere notUp long).symm.trans behind
  have isEntry : IsEntry name := ⟨notHere, notUp, Nat.le_of_not_lt long⟩
  exact ⟨directory, left, ⟨dir, rest, left, directory, name, started, leads, isEntry, rfl⟩,
    isEntry, behind⟩

theorem endsAt_of_link {target : Path} (named : p.fileName? = some name)
    (h : disk.nodeAt? false p = .ok (loc, .link target)) :
    p.EndsInName ∧ EndsAt disk p loc ∧ disk.node? loc = some (.link target) := by
  have ends := Path.endsInName_of_getLast? (getLast?_ne_dot_of_link h)
  obtain ⟨directory, left, endsAt, isEntry, walked⟩ := walked_of_nodeAt? named ends h
  rw [walk_entry isEntry] at walked
  split at walked
  · cases walked
  · rw [walk_nil] at walked
    cases walked
  · split at walked <;> cases walked
  · rename_i path node
    split at walked
    · cases walked
      exact ⟨ends, endsAt, node⟩
    · rename_i slash
      have slashed : p.endsInSlash = true := by simpa using slash
      rw [slashed, Bool.true_or] at walked
      cases left with
      | zero => cases walked
      | succ left => exact absurd walked (walk_ne_link (.inr rfl))

/-- A path that comes out at a directory ends there, or at a link that only a slash makes it
follow. -/
theorem endsAt_of_directory (named : p.fileName? = some name) (ends : p.EndsInName)
    (h : disk.nodeAt? false p = .ok (loc, .directory)) :
    (EndsAt disk p loc ∧ disk.node? loc = some .directory) ∨
      ∃ x target, EndsAt disk p x ∧ disk.node? x = some (.link target) := by
  obtain ⟨directory, left, endsAt, isEntry, walked⟩ := walked_of_nodeAt? named ends h
  rw [walk_entry isEntry] at walked
  split at walked
  · cases walked
  · rename_i node
    rw [walk_nil] at walked
    cases walked
    exact .inl ⟨endsAt, node⟩
  · split at walked <;> cases walked
  · rename_i path node
    exact .inr ⟨_, path, endsAt, node⟩

/-- What is removed under a path with a file name is the tree at the location of the name. -/
theorem removeAll_ok (named : p.fileName? = some name)
    (h : disk.removeAll p = ⟨.ok (), after⟩) :
    p.EndsInName ∧ ∃ loc node, EndsAt disk p loc ∧ disk.node? loc = some node ∧
      after = disk.removeTree loc := by
  unfold removeAll at h
  split at h
  · cases h
  · rename_i loc target found
    cases h
    obtain ⟨ends, endsAt, node⟩ := endsAt_of_link named found
    exact ⟨ends, loc, _, endsAt, node, rfl⟩
  · cases h
  · rename_i loc found
    dsimp only at h
    split at h
    · cases h
    rename_i notDot
    split at h
    · cases h
    have ends : p.EndsInName := Path.endsInName_of_getLast? (by simpa using notDot)
    rcases endsAt_of_directory named ends found with ⟨endsAt, node⟩ | ⟨x, target, endsAt, node⟩
    · refine ⟨ends, loc, _, endsAt, node, ?_⟩
      split at h <;> cases h
      rfl
    · -- Without the slash this is the link itself, which is no directory to remove.
      have accepted := (locate_eq_ok_iff.mp (locate_of_nodeAt? found)).1
      rw [endsAt.found_trimmed accepted node] at h
      cases h

theorem removeAll_of_directory (endsAt : EndsAt disk p loc) (accepted : Accepts p)
    (named : p.fileName? = some name) (ends : p.EndsInName)
    (there : disk.node? loc = some .directory) :
    disk.removeAll p = ⟨.ok (), disk.removeTree loc⟩ := by
  have last := ends name named
  have notDot : ((solid p.segments).getLast? == some ".") = false := by
    rw [last]
    simpa using Path.notHere_of_fileName? named
  have notUp : ((solid p.segments).getLast? == some "..") = false := by
    rw [last]
    simpa using Path.notUp_of_fileName? named
  unfold removeAll
  rw [endsAt.directory accepted false there]
  simp only [notDot, notUp, endsAt.found_trimmed accepted there, Bool.false_eq_true, if_false]

/-! ## After a removal -/

theorem clear_removeTree (below : loc ≠ []) (inside : loc <+: x) :
    ClearFrom (disk.removeTree loc) x := by
  intro deeper within
  rw [node?_removeTree below, if_pos (inside.trans within)]

theorem unreached_of_removed {old : Location} (named : output.fileName? = some name)
    (ends : output.EndsInName) (endsAt : EndsAt disk output old) :
    Unreached (disk.removeTree old) output := by
  intro root rooted
  obtain ⟨loc, node, endsAt', there⟩ := (rooted_iff.mp rooted).2.endsAt named ends
  obtain rfl := (endsAt'.mono (embeds_removeTree endsAt.below)).unique endsAt
  rw [node?_removeTree endsAt.below, if_pos List.prefix_rfl] at there
  cases there

theorem removed_of_above {old : Location} (endsAt : EndsAt disk output old)
    (there : disk.node? old = some node) (above : q.Above output)
    (missing : EndsAt (disk.removeTree old) q loc)
    (free : (disk.removeTree old).node? loc = none) : old <+: loc := by
  have taken : disk.node? loc ≠ none := by
    obtain ⟨tail, way⟩ := above.way
    obtain ⟨dir, front, left, directory, name, started, leads, isEntry, rfl⟩ :=
      missing.mono (embeds_removeTree endsAt.below)
    obtain ⟨dir', front', left', directory', name', started', leads', isEntry', rfl⟩ := endsAt
    have whole := start_append above.absolute way.symm started
    obtain ⟨rfl, same⟩ := Prod.mk.inj (Except.ok.inj (whole.symm.trans started'))
    -- `q` is the whole path up to dots, or its last name is one that the path goes through.
    rcases List.eq_nil_or_concat' tail with rfl | ⟨more, last, rfl⟩
    · rw [List.append_nil] at same
      obtain ⟨rfl, lastSame⟩ := List.append_inj' same rfl
      obtain rfl := leads.unique leads'
      rw [lastSame, there]
      exact Option.some_ne_none node
    · rw [← List.append_assoc] at same
      obtain ⟨rfl, -⟩ := List.append_inj' same rfl
      rw [List.append_assoc] at leads'
      obtain ⟨_, _, _, before, behind⟩ := leads'.split
      obtain rfl := leads.unique before
      exact behind.taken isEntry
  rw [node?_removeTree endsAt.below] at free
  split at free
  · assumption
  · exact absurd free taken

theorem opens_removed {old : Location} (endsAt : EndsAt disk output old)
    (there : disk.node? old = some node) (descends : output.Descends) {fuel : Nat} {opened : Disk}
    (h : (disk.removeTree old).makeDirectories fuel output.home = ⟨.ok (), opened⟩) :
    opened = disk.removeTree old ∨ Opens (old <+: ·) (disk.removeTree old) output.home opened := by
  refine opens_of_makeDirectories (Path.descends_home descends) output.endsInName_home
    (fun loc name inside => inside.trans (List.prefix_append loc [name]))
    (fun q loc above missing free => ?_) h
  have inside := removed_of_above endsAt there (above.trans output.above_home) missing free
  exact ⟨clear_removeTree endsAt.below inside, inside⟩

end Disk

end Scaffold
