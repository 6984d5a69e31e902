import Scaffold.Proofs.Disk.Written
import Scaffold.Proofs.Path

/-!
# Where directories lead

What leads to a directory leads there with more behind it, and leads there still when files and
directories have been added. So all paths that go on from a path of a directory come out below
one root, and where there are no links below the root, their names say where.
-/

namespace Scaffold

/-- The location that a spot is about, taken or free. -/
def Spot.place : Spot → Location
  | .found loc _ => loc
  | .vacant directory name _ => directory ++ [name]

theorem Spot.place_of_target {spot : Spot} {loc : Location} (h : spot.target? = some loc) :
    spot.place = loc := by
  cases spot with
  | found other node =>
    cases node with
    | file bytes => exact Option.some.inj h
    | directory => cases h
    | link target => cases h
  | vacant directory name slash =>
    cases slash with
    | true => cases h
    | false => exact Option.some.inj h

namespace Disk

variable {disk after : Disk} {links left : Nat} {follow slash : Bool} {dir target : Location}
  {name : String} {front rest tail segments : List String} {spot : Spot}

/-! ## One segment -/

/-- A segment that is looked up in its directory. -/
structure IsEntry (name : String) : Prop where
  notHere : name ≠ "."
  notUp : name ≠ ".."
  short : name.utf8ByteSize ≤ nameLimit

def enter (disk : Disk) : (links : Nat) → Bool → Bool → Location → List String → Except Fault Spot
  | 0, _ => fun _ _ _ => .error .tooManyLinks
  | links + 1, follow => disk.walk links follow

theorem walk_eq_walkWith (disk : Disk) (links : Nat) (follow : Bool) :
    disk.walk links follow = disk.walkWith (disk.enter links follow) follow := by
  cases links <;> rfl

theorem walk_nil : disk.walk links follow slash dir [] = .ok (.found dir .directory) := by
  rw [walk_eq_walkWith, walkWith]

theorem walk_here :
    disk.walk links follow slash dir ("." :: rest) = disk.walk links follow slash dir rest := by
  rw [walk_eq_walkWith, walkWith, if_pos (beq_self_eq_true _)]

theorem walk_up : disk.walk links follow slash dir (".." :: rest) =
    disk.walk links follow slash dir.dropLast rest := by
  rw [walk_eq_walkWith, walkWith, if_neg (by decide), if_pos (beq_self_eq_true _)]

theorem walk_long (notHere : name ≠ ".") (notUp : name ≠ "..")
    (long : nameLimit < name.utf8ByteSize) :
    disk.walk links follow slash dir (name :: rest) = .error .nameTooLong := by
  rw [walk_eq_walkWith, walkWith, if_neg (by simpa using notHere), if_neg (by simpa using notUp),
    if_pos long]

theorem walk_entry (h : IsEntry name) : disk.walk links follow slash dir (name :: rest) =
    match disk.node? (dir ++ [name]) with
    | none => if rest.isEmpty then .ok (.vacant dir name slash) else .error .notFound
    | some .directory => disk.walk links follow slash (dir ++ [name]) rest
    | some (.file bytes) =>
      if rest.isEmpty && !slash then .ok (.found (dir ++ [name]) (.file bytes))
      else .error .notDirectory
    | some (.link target) =>
      if rest.isEmpty && !follow && !slash then .ok (.found (dir ++ [name]) (.link target))
      else
        disk.enter links follow (slash || (rest.isEmpty && target.endsInSlash))
          (if target.isAbsolute then [] else dir) (solid target.segments ++ rest) := by
  have notHere : ¬(name == ".") = true := by simpa using h.notHere
  have notUp : ¬(name == "..") = true := by simpa using h.notUp
  rw [walk_eq_walkWith, walkWith]
  exact (if_neg notHere).trans ((if_neg notUp).trans (if_neg (Nat.not_lt.mpr h.short)))

/-! ## Segments that lead to a directory -/

/-- The segments lead from one directory to another one, and so many links are left to follow. -/
inductive Leads (disk : Disk) : Nat → Location → List String → Nat → Location → Prop
  | arrived (links : Nat) (dir : Location) : Leads disk links dir [] links dir
  | here {links left : Nat} {dir target : Location} {rest : List String}
    (h : Leads disk links dir rest left target) : Leads disk links dir ("." :: rest) left target
  | up {links left : Nat} {dir target : Location} {rest : List String}
    (h : Leads disk links dir.dropLast rest left target) :
    Leads disk links dir (".." :: rest) left target
  | entry {links left : Nat} {dir target : Location} {name : String} {rest : List String}
    (isEntry : IsEntry name) (node : disk.node? (dir ++ [name]) = some .directory)
    (h : Leads disk links (dir ++ [name]) rest left target) :
    Leads disk links dir (name :: rest) left target
  | link {links left : Nat} {dir target : Location} {name : String} {rest : List String}
    {path : Path} (isEntry : IsEntry name) (node : disk.node? (dir ++ [name]) = some (.link path))
    (h : Leads disk links (if path.isAbsolute then [] else dir) (solid path.segments ++ rest) left
      target) :
    Leads disk (links + 1) dir (name :: rest) left target

/-- What paths are followed through on one disk is there on the other one, where no more of the
working directory is lost. -/
structure Embeds (disk after : Disk) : Prop where
  workingDirectory : after.workingDirectory = disk.workingDirectory
  lost : after.lost ≤ disk.lost
  directory : ∀ x, disk.node? x = some .directory → after.node? x = some .directory
  link : ∀ x target, disk.node? x = some (.link target) → after.node? x = some (.link target)

theorem KeepsWays.embeds (ways : KeepsWays disk after) : Embeds disk after :=
  ⟨ways.workingDirectory, Nat.le_of_eq ways.lost, ways.directory, ways.link⟩

theorem Leads.mono (ways : Embeds disk after) (h : Leads disk links dir segments left target) :
    Leads after links dir segments left target := by
  induction h with
  | arrived links dir => exact .arrived links dir
  | here _ ih => exact .here ih
  | up _ ih => exact .up ih
  | entry isEntry node _ ih => exact .entry isEntry (ways.directory _ node) ih
  | link isEntry node _ ih => exact .link isEntry (ways.link _ _ node) ih

/-- What leads to a directory is followed to its end, if something comes behind it or links at the
end are followed too. -/
theorem walk_of_leads (h : Leads disk links dir front left target) (tail : List String)
    (through : tail ≠ [] ∨ follow = true) : ∃ slash', (tail ≠ [] → slash' = slash) ∧
    disk.walk links follow slash dir (front ++ tail) =
      disk.walk left follow slash' target tail := by
  induction h generalizing slash with
  | arrived links dir => exact ⟨slash, fun _ => rfl, rfl⟩
  | here _ ih =>
    rw [List.cons_append, walk_here]
    exact ih
  | up _ ih =>
    rw [List.cons_append, walk_up]
    exact ih
  | entry isEntry node _ ih =>
    rw [List.cons_append, walk_entry isEntry, node]
    exact ih
  | @link links left dir target name rest path isEntry node _ ih =>
    have followed : ((rest ++ tail).isEmpty && !follow) = false := by
      rcases through with some | follows
      · simp [some]
      · simp [follows]
    rw [List.cons_append, walk_entry isEntry, node]
    simp only [followed, Bool.false_and, Bool.false_eq_true, if_false]
    rw [← List.append_assoc]
    obtain ⟨slash', same, walked⟩ :=
      @ih (slash || ((rest ++ tail).isEmpty && path.endsInSlash))
    refine ⟨slash', fun some => (same some).trans ?_, walked⟩
    simp [some]

/-- Segments with more behind them lead to a directory if they lead anywhere, and so do segments
that are followed to a directory. -/
theorem leads_of_walk {links : Nat} {slash : Bool} {dir : Location} {front : List String}
    (h : disk.walk links follow slash dir (front ++ tail) = .ok spot)
    (through : tail ≠ [] ∨ follow = true ∧ ∃ loc, spot = .found loc .directory) :
    ∃ left target slash', Leads disk links dir front left target ∧ (tail ≠ [] → slash' = slash) ∧
      disk.walk left follow slash' target tail = .ok spot := by
  -- A name is taken off in each step, but a link puts its path in front: its use is counted first.
  match front with
  | [] => exact ⟨links, dir, slash, .arrived links dir, fun _ => rfl, h⟩
  | name :: rest =>
    rw [List.cons_append] at h
    by_cases here : name = "."
    · subst here
      rw [walk_here] at h
      obtain ⟨left, target, slash', leads, walked⟩ := leads_of_walk h through
      exact ⟨left, target, slash', .here leads, walked⟩
    by_cases up : name = ".."
    · subst up
      rw [walk_up] at h
      obtain ⟨left, target, slash', leads, walked⟩ := leads_of_walk h through
      exact ⟨left, target, slash', .up leads, walked⟩
    by_cases long : nameLimit < name.utf8ByteSize
    · rw [walk_long here up long] at h
      cases h
    have isEntry : IsEntry name := ⟨here, up, Nat.le_of_not_lt long⟩
    -- With nothing behind, the walk is known to end in a directory: no free place, file or link.
    have last : (rest ++ tail).isEmpty = true →
        follow = true ∧ ∃ loc, spot = .found loc .directory := by
      intro empty
      refine through.resolve_left fun some => some ?_
      exact (List.append_eq_nil_iff.mp (List.isEmpty_iff.mp empty)).2
    rw [walk_entry isEntry] at h
    split at h
    · split at h
      · rename_i empty
        obtain ⟨-, loc, rfl⟩ := last empty
        cases h
      · cases h
    · rename_i node
      obtain ⟨left, target, slash', leads, walked⟩ := leads_of_walk h through
      exact ⟨left, target, slash', .entry isEntry node leads, walked⟩
    · split at h
      · rename_i ends
        obtain ⟨-, loc, rfl⟩ := last (Bool.and_eq_true_iff.mp ends).1
        cases h
      · cases h
    · rename_i path node
      have followed : ((rest ++ tail).isEmpty && !follow) = false := by
        cases empty : (rest ++ tail).isEmpty with
        | true => simp [(last empty).1]
        | false => rfl
      rw [followed, Bool.false_and, if_neg Bool.false_ne_true, ← List.append_assoc] at h
      cases links with
      | zero => cases h
      | succ links =>
        obtain ⟨left, target, slash', leads, same, walked⟩ := leads_of_walk h through
        refine ⟨left, target, slash', .link isEntry node leads, fun some => ?_, walked⟩
        rw [same some]
        simp [some]
termination_by (links, front.length)

theorem leads_iff_walk : (∃ left, Leads disk links dir segments left target) ↔
    disk.walk links true slash dir segments = .ok (.found target .directory) := by
  constructor
  · rintro ⟨left, leads⟩
    obtain ⟨slash', -, walked⟩ := walk_of_leads leads [] (.inr rfl)
    rw [List.append_nil, walk_nil] at walked
    exact walked
  · intro h
    rw [← List.append_nil segments] at h
    obtain ⟨left, found, slash', leads, -, walked⟩ := leads_of_walk h (.inr ⟨rfl, target, rfl⟩)
    rw [walk_nil] at walked
    cases walked
    exact ⟨left, leads⟩

/-! ## Names below a root -/

def NoLinks (disk : Disk) (root : Location) : Prop :=
  ∀ loc path, root <+: loc → disk.node? loc ≠ some (.link path)

theorem place_of_walk {root : Location} (noLinks : disk.NoLinks root) {names : List String}
    (isName : ∀ s ∈ names, Path.IsName s) (below : root <+: dir)
    (h : disk.walk links follow slash dir names = .ok spot) : spot.place = dir ++ names := by
  -- Only names are followed and none is a link, so each of them is put behind the location.
  induction names generalizing dir with
  | nil =>
    rw [walk_nil] at h
    cases h
    exact (List.append_nil dir).symm
  | cons name rest ih =>
    obtain ⟨first, others⟩ := List.forall_mem_cons.mp isName
    by_cases long : nameLimit < name.utf8ByteSize
    · rw [walk_long first.notHere first.notUp long] at h
      cases h
    rw [walk_entry ⟨first.notHere, first.notUp, Nat.le_of_not_lt long⟩] at h
    have deeper : root <+: dir ++ [name] := below.trans (List.prefix_append dir [name])
    split at h
    · split at h
      · rename_i last
        cases h
        rw [List.isEmpty_iff.mp last]
        rfl
      · cases h
    · exact (ih others deeper h).trans (List.append_assoc dir [name] rest)
    · split at h
      · rename_i last
        cases h
        rw [List.isEmpty_iff.mp (Bool.and_eq_true_iff.mp last).1]
        rfl
      · cases h
    · rename_i path node
      exact absurd node (noLinks _ path deeper)

/-! ## Where a path starts -/

/-- Paths that can be followed at all. -/
structure Accepts (p : Path) : Prop where
  noZero : '\x00' ∉ p.text.toList
  notEmpty : p.isEmpty = false
  short : p.text.utf8ByteSize ≤ pathLimit

/-- Where following a path starts, and the segments that are followed from there. -/
def start (disk : Disk) (p : Path) : Except Fault (Location × List String) :=
  if p.isAbsolute then .ok ([], solid p.segments)
  else climb disk.lost disk.workingDirectory (solid p.segments)

theorem locate_of_start {p : Path} (accepted : Accepts p)
    (started : disk.start p = .ok (dir, segments)) :
    disk.locate follow p = disk.walk linkLimit follow p.endsInSlash dir segments := by
  unfold locate
  rw [if_neg (by simpa using accepted.noZero), if_neg (by simp [accepted.notEmpty]),
    if_neg (Nat.not_lt.mpr accepted.short)]
  unfold start at started
  split at started
  · rename_i absolute
    cases started
    rw [if_pos absolute]
  · rename_i relative
    rw [if_neg relative, started]
    rfl

theorem locate_eq_ok_iff {p : Path} : disk.locate follow p = .ok spot ↔
    Accepts p ∧ ∃ dir segments, disk.start p = .ok (dir, segments) ∧
      disk.walk linkLimit follow p.endsInSlash dir segments = .ok spot := by
  constructor
  · intro h
    unfold locate at h
    split at h
    · cases h
    rename_i noZero
    split at h
    · cases h
    rename_i notEmpty
    split at h
    · cases h
    rename_i short
    refine ⟨⟨by simpa using noZero, by simpa using notEmpty, Nat.le_of_not_lt short⟩, ?_⟩
    unfold start
    split at h
    · rename_i absolute
      exact ⟨[], solid p.segments, if_pos absolute, h⟩
    · rename_i relative
      rw [if_neg relative]
      cases way : climb disk.lost disk.workingDirectory (solid p.segments) with
      | error fault =>
        rw [way] at h
        cases h
      | ok place =>
        rw [way] at h
        exact ⟨place.1, place.2, rfl, h⟩
  · rintro ⟨accepted, dir, segments, started, walked⟩
    exact (locate_of_start accepted started).trans walked

theorem start_congr (same : after.workingDirectory = disk.workingDirectory)
    (sameLost : after.lost = disk.lost) (p : Path) : after.start p = disk.start p := by
  rw [start, start, same, sameLost]

theorem locate_of_nodeAt? {p : Path} {loc : Location} {node : Node}
    (h : disk.nodeAt? follow p = .ok (loc, node)) :
    disk.locate follow p = .ok (.found loc node) := by
  unfold nodeAt? at h
  split at h
  · rename_i found
    cases h
    exact found
  · cases h
  · cases h

theorem nodeAt?_directory (ways : KeepsWays disk after) {p : Path}
    (h : disk.nodeAt? true p = .ok (target, .directory)) :
    after.nodeAt? true p = .ok (target, .directory) := by
  obtain ⟨accepted, dir, segments, started, walked⟩ := locate_eq_ok_iff.mp (locate_of_nodeAt? h)
  obtain ⟨left, leads⟩ := leads_iff_walk.mpr walked
  have located' : after.locate true p = .ok (.found target .directory) := by
    refine locate_eq_ok_iff.mpr ⟨accepted, dir, segments, ?_, ?_⟩
    · rw [start_congr ways.workingDirectory ways.lost, started]
    · exact leads_iff_walk.mp ⟨left, leads.mono ways.embeds⟩
  rw [nodeAt?, located']

/-! ## A path and what is joined to it -/

theorem climb_zero : climb 0 dir segments = .ok (dir, segments) := by
  rw [climb]

theorem climb_lost {lost : Nat} (notHere : name ≠ ".") (notUp : name ≠ "..") :
    climb (lost + 1) dir (name :: rest) = .error .notFound := by
  rw [climb]
  · rintro _ ⟨⟩
    exact notUp rfl
  · rintro _ ⟨⟩
    exact notHere rfl

theorem climb_append {lost : Nat} (h : climb lost dir front = .ok (target, segments))
    (tail : List String) : climb lost dir (front ++ tail) = .ok (target, segments ++ tail) := by
  fun_induction climb lost dir front with
  | case1 dir front =>
    cases h
    exact climb_zero
  | case2 lost dir rest ih => exact ih h
  | case3 lost dir rest ih => exact ih h
  | case4 => cases h

/-- Where fewer names are lost, the segments that left them are still to be followed. -/
theorem climb_of_le {lost fewer : Nat} (le : fewer ≤ lost)
    (h : climb lost dir segments = .ok (target, rest)) :
    ∃ dir' used, climb fewer dir segments = .ok (dir', used ++ rest) ∧
      ∀ disk links, Leads disk links dir' used links target := by
  fun_induction climb lost dir segments generalizing fewer with
  | case1 dir segments =>
    obtain ⟨rfl, rfl⟩ := Prod.mk.inj (Except.ok.inj h)
    obtain rfl := Nat.le_zero.mp le
    exact ⟨dir, [], climb_zero, fun disk links => .arrived links dir⟩
  | case2 lost dir segments ih =>
    cases fewer with
    | zero =>
      obtain ⟨dir', used, climbed, leads⟩ := ih (Nat.zero_le lost) h
      rw [climb_zero] at climbed
      obtain ⟨rfl, rfl⟩ := Prod.mk.inj (Except.ok.inj climbed)
      exact ⟨dir, ".." :: used, climb_zero, fun disk links => .up (leads disk links)⟩
    | succ fewer => exact ih (Nat.le_of_succ_le_succ le) h
  | case3 lost dir segments ih =>
    cases fewer with
    | zero =>
      obtain ⟨dir', used, climbed, leads⟩ := ih (Nat.zero_le _) h
      rw [climb_zero] at climbed
      obtain ⟨rfl, rfl⟩ := Prod.mk.inj (Except.ok.inj climbed)
      exact ⟨dir, "." :: used, climb_zero, fun disk links => .here (leads disk links)⟩
    | succ fewer => exact ih le h
  | case4 => cases h

theorem climb_stays {lost : Nat} (noUps : ".." ∉ tail) :
    climb (lost + 1) dir tail = .error .notFound := by
  induction tail with
  | nil =>
    rw [climb]
    · rintro _ ⟨⟩
    · rintro _ ⟨⟩
  | cons s tail ih =>
    have notUp : s ≠ ".." := fun up => noUps (up ▸ List.mem_cons_self)
    by_cases here : s = "."
    · subst here
      exact ih fun mem => noUps (List.mem_cons_of_mem "." mem)
    · exact climb_lost here notUp

theorem climb_of_append {lost : Nat} (noUps : ".." ∉ tail)
    (h : climb lost dir (front ++ tail) = .ok (target, segments)) :
    ∃ rest, climb lost dir front = .ok (target, rest) ∧ segments = rest ++ tail := by
  induction front generalizing lost dir with
  | nil =>
    cases lost with
    | zero =>
      rw [List.nil_append, climb_zero] at h
      cases h
      exact ⟨[], climb_zero, rfl⟩
    | succ lost => cases (climb_stays noUps).symm.trans h
  | cons s front ih =>
    cases lost with
    | zero =>
      rw [climb_zero] at h
      cases h
      exact ⟨s :: front, climb_zero, rfl⟩
    | succ lost =>
      by_cases up : s = ".."
      · subst up
        exact ih h
      by_cases here : s = "."
      · subst here
        exact ih h
      rw [List.cons_append, climb_lost here up] at h
      cases h

/-- What is joined to a path may be replaced by what is no longer. -/
theorem accepts_join {p : Path} {others : List String} (h : Path.AreSolid tail)
    (solid : Path.AreSolid others) (noZero : '\x00' ∉ (⟨others⟩ : Path).text.toList)
    (shorter : (⟨others⟩ : Path).text.utf8ByteSize ≤ (⟨tail⟩ : Path).text.utf8ByteSize)
    (accepted : Accepts (p.join ⟨tail⟩)) : Accepts (p.join ⟨others⟩) := by
  have zeros := accepted.noZero
  have short := accepted.short
  rw [Path.text_join p h] at zeros short
  rw [String.toList_append, List.mem_append, not_or] at zeros
  rw [String.utf8ByteSize_append] at short
  constructor
  · rw [Path.text_join p solid, String.toList_append, List.mem_append, not_or]
    exact ⟨zeros.1, noZero⟩
  · have notEmpty : others ≠ [""] := by
      rintro rfl
      exact solid.notEmpty List.mem_cons_self
    simp [Path.isEmpty, Path.join_solid p solid, List.append_eq_singleton_iff, solid.some, notEmpty]
  · rw [Path.text_join p solid, String.utf8ByteSize_append]
    omega

theorem accepts_here {p : Path} (h : Path.AreSolid tail) (accepted : Accepts (p.join ⟨tail⟩)) :
    Accepts (p.join ⟨["."]⟩) := by
  have one : (⟨["."]⟩ : Path).text.utf8ByteSize = 1 := by decide
  exact accepts_join h Path.areSolid_here (by decide) (one ▸ Path.utf8ByteSize_text_pos h) accepted

theorem start_join (p : Path) (h : Path.AreSolid tail) : disk.start (p.join ⟨tail⟩) =
    if p.isAbsolute then .ok ([], solid p.segments ++ tail)
    else climb disk.lost disk.workingDirectory (solid p.segments ++ tail) := by
  rw [start, Path.isAbsolute_join p h, Path.solid_join p h]

/-- A path that is joined to another one is followed from where the other one leads, which is a
directory. -/
theorem root_of_locate (ways : KeepsWays disk after) {output : Path} {names : List String}
    (areNames : Path.AreNames names) (h : disk.locate follow (output.join ⟨names⟩) = .ok spot) :
    ∃ root left slash, after.nodeAt? true (output.joinName ".") = .ok (root, .directory) ∧
      disk.walk left follow slash root names = .ok spot := by
  obtain ⟨accepted, dir, segments, started, walked⟩ := locate_eq_ok_iff.mp h
  obtain ⟨front, rfl, started_here⟩ : ∃ front, segments = front ++ names ∧
      disk.start (output.join ⟨["."]⟩) = .ok (dir, front ++ ["."]) := by
    rw [start_join output areNames.solid] at started
    rw [start_join output Path.areSolid_here]
    split at started
    · rename_i absolute
      cases started
      exact ⟨solid output.segments, rfl, if_pos absolute⟩
    · rename_i relative
      obtain ⟨front, way, rfl⟩ := climb_of_append areNames.noUps started
      exact ⟨front, rfl, (if_neg relative).trans (climb_append way ["."])⟩
  obtain ⟨left, root, slash, leads, -, behind⟩ := leads_of_walk walked (.inl areNames.some)
  refine ⟨root, left, slash, nodeAt?_directory ways ?_, behind⟩
  obtain ⟨slash', -, through⟩ := walk_of_leads leads ["."] (.inr rfl)
  rw [walk_here, walk_nil] at through
  have located := locate_eq_ok_iff.mpr
    ⟨accepts_here areNames.solid accepted, dir, _, started_here, through⟩
  rw [nodeAt?, Path.joinName, show Path.ofString "." = ⟨["."]⟩ from rfl, located]

/-- Where there are no links, the names that are joined to a path say where it comes out. -/
theorem place_of_locate (ways : KeepsWays disk after) {output : Path} {root : Location}
    (rooted : after.nodeAt? true (output.joinName ".") = .ok (root, .directory))
    (noLinks : disk.NoLinks root) {names : List String} (areNames : Path.AreNames names)
    (h : disk.locate follow (output.join ⟨names⟩) = .ok spot) : spot.place = root ++ names := by
  obtain ⟨other, left, slash, rooted', walked⟩ := root_of_locate ways areNames h
  cases rooted.symm.trans rooted'
  exact place_of_walk noLinks areNames.isName List.prefix_rfl walked

end Disk

end Scaffold
