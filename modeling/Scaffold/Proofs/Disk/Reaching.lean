import Scaffold.Proofs.Disk.Growth
import Scaffold.Proofs.Path.Above

/-!
# Where a path ends

The segments of a path lead to a directory, or those before its last name do. Then the location of
that name is where the path ends, and what is there decides what the path leads to.
-/

namespace Scaffold

namespace Disk

variable {disk after : Disk} {links left left' : Nat} {follow : Bool}
  {dir target other loc : Location} {name : String} {front tail segments : List String}
  {p q : Path} {spot : Spot} {node : Node}

/-! ## Ways one behind the other -/

theorem Leads.append (first : Leads disk links dir front left target)
    (h : Leads disk left target tail left' other) :
    Leads disk links dir (front ++ tail) left' other := by
  induction first with
  | arrived links dir => exact h
  | here _ ih => exact .here (ih h)
  | up _ ih => exact .up (ih h)
  | entry isEntry node _ ih => exact .entry isEntry node (ih h)
  | link isEntry node _ ih =>
    rw [List.append_assoc] at ih
    exact .link isEntry node (ih h)

theorem Leads.split (h : Leads disk links dir (front ++ tail) left other) :
    ∃ left target left', Leads disk links dir front left target ∧
      Leads disk left target tail left' other := by
  have walked : disk.walk links true false dir (front ++ tail) = .ok (.found other .directory) :=
    leads_iff_walk.mp ⟨left, h⟩
  obtain ⟨left, target, slash', leads, -, behind⟩ := leads_of_walk walked (.inr ⟨rfl, other, rfl⟩)
  obtain ⟨left', others⟩ := leads_iff_walk.mpr behind
  exact ⟨left, target, left', leads, others⟩

theorem Leads.unique (first : Leads disk links dir segments left target)
    (second : Leads disk links dir segments left' other) : target = other := by
  have one : disk.walk links true false dir segments = .ok (.found target .directory) :=
    leads_iff_walk.mp ⟨left, first⟩
  cases one.symm.trans (leads_iff_walk.mp ⟨left', second⟩)
  rfl

theorem Leads.dots {dots : List String} (h : ∀ d ∈ dots, d = ".") :
    Leads disk links dir dots links dir := by
  induction dots with
  | nil => exact .arrived links dir
  | cons d dots ih =>
    obtain ⟨rfl, others⟩ := List.forall_mem_cons.mp h
    exact .here (ih others)

theorem Leads.directory {root : Location} {names : List String}
    (areNames : ∀ s ∈ names, Path.IsName s) (below : root <+: dir)
    (noLinks : disk.NoLinks root) (h : Leads disk links dir names left target) :
    ∀ front, front <+: names → front ≠ [] → disk.node? (dir ++ front) = some .directory := by
  induction names generalizing dir links with
  | nil =>
    intro front inside some
    exact absurd (List.prefix_nil.mp inside) some
  | cons name rest ih =>
    obtain ⟨isName, others⟩ := List.forall_mem_cons.mp areNames
    have deeper : root <+: dir ++ [name] := below.trans (List.prefix_append dir [name])
    cases h with
    | here => exact absurd rfl isName.notHere
    | up => exact absurd rfl isName.notUp
    | link _ node _ => exact absurd node (noLinks _ _ deeper)
    | entry _ node leads =>
      intro front inside some
      obtain ⟨s, more, rfl⟩ := List.exists_cons_of_ne_nil some
      obtain ⟨rfl, behind⟩ := List.cons_prefix_cons.mp inside
      cases more with
      | nil => exact node
      | cons t more =>
        have found := ih others deeper leads (t :: more) behind (List.cons_ne_nil t more)
        rwa [List.append_assoc] at found

theorem Leads.taken {rest : List String} (isEntry : IsEntry name)
    (h : Leads disk links dir (name :: rest) left target) : disk.node? (dir ++ [name]) ≠ none := by
  cases h with
  | here => exact absurd rfl isEntry.notHere
  | up => exact absurd rfl isEntry.notUp
  | entry _ node _ =>
    rw [node]
    exact Option.some_ne_none _
  | link _ node _ =>
    rw [node]
    exact Option.some_ne_none _

/-! ## Paths and parts of them -/

theorem accepts_of_text (h : ∃ r, p.text = q.text ++ r) (accepted : Accepts p)
    (some : q.isEmpty = false) : Accepts q := by
  obtain ⟨r, parts⟩ := h
  obtain ⟨noZero, -, short⟩ := accepted
  rw [parts] at noZero short
  refine ⟨fun zero => noZero ?_, some, ?_⟩
  · rw [String.toList_append]
    exact List.mem_append_left _ zero
  · rw [String.utf8ByteSize_append] at short
    omega

theorem accepts_of_join {tail : List String} (h : Path.AreSolid tail)
    (accepted : Accepts (p.join ⟨tail⟩)) (some : p.isEmpty = false) : Accepts p :=
  accepts_of_text (Path.text_join_append p h) accepted some

theorem accepts_trimSlashes (accepted : Accepts p) : Accepts ⟨Path.trimSlashes p.segments⟩ :=
  accepts_of_text (Path.text_trimSlashes p) accepted (Path.isEmpty_trimSlashes accepted.notEmpty)

theorem start_eq_of_solid (same : q.isAbsolute = p.isAbsolute)
    (way : solid q.segments = solid p.segments) : disk.start q = disk.start p := by
  rw [start, start, same, way]

theorem start_trimSlashes (p : Path) : disk.start ⟨Path.trimSlashes p.segments⟩ = disk.start p :=
  start_eq_of_solid (Path.isAbsolute_trimSlashes p) (Path.solid_trimSlashes p.segments)

theorem start_append (same : q.isAbsolute = p.isAbsolute)
    (way : solid p.segments = solid q.segments ++ tail)
    (h : disk.start q = .ok (dir, segments)) : disk.start p = .ok (dir, segments ++ tail) := by
  unfold start at h ⊢
  rw [← same, way]
  split at h
  · rename_i absolute
    cases h
    exact if_pos absolute
  · rename_i relative
    exact (if_neg relative).trans (climb_append h tail)

theorem start_of_embeds (ways : Embeds disk after) (h : disk.start p = .ok (dir, segments)) :
    ∃ dir' used, after.start p = .ok (dir', used ++ segments) ∧
      ∀ other links, Leads other links dir' used links dir := by
  unfold start at h ⊢
  split at h
  · rename_i absolute
    cases h
    exact ⟨[], [], if_pos absolute, fun other links => .arrived links []⟩
  · rename_i relative
    rw [if_neg relative, ways.workingDirectory]
    exact climb_of_le ways.lost h

/-- Without what is at its end, a path starts in the same directory, unless the end is what leaves
a lost working directory. -/
theorem start_of_append (way : solid p.segments = front ++ tail) (noUps : ".." ∉ tail)
    (h : disk.start p = .ok (dir, segments)) : ∃ rest, segments = rest ++ tail ∧
      ∀ q : Path, q.isAbsolute = p.isAbsolute → solid q.segments = front →
        disk.start q = .ok (dir, rest) := by
  unfold start at h ⊢
  rw [way] at h
  split at h
  · rename_i absolute
    cases h
    refine ⟨front, rfl, fun q same before => ?_⟩
    rw [same, before]
    exact if_pos absolute
  · rename_i relative
    obtain ⟨rest, climbed, rfl⟩ := climb_of_append noUps h
    refine ⟨rest, rfl, fun q same before => ?_⟩
    rw [same, before]
    exact (if_neg relative).trans climbed

/-! ## Directories that are reached -/

/-- All segments of the path lead to the directory, links at the end too. -/
def Reaches (disk : Disk) (p : Path) (target : Location) : Prop :=
  ∃ dir segments left, disk.start p = .ok (dir, segments) ∧
    Leads disk linkLimit dir segments left target

theorem Reaches.mono (ways : Embeds disk after) (h : Reaches disk p target) :
    Reaches after p target := by
  obtain ⟨dir, segments, left, started, leads⟩ := h
  obtain ⟨dir', used, started', before⟩ := start_of_embeds ways started
  exact ⟨dir', used ++ segments, left, started', (before after linkLimit).append (leads.mono ways)⟩

theorem Reaches.unique (first : Reaches disk p target) (second : Reaches disk p other) :
    target = other := by
  obtain ⟨dir, segments, left, started, leads⟩ := first
  obtain ⟨_, _, left', started', leads'⟩ := second
  cases started.symm.trans started'
  exact leads.unique leads'

theorem nodeAt?_eq_directory_iff :
    disk.nodeAt? true p = .ok (target, .directory) ↔ Accepts p ∧ Reaches disk p target := by
  constructor
  · intro h
    obtain ⟨accepted, dir, segments, started, walked⟩ := locate_eq_ok_iff.mp (locate_of_nodeAt? h)
    obtain ⟨left, leads⟩ := leads_iff_walk.mpr walked
    exact ⟨accepted, dir, segments, left, started, leads⟩
  · rintro ⟨accepted, dir, segments, left, started, leads⟩
    have located := locate_eq_ok_iff.mpr
      ⟨accepted, dir, segments, started, leads_iff_walk.mp ⟨left, leads⟩⟩
    rw [nodeAt?, located]

theorem isDirectory_iff :
    disk.isDirectory p = true ↔ ∃ target, disk.nodeAt? true p = .ok (target, .directory) := by
  unfold isDirectory
  split
  · rename_i target found
    exact ⟨fun _ => ⟨target, found⟩, fun _ => rfl⟩
  · rename_i other
    simp only [Bool.false_eq_true, false_iff]
    rintro ⟨target, found⟩
    exact other target found

theorem accepts_of_exists (present : disk.exists? p = true) : Accepts p := by
  unfold exists? at present
  cases found : disk.nodeAt? true p with
  | ok there => exact (locate_eq_ok_iff.mp (locate_of_nodeAt? found)).1
  | error fault =>
    rw [found] at present
    cases present

theorem Reaches.dots (same : q.isAbsolute = p.isAbsolute) {dots : List String}
    (h : ∀ d ∈ dots, d = ".") (way : solid p.segments = solid q.segments ++ dots) :
    Reaches disk p target ↔ Reaches disk q target := by
  constructor
  · rintro ⟨dir, segments, left, started, leads⟩
    have noUps : ".." ∉ dots := fun up => absurd (h ".." up) (by decide)
    obtain ⟨front, rfl, before⟩ := start_of_append way noUps started
    obtain ⟨left, x, left', leads, behind⟩ := leads.split
    obtain rfl := behind.unique (.dots h)
    exact ⟨dir, front, left, before q same rfl, leads⟩
  · rintro ⟨dir, segments, left, started, leads⟩
    exact ⟨dir, segments ++ dots, left, start_append same way started, leads.append (.dots h)⟩

theorem reaches_home_iff : Reaches disk p.home target ↔ Reaches disk p target := by
  obtain ⟨dots, areDots, way⟩ := p.solid_eq_home
  exact (Reaches.dots (Path.above_home p).absolute areDots way).symm

/-- A path with a dot joined to it reaches what the path reaches, also if the path is empty. -/
theorem rooted_iff : disk.nodeAt? true (p.joinName ".") = .ok (target, .directory) ↔
    Accepts (p.join ⟨["."]⟩) ∧ Reaches disk p target := by
  rw [Path.joinName, show Path.ofString "." = ⟨["."]⟩ from rfl, nodeAt?_eq_directory_iff,
    Reaches.dots (Path.isAbsolute_join p Path.areSolid_here).symm (by simp)
      (Path.solid_join p Path.areSolid_here)]

/-! ## Names that a path ends in -/

/-- The location is that of the last name of the path, in the directory that is reached before. -/
def EndsAt (disk : Disk) (p : Path) (loc : Location) : Prop :=
  ∃ dir front left directory name, disk.start p = .ok (dir, front ++ [name]) ∧
    Leads disk linkLimit dir front left directory ∧ IsEntry name ∧ loc = directory ++ [name]

theorem EndsAt.mono (ways : Embeds disk after) (h : EndsAt disk p loc) : EndsAt after p loc := by
  obtain ⟨dir, front, left, directory, name, started, leads, isEntry, rfl⟩ := h
  obtain ⟨dir', used, started', before⟩ := start_of_embeds ways started
  rw [← List.append_assoc] at started'
  exact ⟨dir', used ++ front, left, directory, name, started',
    (before after linkLimit).append (leads.mono ways), isEntry, rfl⟩

theorem EndsAt.unique (first : EndsAt disk p loc) (second : EndsAt disk p other) :
    loc = other := by
  obtain ⟨dir, front, left, directory, name, started, leads, -, rfl⟩ := first
  obtain ⟨_, front', left', directory', name', started', leads', -, rfl⟩ := second
  obtain ⟨rfl, same⟩ := Prod.mk.inj (Except.ok.inj (started.symm.trans started'))
  obtain ⟨rfl, last⟩ := List.append_inj' same rfl
  rw [leads.unique leads', last]

theorem EndsAt.below (h : EndsAt disk p loc) : loc ≠ [] := by
  obtain ⟨-, -, -, directory, name, -, -, -, rfl⟩ := h
  exact List.append_ne_nil_of_right_ne_nil directory (List.cons_ne_nil name [])

theorem EndsAt.congr (same : q.isAbsolute = p.isAbsolute)
    (way : solid q.segments = solid p.segments) (h : EndsAt disk p loc) : EndsAt disk q loc := by
  unfold EndsAt
  rw [start_eq_of_solid same way]
  exact h

theorem EndsAt.reaches (h : EndsAt disk p loc) (node : disk.node? loc = some .directory) :
    Reaches disk p loc := by
  obtain ⟨dir, front, left, directory, name, started, leads, isEntry, rfl⟩ := h
  exact ⟨dir, front ++ [name], left, started, leads.append (.entry isEntry node (.arrived ..))⟩

theorem Reaches.endsAt (named : p.fileName? = some name) (ends : p.EndsInName)
    (h : Reaches disk p target) : ∃ loc node, EndsAt disk p loc ∧ disk.node? loc = some node := by
  obtain ⟨dir, segments, left, started, leads⟩ := h
  obtain ⟨front, way⟩ := List.getLast?_eq_some_iff.mp (ends name named)
  have notUp : name ≠ ".." := Path.notUp_of_fileName? named
  have notHere : name ≠ "." := Path.notHere_of_fileName? named
  have noUps : ".." ∉ [name] := fun up => notUp (List.mem_singleton.mp up).symm
  obtain ⟨rest, rfl, -⟩ := start_of_append way noUps started
  obtain ⟨left', directory, left'', before, last⟩ := leads.split
  cases last with
  | here => exact absurd rfl notHere
  | up => exact absurd rfl notUp
  | entry isEntry node _ =>
    exact ⟨_, _, ⟨dir, rest, left', directory, name, started, before, isEntry, rfl⟩, node⟩
  | link isEntry node _ =>
    exact ⟨_, _, ⟨dir, rest, _, directory, name, started, before, isEntry, rfl⟩, node⟩

theorem EndsAt.locate (h : EndsAt disk p loc) (accepted : Accepts p) (follow : Bool) :
    ∃ left directory name, IsEntry name ∧ loc = directory ++ [name] ∧
      disk.locate follow p = disk.walk left follow p.endsInSlash directory [name] := by
  obtain ⟨dir, front, left, directory, name, started, leads, isEntry, rfl⟩ := h
  obtain ⟨slash', same, walked⟩ : ∃ slash', ([name] ≠ [] → slash' = p.endsInSlash) ∧
      disk.walk linkLimit follow p.endsInSlash dir (front ++ [name]) =
        disk.walk left follow slash' directory [name] :=
    walk_of_leads leads [name] (.inl (List.cons_ne_nil name []))
  rw [same (List.cons_ne_nil name [])] at walked
  exact ⟨left, directory, name, isEntry, rfl, (locate_of_start accepted started).trans walked⟩

theorem EndsAt.vacant (h : EndsAt disk p loc) (accepted : Accepts p) (follow : Bool)
    (free : disk.node? loc = none) : ∃ directory name, loc = directory ++ [name] ∧
      disk.locate follow p = .ok (.vacant directory name p.endsInSlash) := by
  obtain ⟨left, directory, name, isEntry, rfl, located⟩ := h.locate accepted follow
  rw [walk_entry isEntry, free] at located
  exact ⟨directory, name, rfl, located⟩

theorem EndsAt.directory (h : EndsAt disk p loc) (accepted : Accepts p) (follow : Bool)
    (node : disk.node? loc = some .directory) :
    disk.nodeAt? follow p = .ok (loc, .directory) := by
  obtain ⟨left, directory, name, isEntry, rfl, located⟩ := h.locate accepted follow
  rw [walk_entry isEntry, node, walk_nil] at located
  rw [nodeAt?, located]

/-- Without a slash and without following a link, a path that comes out somewhere does so where it
ends. -/
theorem endsAt_of_locate (h : disk.locate false p = .ok spot) (noSlash : p.endsInSlash = false)
    (way : solid p.segments = front ++ [name]) (notHere : name ≠ ".") (notUp : name ≠ "..") :
    EndsAt disk p spot.place ∧ disk.node? spot.place = spot.node? := by
  obtain ⟨accepted, dir, segments, started, walked⟩ := locate_eq_ok_iff.mp h
  have noUps : ".." ∉ [name] := fun up => notUp (List.mem_singleton.mp up).symm
  obtain ⟨rest, rfl, -⟩ := start_of_append way noUps started
  rw [noSlash] at walked
  obtain ⟨left, directory, slash', leads, same, behind⟩ :=
    leads_of_walk walked (.inl (List.cons_ne_nil name []))
  rw [same (List.cons_ne_nil name [])] at behind
  by_cases long : nameLimit < name.utf8ByteSize
  · cases (walk_long notHere notUp long).symm.trans behind
  have isEntry : IsEntry name := ⟨notHere, notUp, Nat.le_of_not_lt long⟩
  have ends : EndsAt disk p (directory ++ [name]) :=
    ⟨dir, rest, left, directory, name, started, leads, isEntry, rfl⟩
  rw [walk_entry isEntry] at behind
  -- The last name is looked up once, and with neither a slash nor `follow` nothing comes after.
  cases node : disk.node? (directory ++ [name]) with
  | none =>
    rw [node] at behind
    cases behind
    exact ⟨ends, node⟩
  | some found =>
    rw [node] at behind
    cases found with
    | file bytes =>
      cases behind
      exact ⟨ends, node⟩
    | directory =>
      rw [walk_nil] at behind
      cases behind
      exact ⟨ends, node⟩
    | link path =>
      cases behind
      exact ⟨ends, node⟩

end Disk

end Scaffold
