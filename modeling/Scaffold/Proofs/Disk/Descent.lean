import Mathlib.Data.List.Induction
import Scaffold.Proofs.Disk.Opening

/-!
# Directories below a directory

A path that goes on by names behind a directory has all of them made, unless a file or a link is in
the place of one. The first name that is missing is looked for from the last one upwards, and then
the directories come from the first one downwards.
-/

namespace Scaffold

namespace Disk

variable {disk before after : Disk} {links left fuel : Nat} {follow slash : Bool}
  {base dir : Location} {name : String} {front names others behind segments : List String}
  {p q output : Path} {spot : Spot}

/-! ## Segments that are names -/

def AreDirectories (disk : Disk) (base : Location) (names : List String) : Prop :=
  ∀ front, front <+: names → front ≠ [] → disk.node? (base ++ front) = some .directory

theorem AreDirectories.sooner (h : AreDirectories disk base names) (inside : front <+: names) :
    AreDirectories disk base front := fun above within => h above (within.trans inside)

theorem areDirectories_nil : AreDirectories disk base [] := fun _ inside some =>
  absurd (List.prefix_nil.mp inside) some

theorem AreDirectories.mono (ways : Embeds disk after) (h : AreDirectories disk base names) :
    AreDirectories after base names := fun front inside some =>
  ways.directory _ (h front inside some)

theorem leads_of_directories (same : Path.bodyComponents behind = names.map .name)
    (solid : "" ∉ behind) (short : ∀ s ∈ names, s.utf8ByteSize ≤ nameLimit)
    (there : AreDirectories disk base names) :
    Leads disk links base behind links (base ++ names) := by
  -- On the segments, of which the dots stay where they are and the others are the names.
  induction behind generalizing base names with
  | nil =>
    obtain rfl : names = [] := List.map_eq_nil_iff.mp same.symm
    rw [List.append_nil]
    exact .arrived links base
  | cons s rest ih =>
    obtain ⟨notEmpty, solidRest⟩ := not_or.mp (mt List.mem_cons.mpr solid)
    by_cases here : s = "."
    · subst here
      rw [Path.bodyComponents_cons_idle rfl] at same
      exact .here (ih same solidRest short there)
    have notIdle : Path.isIdle s = false := by simp [Path.isIdle, Ne.symm notEmpty, here]
    rw [Path.bodyComponents_cons notIdle] at same
    obtain ⟨t, more, rfl, first, others⟩ := List.map_eq_cons_iff.mp same.symm
    obtain rfl := Path.eq_of_component_eq first.symm
    have notUp : s ≠ ".." := by
      rintro rfl
      cases first
    obtain ⟨shortFirst, shortRest⟩ := List.forall_mem_cons.mp short
    have whole : base ++ s :: more = base ++ [s] ++ more := List.append_cons base s more
    rw [whole]
    refine .entry ⟨here, notUp, shortFirst⟩ (there [s] ⟨more, rfl⟩ (List.cons_ne_nil s []))
      (ih others.symm solidRest shortRest fun front inside some => ?_)
    have found := there (s :: front) (List.cons_prefix_cons.mpr ⟨rfl, inside⟩)
      (List.cons_ne_nil s front)
    rwa [List.append_cons] at found

theorem part_of_names {next : String}
    (same : Path.bodyComponents behind = (front ++ next :: others).map .name) :
    ∃ sooner later, behind = sooner ++ next :: later ∧
      Path.bodyComponents sooner = front.map .name ∧
      Path.bodyComponents later = others.map .name ∧ next ≠ "." ∧ next ≠ ".." := by
  -- On the segments, not on the names: idle ones stand between them.
  induction behind generalizing front with
  | nil =>
    exact absurd (List.map_eq_nil_iff.mp same.symm)
      (List.append_ne_nil_of_right_ne_nil front (List.cons_ne_nil next others))
  | cons s rest ih =>
    by_cases idle : Path.isIdle s = true
    · rw [Path.bodyComponents_cons_idle idle] at same
      obtain ⟨sooner, later, rfl, before, behind, isName⟩ := ih same
      exact ⟨s :: sooner, later, rfl, (Path.bodyComponents_cons_idle idle _).trans before, behind,
        isName⟩
    · rw [Bool.not_eq_true] at idle
      rw [Path.bodyComponents_cons idle] at same
      cases front with
      | nil =>
        obtain ⟨first, later⟩ := List.cons.inj same
        obtain rfl := Path.eq_of_component_eq first
        refine ⟨[], rest, rfl, rfl, later, ?_, ?_⟩
        · rintro rfl
          cases idle
        · rintro rfl
          cases first
      | cons t front =>
        obtain ⟨first, others⟩ := List.cons.inj same
        obtain ⟨sooner, later, rfl, before, behind, isName⟩ := ih others
        refine ⟨s :: sooner, later, rfl, ?_, behind, isName⟩
        rw [Path.bodyComponents_cons idle, first, before, List.map_cons]

/-! ## Paths that go on by names -/

/-- A part of the path reaches the directory, and the rest of it goes on from there by the names. -/
def Below (disk : Disk) (p : Path) (base : Location) (names : List String) : Prop :=
  ∃ (q : Path) (behind : List String), q.isAbsolute = p.isAbsolute ∧
    solid p.segments = solid q.segments ++ behind ∧ Reaches disk q base ∧
    Path.bodyComponents behind = names.map .name

theorem Below.mono (ways : Embeds disk after) (h : Below disk p base names) :
    Below after p base names := by
  obtain ⟨q, behind, same, way, reaches, areNames⟩ := h
  exact ⟨q, behind, same, way, reaches.mono ways, areNames⟩

theorem Below.join (h : Below disk output base names) {tail : List String}
    (areNames : Path.AreNames tail) : Below disk (output.join ⟨tail⟩) base (names ++ tail) := by
  obtain ⟨q, behind, same, way, reaches, isNames⟩ := h
  refine ⟨q, behind ++ tail, same.trans (Path.isAbsolute_join output areNames.solid).symm, ?_,
    reaches, ?_⟩
  · rw [Path.solid_join output areNames.solid, way, List.append_assoc]
  · rw [Path.bodyComponents_append, isNames, Path.bodyComponents_names areNames, List.map_append]

theorem empty_not_mem_solid (segments : List String) : "" ∉ solid segments := by
  simp [solid]

theorem Below.reaches (h : Below disk p base names)
    (short : ∀ s ∈ names, s.utf8ByteSize ≤ nameLimit)
    (there : AreDirectories disk base names) :
    Reaches disk p (base ++ names) := by
  obtain ⟨q, behind, same, way, ⟨dir, segments, left, started, leads⟩, areNames⟩ := h
  have noEmpty : "" ∉ behind := fun mem =>
    empty_not_mem_solid p.segments (way ▸ List.mem_append_right _ mem)
  exact ⟨dir, segments ++ behind, left, start_append same way started,
    leads.append (leads_of_directories areNames noEmpty short there)⟩

theorem Below.components (h : Below disk p base names) :
    ∃ cs, Path.bodyComponents p.front.2 = cs ++ names.map .name := by
  obtain ⟨q, behind, -, way, -, areNames⟩ := h
  have solid : ∀ segments, Path.bodyComponents (solid segments) = Path.bodyComponents segments := by
    intro segments
    rw [Path.bodyComponents, Disk.solid, List.filter_filter]
    congr 2
    funext s
    by_cases empty : s = "" <;> simp [Path.isIdle, empty]
  refine ⟨Path.bodyComponents q.segments, ?_⟩
  rw [← Path.bodyComponents_segments, ← solid, way, Path.bodyComponents_append, solid, areNames]

theorem Below.fileName? (h : Below disk p base (front ++ [name])) : p.fileName? = some name := by
  obtain ⟨cs, parts⟩ := h.components
  rw [Path.fileName?_eq, Path.components_eq, parts, List.map_append, ← List.append_assoc,
    ← List.append_assoc]
  exact List.getLast?_concat ..

theorem Below.components_ne_nil (h : Below disk p base names) (some : names ≠ []) :
    p.components ≠ [] := by
  obtain ⟨cs, parts⟩ := h.components
  rw [Path.components_eq, parts]
  simp [some]

theorem Below.length_le (h : Below disk p base names) : names.length ≤ p.segments.length := by
  obtain ⟨cs, parts⟩ := h.components
  have length := congrArg List.length parts
  have kept : (Path.bodyComponents p.segments).length ≤ p.segments.length := by
    rw [Path.bodyComponents, List.length_map]
    exact List.length_filter_le ..
  rw [Path.bodyComponents_segments] at kept
  rw [List.length_append, List.length_map] at length
  omega

theorem Below.mem_segments (h : Below disk p base names) : ∀ s ∈ names, s ∈ p.segments := by
  intro s hs
  obtain ⟨cs, parts⟩ := h.components
  have mem : .name s ∈ Path.bodyComponents p.segments := by
    rw [Path.bodyComponents_segments, parts]
    exact List.mem_append_right cs (List.mem_map_of_mem hs)
  obtain ⟨t, kept, named⟩ := List.mem_map.mp mem
  obtain rfl := Path.eq_of_component_eq named
  exact (List.mem_filter.mp kept).1

theorem Below.arrives (h : Below disk p base (front ++ name :: others))
    (short : ∀ s ∈ front, s.utf8ByteSize ≤ nameLimit) (there : AreDirectories disk base front) :
    ∃ dir segments left later, disk.start p = .ok (dir, segments ++ name :: later) ∧
      Leads disk linkLimit dir segments left (base ++ front) ∧
      Path.bodyComponents later = others.map .name ∧ name ≠ "." ∧ name ≠ ".." := by
  obtain ⟨q, behind, same, way, ⟨dir, segments, left, started, leads⟩, areNames⟩ := h
  obtain ⟨sooner, later, rfl, before, isName⟩ := part_of_names areNames
  have noEmpty : "" ∉ sooner := fun mem => empty_not_mem_solid p.segments
    (way ▸ List.mem_append_right _ (List.mem_append_left _ mem))
  refine ⟨dir, segments ++ sooner, left, later, ?_,
    leads.append (leads_of_directories before noEmpty short there), isName⟩
  rw [List.append_assoc]
  exact start_append same way started

theorem Below.exists?_eq_false (h : Below disk p base (name :: others))
    (free : disk.node? (base ++ [name]) = none) : disk.exists? p = false := by
  rw [← Bool.not_eq_true]
  intro present
  obtain ⟨⟨loc, node⟩, found⟩ : ∃ there, disk.nodeAt? true p = .ok there := by
    unfold exists? at present
    cases found : disk.nodeAt? true p with
    | ok there => exact ⟨there, rfl⟩
    | error fault =>
      rw [found] at present
      cases present
  obtain ⟨-, dir, segments, started, walked⟩ := locate_eq_ok_iff.mp (locate_of_nodeAt? found)
  obtain ⟨_, front, left, later, started', leads, -, notHere, notUp⟩ :=
    Below.arrives (h : Below disk p base ([] ++ name :: others)) (by simp) areDirectories_nil
  cases started'.symm.trans started
  obtain ⟨slash, -, whole⟩ := walk_of_leads leads (name :: later) (.inr rfl)
  rw [whole, List.append_nil] at walked
  by_cases long : nameLimit < name.utf8ByteSize
  · cases (walk_long notHere notUp long).symm.trans walked
  · rw [walk_entry ⟨notHere, notUp, Nat.le_of_not_lt long⟩, free] at walked
    dsimp only at walked
    split at walked <;> cases walked

theorem Below.last (h : Below disk p base (front ++ [name])) (ends : p.EndsInName) :
    ∃ (q : Path) (sooner : List String), q.isAbsolute = p.isAbsolute ∧
      solid p.segments = solid q.segments ++ sooner ++ [name] ∧ Reaches disk q base ∧
      Path.bodyComponents sooner = front.map .name ∧ name ≠ "." ∧ name ≠ ".." := by
  have named := h.fileName?
  have last := ends name named
  obtain ⟨q, behind, same, way, reaches, areNames⟩ := h
  obtain ⟨sooner, later, rfl, before, none, isName⟩ := part_of_names areNames
  have idle : ∀ s ∈ later, Path.isIdle s = true := by
    simpa [Path.bodyComponents, List.filter_eq_nil_iff] using none
  obtain rfl : later = [] := by
    by_contra some
    rw [way, List.append_cons, ← List.append_assoc, List.getLast?_append_of_ne_nil _ some] at last
    cases (Path.isIdle_fileName named).1.symm.trans (idle name (List.mem_of_getLast? last))
  exact ⟨q, sooner, same, way.trans (List.append_assoc ..).symm, reaches, before, isName⟩

theorem Below.endsAt (h : Below disk p base (front ++ [name])) (ends : p.EndsInName)
    (short : ∀ s ∈ front ++ [name], s.utf8ByteSize ≤ nameLimit)
    (there : AreDirectories disk base front) : EndsAt disk p (base ++ (front ++ [name])) := by
  obtain ⟨q, sooner, same, way, ⟨dir, segments, left, started, leads⟩, before, notHere, notUp⟩ :=
    h.last ends
  have noEmpty : "" ∉ sooner := fun mem => empty_not_mem_solid p.segments
    (way ▸ List.mem_append_left _ (List.mem_append_right _ mem))
  have started' := start_append same (way.trans (List.append_assoc ..)) started
  rw [← List.append_assoc] at started'
  refine ⟨dir, segments ++ sooner, left, base ++ front, name, started', leads.append ?_,
    ⟨notHere, notUp, short name (List.mem_append_right front List.mem_cons_self)⟩,
    (List.append_assoc ..).symm⟩
  exact leads_of_directories before noEmpty (fun s hs => short s (List.mem_append_left _ hs)) there

theorem Below.parent (h : Below disk p base (front ++ [name])) (some : front ≠ [])
    (ends : p.EndsInName) (parent : p.parent? = .some q) : Below disk q base front := by
  obtain ⟨dots, areDots, above⟩ := Path.solid_parent parent h.fileName? ends
  obtain ⟨r, sooner, same, way, reaches, areNames, -⟩ := h.last ends
  have idle : ∀ d ∈ dots, Path.isIdle d = true := fun d hd => by
    rw [areDots d hd]
    rfl
  have parts := List.append_cancel_right (way.symm.trans above)
  rcases List.append_eq_append_iff.mp parts with ⟨more, before, rfl⟩ | ⟨more, -, rfl⟩
  · refine ⟨r, more, same.trans (Path.above_parent parent).absolute.symm, before, reaches, ?_⟩
    rwa [Path.bodyComponents_append, Path.bodyComponents_idle idle, List.append_nil] at areNames
  · -- Only dots are behind the directory, so there are no names.
    rw [Path.bodyComponents_idle fun d hd => idle d (List.mem_append_right _ hd)] at areNames
    exact absurd (List.map_eq_nil_iff.mp areNames.symm) some

/-! ## Names that can be made directories -/

/-- No file and no link is in the place of one of the names, and above a directory there are
directories. -/
structure IsOpen (disk : Disk) (base : Location) (names : List String) : Prop where
  node : ∀ front, front <+: names → front ≠ [] →
    disk.node? (base ++ front) = none ∨ disk.node? (base ++ front) = some .directory
  above : ∀ front name, front ++ [name] <+: names → front ≠ [] →
    disk.node? (base ++ (front ++ [name])) = some .directory →
    disk.node? (base ++ front) = some .directory

theorem IsOpen.sooner (h : IsOpen disk base names) (inside : front <+: names) :
    IsOpen disk base front where
  node above sooner := h.node above (sooner.trans inside)
  above more name sooner := h.above more name (sooner.trans inside)

theorem isOpen_of_clear (clear : disk.ClearFrom (base ++ [name])) (others : List String) :
    IsOpen disk base (name :: others) := by
  have free : ∀ front, front <+: name :: others → front ≠ [] →
      disk.node? (base ++ front) = none := by
    intro front inside some
    obtain ⟨s, more, rfl⟩ := List.exists_cons_of_ne_nil some
    obtain ⟨rfl, -⟩ := List.cons_prefix_cons.mp inside
    exact clear _ ⟨more, (List.append_cons base s more).symm⟩
  refine ⟨fun front inside some => .inl (free front inside some), fun front s inside _ there => ?_⟩
  have none := free (front ++ [s]) inside (List.append_ne_nil_of_right_ne_nil front (by simp))
  cases none.symm.trans there

theorem IsOpen.directories (h : IsOpen disk base names) (inside : front <+: names)
    (there : front ≠ [] → disk.node? (base ++ front) = .some .directory) :
    AreDirectories disk base front := by
  induction front using List.reverseRecOn with
  | nil => exact areDirectories_nil
  | append_singleton front name ih =>
    have last := there (List.append_ne_nil_of_right_ne_nil front (List.cons_ne_nil name []))
    intro above sooner some
    rcases List.prefix_concat_iff.mp sooner with rfl | sooner
    · exact last
    · exact ih ((List.prefix_append front [name]).trans inside)
        (fun some => h.above front name inside some last) above sooner some

/-- Above a name that is missing there is a first one. -/
theorem IsOpen.first_missing (h : IsOpen disk base names) (some : names ≠ [])
    (free : disk.node? (base ++ names) = none) :
    ∃ front name others, names = front ++ name :: others ∧
      disk.node? (base ++ (front ++ [name])) = none ∧ AreDirectories disk base front := by
  induction names using List.reverseRecOn with
  | nil => exact absurd rfl some
  | append_singleton front name ih =>
    have sooner := List.prefix_append front [name]
    by_cases there : front ≠ [] → disk.node? (base ++ front) = .some .directory
    · exact ⟨front, name, [], rfl, free, h.directories sooner there⟩
    · obtain ⟨some, other⟩ := Classical.not_imp.mp there
      have missing := (h.node front sooner some).resolve_right other
      obtain ⟨front', next, others, rfl, first⟩ := ih (h.sooner sooner) some missing
      exact ⟨front', next, others ++ [name], by simp, first⟩

theorem Below.missing (h : Below disk p base (front ++ [name])) (accepted : Accepts p)
    (short : ∀ s ∈ front, s.utf8ByteSize ≤ nameLimit) (isOpen : IsOpen disk base front)
    (some : front ≠ []) (free : disk.node? (base ++ front) = none) :
    disk.makeDirectory p = ⟨.error .notFound, disk⟩ := by
  obtain ⟨above, next, others, rfl, missing, there⟩ := isOpen.first_missing some free
  rw [List.append_assoc, List.cons_append] at h
  obtain ⟨dir, segments, left, later, started, leads, behind, notHere, notUp⟩ :=
    h.arrives (fun s hs => short s (List.mem_append_left _ hs)) there
  have more : later ≠ [] := by
    rintro rfl
    exact absurd (List.map_eq_nil_iff.mp behind.symm)
      (List.append_ne_nil_of_right_ne_nil others (List.cons_ne_nil name []))
  have isEntry : IsEntry next := ⟨notHere, notUp, short next (by simp)⟩
  rw [← List.append_assoc] at missing
  unfold makeDirectory
  rw [locate_missing (accepts_trimSlashes accepted) ((start_trimSlashes p).trans started) more
    leads isEntry missing]

/-! ## Making them -/

theorem accepts_parent (parent : p.parent? = some q) (solid : q.components ≠ [])
    (accepted : Accepts p) : Accepts q := by
  have some := Path.isEmpty_of_components solid
  rcases Path.parent?_cases parent with ⟨-, -, rfl⟩ | ⟨body, c, idle, parts, -, -, rfl⟩
  · cases some
  · exact accepts_of_text (Path.text_cut ⟨c :: idle, parts.symm⟩) accepted some

/-- All that has come are directories of the names, and now all of these are there. -/
structure Fills (base : Location) (names : List String) (disk after : Disk) : Prop where
  extends_ : Extends (Along base names) disk after
  there : AreDirectories after base names

theorem fills_refl (there : AreDirectories disk base names) : Fills base names disk disk :=
  ⟨.refl disk, there⟩

theorem IsOpen.mono (h : IsOpen disk base names) (fills : Fills base others disk after) :
    IsOpen after base names where
  node front inside some := by
    rcases fills.extends_.node (base ++ front) with same | ⟨-, made, -⟩
    · rw [same]
      exact h.node front inside some
    · exact .inr made
  above front name inside some there := by
    rcases fills.extends_.node (base ++ (front ++ [name])) with
      same | ⟨-, -, more, within, -, place⟩
    · exact fills.extends_.grows.node?_of_some List.not_mem_nil
        (h.above front name inside some (same.symm.trans there))
    · obtain rfl := List.append_cancel_left place
      exact fills.there front ((List.prefix_append front [name]).trans within) some

theorem Below.makeDirectory (h : Below disk p base (front ++ [name])) (ends : p.EndsInName)
    (accepted : Accepts p) (short : ∀ s ∈ front ++ [name], s.utf8ByteSize ≤ nameLimit)
    (fills : Fills base front disk before)
    (free : disk.node? (base ++ (front ++ [name])) = none) :
    ∃ after, before.makeDirectory p = ⟨.ok (), after⟩ ∧
      Fills base (front ++ [name]) disk after := by
  have endsAt := (h.mono fills.extends_.grows.keepsWays.embeds).endsAt ends short fills.there
  have free' : before.node? (base ++ (front ++ [name])) = none := by
    rw [fills.extends_.node?_eq, free]
    rintro ⟨more, within, -, place⟩
    obtain rfl := List.append_cancel_left place
    have length := within.length_le
    rw [List.length_append, List.length_singleton] at length
    omega
  have along : Along base (front ++ [name]) (base ++ (front ++ [name])) :=
    ⟨_, List.prefix_rfl, List.append_ne_nil_of_right_ne_nil front (by simp), rfl⟩
  refine ⟨_, makeDirectory_of_free endsAt accepted free', ?_, fun above within some => ?_⟩
  · exact (fills.extends_.imp fun _ => Along.mono (List.prefix_append front [name])).trans
      (extends_set free' along)
  · rw [node?_set endsAt.below]
    rcases List.prefix_concat_iff.mp within with rfl | within
    · rw [if_pos rfl]
    · split
      · rfl
      · exact fills.there above within some

/-- Where nothing is in the way, the directories of a path are made down to the last one. -/
theorem Below.makeDirectories (h : Below disk p base names) (some : names ≠ [])
    (ends : p.EndsInName) (accepted : Accepts p)
    (short : ∀ s ∈ names, s.utf8ByteSize ≤ nameLimit) (isOpen : IsOpen disk base names)
    (enough : names.length ≤ fuel) :
    ∃ after, disk.makeDirectories fuel p = ⟨.ok (), after⟩ ∧ Fills base names disk after := by
  induction names using List.reverseRecOn generalizing p fuel with
  | nil => exact absurd rfl some
  | append_singleton front name ih =>
    have sooner := List.prefix_append front [name]
    have components := h.components_ne_nil some
    rw [List.length_append, List.length_singleton] at enough
    obtain ⟨fuel, rfl⟩ := Nat.exists_eq_add_of_le' (Nat.le_of_add_left_le enough)
    rcases isOpen.node _ List.prefix_rfl some with free | there
    · by_cases up : front ≠ [] → disk.node? (base ++ front) = .some .directory
      · obtain ⟨after, made, fills⟩ := h.makeDirectory ends accepted short
          (fills_refl (isOpen.directories sooner up)) free
        exact ⟨after, makeDirectories_of_made components made, fills⟩
      · -- The directories above are made first.
        obtain ⟨some, other⟩ := Classical.not_imp.mp up
        have missing := (isOpen.node front sooner some).resolve_right other
        have shortFront := fun s hs => short s (List.mem_append_left [name] hs)
        obtain ⟨q, parent⟩ := Path.exists_parent h.fileName?
        have above := h.parent some ends parent
        obtain ⟨between, made, fills⟩ := ih above some (Path.endsInName_parent parent)
          (accepts_parent parent (above.components_ne_nil some) accepted) shortFront
          (isOpen.sooner sooner) (Nat.le_of_succ_le_succ enough)
        obtain ⟨after, last, fills⟩ := h.makeDirectory ends accepted short fills free
        refine ⟨after, ?_, fills⟩
        rw [makeDirectories_of_missing components
          (h.missing accepted shortFront (isOpen.sooner sooner) some missing) parent, made,
          resume_ok, last]
        rfl
    · have directories := isOpen.directories List.prefix_rfl fun _ => there
      have reaches := h.reaches short directories
      have isDirectory : disk.isDirectory p = true :=
        isDirectory_iff.mpr ⟨_, nodeAt?_eq_directory_iff.mpr ⟨accepted, reaches⟩⟩
      exact ⟨disk, makeDirectories_of_isDirectory isDirectory, fills_refl directories⟩

/-! ## Names that are too long -/

/-- Leaving a lost working directory takes no names. -/
theorem eq_of_climb {lost : Nat} {target : Location}
    (h : climb lost dir segments = .ok (target, names)) :
    ∀ s ∈ segments, s = "." ∨ s = ".." ∨ s ∈ names := by
  fun_induction climb lost dir segments with
  | case1 =>
    obtain ⟨-, rfl⟩ := Prod.mk.inj (Except.ok.inj h)
    exact fun s hs => .inr (.inr hs)
  | case2 lost dir rest ih => exact List.forall_mem_cons.mpr ⟨.inr (.inl rfl), ih h⟩
  | case3 lost dir rest ih => exact List.forall_mem_cons.mpr ⟨.inl rfl, ih h⟩
  | case4 => cases h

theorem short_of_walk (h : disk.walk links follow slash dir segments = .ok spot) :
    ∀ s ∈ segments, s.utf8ByteSize ≤ nameLimit := by
  intro s hs
  obtain ⟨front, behind, rfl⟩ := List.append_of_mem hs
  obtain ⟨left, target, slash', -, -, walked⟩ := leads_of_walk h (.inl (List.cons_ne_nil s behind))
  by_contra long
  have notHere : s ≠ "." := by
    rintro rfl
    exact long (by decide)
  have notUp : s ≠ ".." := by
    rintro rfl
    exact long (by decide)
  cases (walk_long notHere notUp (Nat.lt_of_not_le long)).symm.trans walked

/-- A path that leads somewhere has no name that is too long. -/
theorem short_of_locate (h : disk.locate follow p = .ok spot) :
    ∀ s ∈ solid p.segments, s.utf8ByteSize ≤ nameLimit := by
  obtain ⟨-, dir, segments, started, walked⟩ := locate_eq_ok_iff.mp h
  have short := short_of_walk walked
  unfold start at started
  split at started
  · cases started
    exact short
  · intro s hs
    rcases eq_of_climb started s hs with rfl | rfl | mem
    · decide
    · decide
    · exact short s mem

end Disk

end Scaffold
