import Mathlib.Data.List.Induction
import Scaffold.Proofs.Disk.Making

/-!
# Directories where there were none

Directories are made from the first one that is missing down to the end of a path. Where nothing
is at a place for a directory there is nothing below it either, so all of them are new, one below
the other, and the last one is empty.
-/

namespace Scaffold

namespace Disk

variable {disk between after : Disk} {links fuel : Nat} {follow slash : Bool}
  {dir loc target : Location} {name : String} {segments names : List String} {p q output : Path}
  {P : Location → Prop}

def ClearFrom (disk : Disk) (loc : Location) : Prop := ∀ x, loc <+: x → disk.node? x = none

theorem ClearFrom.here (h : ClearFrom disk loc) : disk.node? loc = none := h loc List.prefix_rfl

theorem ClearFrom.below_set (h : ClearFrom disk loc) (name : String) :
    ClearFrom (disk.set loc .directory) (loc ++ [name]) := by
  have below : loc ≠ [] := by
    rintro rfl
    cases h.here
  intro x inside
  have differs : x ≠ loc := by
    rintro rfl
    have length := inside.length_le
    rw [List.length_append, List.length_singleton] at length
    omega
  rw [node?_set below, if_neg differs]
  exact h x ((List.prefix_append loc [name]).trans inside)

/-! ## Paths without names -/

theorem mem_of_climb {lost : Nat} (h : climb lost dir segments = .ok (target, names)) :
    ∀ s ∈ names, s ∈ segments := by
  fun_induction climb lost dir segments with
  | case1 =>
    obtain ⟨-, rfl⟩ := Prod.mk.inj (Except.ok.inj h)
    exact fun s hs => hs
  | case2 lost dir rest ih => exact fun s hs => List.mem_cons_of_mem _ (ih h s hs)
  | case3 lost dir rest ih => exact fun s hs => List.mem_cons_of_mem _ (ih h s hs)
  | case4 => cases h

theorem mem_of_start (h : disk.start p = .ok (dir, segments)) :
    ∀ s ∈ segments, s ∈ solid p.segments := by
  unfold start at h
  split at h
  · cases h
    exact fun s hs => hs
  · exact mem_of_climb h

theorem walk_dots (h : ∀ s ∈ segments, s = "." ∨ s = "..") :
    ∃ loc, disk.walk links follow slash dir segments = .ok (.found loc .directory) := by
  induction segments generalizing dir with
  | nil => exact ⟨dir, walk_nil⟩
  | cons s rest ih =>
    obtain ⟨first, others⟩ := List.forall_mem_cons.mp h
    rcases first with rfl | rfl
    · rw [walk_here]
      exact ih others
    · rw [walk_up]
      exact ih others

theorem makeDirectories_of_no_names (noNames : ∀ s, .name s ∉ p.components)
    (h : disk.makeDirectories fuel p = ⟨.ok (), after⟩) : after = disk := by
  -- Dots lead somewhere that is there already, and nothing is made in such a place.
  have taken : ∀ p : Path, (∀ s, .name s ∉ p.components) → ∀ disk after : Disk,
      disk.makeDirectory p ≠ ⟨.ok (), after⟩ := by
    intro p noNames disk after made
    rcases disk.makeDirectory_cases p with ⟨fault, failed⟩ | ⟨_, _, _, located, _⟩
    · cases failed.symm.trans made
    · obtain ⟨-, dir, segments, started, walked⟩ := locate_eq_ok_iff.mp located
      have dots : ∀ s ∈ segments, s = "." ∨ s = ".." := by
        intro s hs
        have mem := mem_of_start started s hs
        rw [Path.solid_trimSlashes] at mem
        exact Path.solid_of_no_names noNames s mem
      obtain ⟨loc, found⟩ := walk_dots dots
      cases found.symm.trans walked
  induction fuel generalizing p after with
  | zero => cases h
  | succ fuel ih =>
    cases made_of_makeDirectories h with
    | none _ same => exact same
    | alone made => exact absurd made (taken p noNames disk after)
    | there _ same => exact same
    | above _ parent made settled =>
      obtain ⟨c, components⟩ := Path.components_parent parent
      have noNames' : ∀ s, .name s ∉ (_ : Path).components := fun s mem =>
        noNames s (components ▸ List.mem_append_left [c] mem)
      obtain rfl := ih noNames' made
      rcases settle_ok settled with ok | ⟨_, failed, _⟩
      · exact absurd ok (taken p noNames _ after)
      · exact eq_of_makeDirectory_error failed

/-! ## One directory at the end of a path -/

theorem endsAt_of_makeDirectory (named : p.fileName? = some name) (ends : p.EndsInName)
    (h : disk.makeDirectory p = ⟨.ok (), after⟩) :
    ∃ loc, EndsAt disk p loc ∧ disk.node? loc = none ∧ after = disk.set loc .directory := by
  rcases disk.makeDirectory_cases p with ⟨fault, failed⟩ | ⟨directory, s, slash, located, made⟩
  · cases failed.symm.trans h
  · cases made.symm.trans h
    obtain ⟨front, way⟩ := List.getLast?_eq_some_iff.mp (ends name named)
    have some : solid p.segments ≠ [] := by
      rw [way]
      exact List.append_ne_nil_of_right_ne_nil front (List.cons_ne_nil name [])
    obtain ⟨endsAt, free⟩ := endsAt_of_locate located (Path.endsInSlash_trimSlashes some)
      ((Path.solid_trimSlashes p.segments).trans way) (Path.notHere_of_fileName? named)
      (Path.notUp_of_fileName? named)
    exact ⟨directory ++ [s], endsAt.congr (Path.isAbsolute_trimSlashes p).symm
      (Path.solid_trimSlashes p.segments).symm, free, rfl⟩

theorem EndsAt.eq_of_parent (parent : p.parent? = some q) (named : p.fileName? = some name)
    (ends : p.EndsInName) (reaches : Reaches disk q target) (h : EndsAt disk p loc) :
    loc = target ++ [name] := by
  obtain ⟨dots, areDots, way⟩ := Path.solid_parent parent named ends
  obtain ⟨dir, segments, left, started, leads⟩ := reaches
  obtain ⟨_, front, left', directory, s, started', leads', isEntry, rfl⟩ := h
  rw [List.append_assoc] at way
  have whole := start_append (Path.above_parent parent).absolute way started
  obtain ⟨rfl, same⟩ := Prod.mk.inj (Except.ok.inj (whole.symm.trans started'))
  rw [← List.append_assoc] at same
  obtain ⟨rfl, last⟩ := List.append_inj' same rfl
  obtain rfl := (leads.append (.dots areDots)).unique leads'
  rw [last]

theorem EndsAt.solid_ne_nil (h : EndsAt disk p loc) : solid p.segments ≠ [] := by
  obtain ⟨dir, front, left, _, s, started, -, -, -⟩ := h
  exact List.ne_nil_of_mem (mem_of_start started s (List.mem_append_right front List.mem_cons_self))

theorem EndsAt.components_ne_nil (h : EndsAt disk p loc) : p.components ≠ [] := by
  obtain ⟨dir, front, left, _, s, started, -, isEntry, -⟩ := h
  intro none
  have mem := mem_of_start started s (List.mem_append_right front List.mem_cons_self)
  rcases Path.solid_of_no_names (by simp [none]) s mem with here | up
  · exact isEntry.notHere here
  · exact isEntry.notUp up

theorem makeDirectory_of_free (endsAt : EndsAt disk p loc) (accepted : Accepts p)
    (free : disk.node? loc = none) :
    disk.makeDirectory p = ⟨.ok (), disk.set loc .directory⟩ := by
  obtain ⟨directory, name, rfl, located⟩ := (endsAt.congr (Path.isAbsolute_trimSlashes p)
    (Path.solid_trimSlashes p.segments)).vacant (accepts_trimSlashes accepted) false free
  rw [makeDirectory, located]

theorem makeDirectories_of_made (solid : p.components ≠ [])
    (made : disk.makeDirectory p = ⟨.ok (), after⟩) :
    disk.makeDirectories (fuel + 1) p = ⟨.ok (), after⟩ := by
  rw [makeDirectories, if_neg (by simpa using solid), made]

theorem makeDirectories_of_free (endsAt : EndsAt disk p loc) (accepted : Accepts p)
    (free : disk.node? loc = none) :
    disk.makeDirectories (fuel + 1) p = ⟨.ok (), disk.set loc .directory⟩ :=
  makeDirectories_of_made endsAt.components_ne_nil (makeDirectory_of_free endsAt accepted free)

/-! ## The last of several directories -/

/-- The last directory of a path has been made, with those above it that were missing before. -/
def Opens (P : Location → Prop) (disk : Disk) (p : Path) (after : Disk) : Prop :=
  ∃ before target, Extends P disk before ∧ P target ∧ ClearFrom before target ∧
    EndsAt before p target ∧ after = before.set target .directory

theorem opens_of_makeDirectory (named : p.fileName? = some name) (ends : p.EndsInName)
    (clear : ∀ loc, EndsAt disk p loc → disk.node? loc = none → ClearFrom disk loc ∧ P loc)
    (h : disk.makeDirectory p = ⟨.ok (), after⟩) : Opens P disk p after := by
  obtain ⟨loc, endsAt, free, rfl⟩ := endsAt_of_makeDirectory named ends h
  obtain ⟨clear, here⟩ := clear loc endsAt free
  exact ⟨disk, loc, .refl disk, here, clear, endsAt, rfl⟩

/-- Directories that are made for a path are already there, or the last one is new and empty. -/
theorem opens_of_makeDirectories (descends : p.Descends) (ends : p.EndsInName)
    (closed : ∀ loc name, P loc → P (loc ++ [name]))
    (clear : ∀ q loc, q.Above p → EndsAt disk q loc → disk.node? loc = none →
      ClearFrom disk loc ∧ P loc)
    (h : disk.makeDirectories fuel p = ⟨.ok (), after⟩) :
    after = disk ∨ Opens P disk p after := by
  -- On the fuel: above the path either a directory was opened last, or nothing was made.
  induction fuel generalizing p after with
  | zero => cases h
  | succ fuel ih =>
    cases named : p.fileName? with
    | none =>
      exact .inl (makeDirectories_of_no_names (Path.name_not_mem_of_fileName? descends named) h)
    | some name =>
      cases made_of_makeDirectories h with
      | none _ same => exact .inl same
      | there _ same => exact .inl same
      | alone made => exact .inr (opens_of_makeDirectory named ends (clear p · (.refl p)) made)
      | @above q between missing parent made settled =>
        have above := Path.above_parent parent
        rcases ih (Path.descends_parent descends parent) (Path.endsInName_parent parent)
          (fun r loc way => clear r loc (way.trans above)) made with
          rfl | ⟨before, target, extends_, here, clear, endsAt, rfl⟩
        · -- Nothing was made above, so the directory is missing again.
          rw [missing] at settled
          rcases settle_ok settled with ok | ⟨_, failed, _⟩
          · cases ok
          · exact .inl (congrArg Outcome.disk failed).symm
        · have kept : Extends P before (before.set target .directory) :=
            extends_set clear.here here
          have there : (before.set target .directory).node? target = some .directory := by
            rw [node?_set endsAt.below, if_pos rfl]
          have reaches : Reaches (before.set target .directory) q target :=
            (endsAt.mono kept.grows.keepsWays.embeds).reaches there
          have lower := clear.below_set name
          rcases settle_ok settled with made | ⟨_, failed, found⟩
          · obtain ⟨loc, endsAt', free, rfl⟩ := endsAt_of_makeDirectory named ends made
            obtain rfl := endsAt'.eq_of_parent parent named ends reaches
            exact .inr ⟨_, _, extends_.trans kept, closed target name here, lower, endsAt', rfl⟩
          · -- Nothing is in a directory that was just made.
            obtain rfl := eq_of_makeDirectory_error failed
            obtain ⟨_, found⟩ := isDirectory_iff.mp found
            obtain ⟨loc, node, endsAt', there'⟩ :=
              (nodeAt?_eq_directory_iff.mp found).2.endsAt named ends
            obtain rfl := endsAt'.eq_of_parent parent named ends reaches
            cases lower.here.symm.trans there'

/-- Where the directory above is there, only the last one can be new. -/
theorem opens_of_parent (parent : p.parent? = some q) (there : disk.isDirectory q = true)
    (named : p.fileName? = some name) (ends : p.EndsInName)
    (clear : ∀ loc, EndsAt disk p loc → disk.node? loc = none → ClearFrom disk loc ∧ P loc)
    (h : disk.makeDirectories fuel p = ⟨.ok (), after⟩) :
    after = disk ∨ Opens P disk p after := by
  cases fuel with
  | zero => cases h
  | succ fuel =>
    cases made_of_makeDirectories h with
    | none _ same => exact .inl same
    | there _ same => exact .inl same
    | alone made => exact .inr (opens_of_makeDirectory named ends clear made)
    | above missing parent' made settled =>
      cases parent.symm.trans parent'
      cases fuel with
      | zero => cases made
      | succ fuel =>
        cases (makeDirectories_of_isDirectory there).symm.trans made
        rw [missing] at settled
        rcases settle_ok settled with ok | ⟨_, failed, _⟩
        · cases ok
        · exact .inl (congrArg Outcome.disk failed).symm

/-! ## Paths below one that is missing -/

/-- No directory is where paths are joined to the path. -/
def Unreached (disk : Disk) (output : Path) : Prop :=
  ∀ root, disk.nodeAt? true (output.joinName ".") ≠ .ok (root, .directory)

theorem components_join_ne_nil (output : Path) (areNames : Path.AreNames names) :
    (output.join ⟨names⟩).components ≠ [] := by
  rw [Path.components_join output areNames]
  simp [areNames.some]

theorem Unreached.locate_ne_ok (h : Unreached disk output) (areNames : Path.AreNames names)
    (spot : Spot) : disk.locate follow (output.join ⟨names⟩) ≠ .ok spot := by
  intro located
  obtain ⟨root, _, _, rooted, _⟩ := root_of_locate (Grows.refl disk).keepsWays areNames located
  exact h root rooted

theorem Unreached.makeDirectory_ne_ok (h : Unreached disk output) (areNames : Path.AreNames names) :
    disk.makeDirectory (output.join ⟨names⟩) ≠ ⟨.ok (), after⟩ := by
  intro made
  rcases disk.makeDirectory_cases (output.join ⟨names⟩) with ⟨_, failed⟩ | ⟨_, _, _, located, _⟩
  · cases failed.symm.trans made
  · rw [trimSlashes_join output areNames] at located
    exact h.locate_ne_ok areNames _ located

theorem Unreached.isDirectory_eq_false (h : Unreached disk output)
    (areNames : Path.AreNames names) :
    disk.isDirectory (output.join ⟨names⟩) = false := by
  rw [← Bool.not_eq_true, isDirectory_iff]
  rintro ⟨target, found⟩
  exact h.locate_ne_ok areNames _ (locate_of_nodeAt? found)

/-- For names below a missing path its home is made first, and all paths between are missing. -/
theorem home_of_makeDirectories (far : Unreached disk output) (areNames : Path.AreNames names)
    (h : disk.makeDirectories (fuel + names.length) (output.join ⟨names⟩) = ⟨.ok (), after⟩) :
    (∀ front, front <+: names → front ≠ [] →
      disk.makeDirectory (output.join ⟨front⟩) = ⟨.error .notFound, disk⟩) ∧
    ∃ opened, opened ≠ disk ∧ disk.makeDirectories fuel output.home = ⟨.ok (), opened⟩ := by
  -- From the last name on, as the parents are made: without any names the home is left.
  induction names using List.reverseRecOn generalizing after with
  | nil => exact absurd rfl areNames.some
  | append_singleton front name ih =>
    have isName := areNames.isName name (List.mem_append_right front List.mem_cons_self)
    rw [List.length_append, List.length_singleton, ← Nat.add_assoc] at h
    cases made_of_makeDirectories h with
    | none components _ => exact absurd components (components_join_ne_nil output areNames)
    | alone made => exact absurd made (far.makeDirectory_ne_ok areNames)
    | there found _ =>
      rw [far.isDirectory_eq_false areNames] at found
      cases found
    | @above q between missing parent made settled =>
      have within : ∀ other, other <+: front ++ [name] →
          other = front ++ [name] ∨ other <+: front := fun other h => List.prefix_concat_iff.mp h
      by_cases none : front = []
      · subst none
        cases (Path.parent?_join_name output isName).symm.trans parent
        refine ⟨fun other inside some => ?_, between, ?_, made⟩
        · rcases within other inside with rfl | empty
          · exact missing
          · exact absurd (List.prefix_nil.mp empty) some
        · rintro rfl
          rw [missing] at settled
          rcases settle_ok settled with ok | ⟨_, failed, found⟩
          · cases ok
          · cases failed
            rw [far.isDirectory_eq_false areNames] at found
            cases found
      · have before : Path.AreNames front := ⟨none, fun s hs =>
          areNames.isName s (List.mem_append_left [name] hs)⟩
        cases (Path.parent?_join output before isName).symm.trans parent
        obtain ⟨missingAbove, opened⟩ := ih before made
        refine ⟨fun other inside some => ?_, opened⟩
        rcases within other inside with rfl | inside
        · exact missing
        · exact missingAbove other inside some

theorem locate_missing {left : Nat} {rest : List String} (accepted : Accepts p)
    (started : disk.start p = .ok (dir, segments ++ name :: rest)) (some : rest ≠ [])
    (leads : Leads disk linkLimit dir segments left target) (isEntry : IsEntry name)
    (free : disk.node? (target ++ [name]) = none) :
    disk.locate follow p = .error .notFound := by
  rw [locate_of_start accepted started]
  obtain ⟨slash', -, walked⟩ : ∃ slash', _ ∧
      disk.walk linkLimit follow p.endsInSlash dir (segments ++ name :: rest) = _ :=
    walk_of_leads leads (name :: rest) (.inl (List.cons_ne_nil name rest))
  -- A missing name that is not the last one is a fault, not a free place.
  rw [walked, walk_entry isEntry, free]
  exact if_neg (by simpa using some)

theorem missing_of_locate (areNames : Path.AreNames names)
    (h : disk.locate false (output.join ⟨names⟩) = .error .notFound) :
    disk.makeDirectory (output.join ⟨names⟩) = ⟨.error .notFound, disk⟩ := by
  unfold makeDirectory
  rw [trimSlashes_join output areNames, h]

theorem EndsAt.missing (endsAt : EndsAt disk output.home loc) (free : disk.node? loc = none)
    (areNames : Path.AreNames names) (accepted : Accepts (output.join ⟨names⟩)) :
    disk.makeDirectory (output.join ⟨names⟩) = ⟨.error .notFound, disk⟩ := by
  obtain ⟨dir, front, left, directory, name, started, leads, isEntry, rfl⟩ := endsAt
  obtain ⟨dots, -, way⟩ := output.solid_eq_home
  have absolute := output.above_home.absolute.trans
    (Path.isAbsolute_join output areNames.solid).symm
  have behind := Path.solid_join output areNames.solid
  rw [way, List.append_assoc] at behind
  have started' := start_append absolute behind started
  rw [List.append_assoc, List.singleton_append] at started'
  exact missing_of_locate areNames (locate_missing accepted started'
    (List.append_ne_nil_of_right_ne_nil dots areNames.some) leads isEntry free)

theorem makeDirectory_missing {root : Location} {next : String} {rest : List String}
    (rooted : disk.nodeAt? true (output.joinName ".") = .ok (root, .directory))
    (empty : disk.node? (root ++ [name]) = none) (areNames : Path.AreNames (name :: next :: rest))
    (short : name.utf8ByteSize ≤ nameLimit)
    (accepted : Accepts (output.join ⟨name :: next :: rest⟩)) :
    disk.makeDirectory (output.join ⟨name :: next :: rest⟩) = ⟨.error .notFound, disk⟩ := by
  obtain ⟨-, dir, segments, left, started, leads⟩ := rooted_iff.mp rooted
  have started' := start_append (Path.isAbsolute_join output areNames.solid).symm
    (Path.solid_join output areNames.solid) started
  have isName := areNames.isName name List.mem_cons_self
  exact missing_of_locate areNames (locate_missing accepted started' (List.cons_ne_nil next rest)
    leads ⟨isName.notHere, isName.notUp, short⟩ empty)

/-- A path that could never be followed is not missing but refused. -/
theorem accepts_of_missing (areNames : Path.AreNames names)
    (h : disk.makeDirectory (output.join ⟨names⟩) = ⟨.error .notFound, disk⟩) :
    Accepts (output.join ⟨names⟩) := by
  have some := Path.isEmpty_of_components (components_join_ne_nil output areNames)
  have located : disk.locate false (output.join ⟨names⟩) = .error .notFound := by
    unfold makeDirectory at h
    rw [trimSlashes_join output areNames] at h
    split at h
    · rename_i fault located
      cases h
      exact located
    · cases h
    · cases h
  unfold locate at located
  split at located
  · cases located
  rename_i noZero
  rw [if_neg (by simp [some])] at located
  split at located
  · cases located
  rename_i short
  exact ⟨by simpa using noZero, some, Nat.le_of_not_lt short⟩

theorem accepts_of_sooner {front : List String} (inside : front <+: names)
    (solid : Path.AreSolid names) (some : front ≠ []) (accepted : Accepts (output.join ⟨names⟩)) :
    Accepts (output.join ⟨front⟩) := by
  have solidFront : Path.AreSolid front := ⟨some, fun mem => solid.notEmpty (inside.subset mem)⟩
  obtain ⟨more, rfl⟩ := inside
  obtain ⟨r, spelled⟩ := Path.intercalate_append front more
  refine accepts_of_text ⟨r, ?_⟩ accepted ?_
  · rw [Path.text_join output solid, Path.text_join output solidFront, Path.text, spelled,
      Path.text, String.append_assoc]
  · rw [Path.join_solid output solidFront]
    obtain ⟨name, rest, rfl⟩ := List.exists_cons_of_ne_nil some
    have notEmpty : name ≠ "" := fun empty => solidFront.notEmpty (empty ▸ List.mem_cons_self)
    simp [Path.isEmpty, List.append_eq_singleton_iff, notEmpty]

/-- Making what is below a home is going on from where the home was made. -/
theorem makeDirectories_join_eq {opened : Disk} {root : Location}
    (made : disk.makeDirectories (fuel + 1) output.home = ⟨.ok (), opened⟩)
    (rooted : opened.nodeAt? true (output.joinName ".") = .ok (root, .directory))
    (empty : ∀ name, opened.node? (root ++ [name]) = none)
    (areNames : Path.AreNames names) (short : ∀ s ∈ names, s.utf8ByteSize ≤ nameLimit)
    (missing : ∀ front, front <+: names → front ≠ [] →
      disk.makeDirectory (output.join ⟨front⟩) = ⟨.error .notFound, disk⟩) :
    disk.makeDirectories (fuel + 1 + names.length) (output.join ⟨names⟩) =
      opened.makeDirectories (fuel + 1 + names.length) (output.join ⟨names⟩) := by
  induction names using List.reverseRecOn with
  | nil => exact absurd rfl areNames.some
  | append_singleton front name ih =>
    have isName := areNames.isName name (List.mem_append_right front List.mem_cons_self)
    have some := components_join_ne_nil output areNames
    have missingLast := missing _ List.prefix_rfl areNames.some
    rw [List.length_append, List.length_singleton, ← Nat.add_assoc]
    -- Both runs meet at the home, which one of them has just made and the other one finds.
    by_cases none : front = []
    · subst none
      have parent := Path.parent?_join_name output isName
      rw [List.length_nil, Nat.add_zero]
      rw [makeDirectories_of_missing some missingLast parent, made, resume_ok,
        makeDirectories_of_parent some parent (makeDirectories_home rooted)]
    · have before : Path.AreNames front := ⟨none, fun s hs =>
        areNames.isName s (List.mem_append_left [name] hs)⟩
      have parent := Path.parent?_join output before isName
      have same := ih before (fun s hs => short s (List.mem_append_left [name] hs))
        fun other inside => missing other (inside.trans (List.prefix_append front [name]))
      have missingThere : opened.makeDirectory (output.join ⟨front ++ [name]⟩)
          = ⟨.error .notFound, opened⟩ := by
        have accepted := accepts_of_missing areNames missingLast
        obtain ⟨s, rest, rfl⟩ := List.exists_cons_of_ne_nil none
        obtain ⟨next, more, tail⟩ : ∃ next more, rest ++ [name] = next :: more :=
          List.exists_cons_of_ne_nil (List.append_ne_nil_of_right_ne_nil rest (by simp))
        rw [List.cons_append, tail] at areNames accepted ⊢
        exact makeDirectory_missing rooted (empty s) areNames (short s List.mem_cons_self) accepted
      rw [makeDirectories_of_missing some missingLast parent, same,
        makeDirectories_of_missing some missingThere parent]

end Disk

end Scaffold
