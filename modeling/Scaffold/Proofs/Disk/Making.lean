import Scaffold.Proofs.Disk.Reaching

/-!
# How directories are made

A directory that is there is left alone. For one that is missing the directories above it are made
first. Below a root without links the names that are followed say where all of them come to be.
-/

namespace Scaffold

namespace Disk

variable {disk between after : Disk} {links fuel : Nat} {follow slash : Bool}
  {dir loc target : Location} {segments names : List String} {p q output : Path}
  {P Q : Location → Prop}

/-! ## New directories -/

/-- Directories have come where nothing was, all of them in places of one kind. -/
structure Extends (P : Location → Prop) (disk after : Disk) : Prop where
  workingDirectory : after.workingDirectory = disk.workingDirectory
  lost : after.lost = disk.lost
  node : ∀ loc, after.node? loc = disk.node? loc ∨
    disk.node? loc = none ∧ after.node? loc = some .directory ∧ P loc

theorem Extends.refl (disk : Disk) : Extends P disk disk := ⟨rfl, rfl, fun _ => .inl rfl⟩

theorem Extends.trans (first : Extends P disk between) (second : Extends P between after) :
    Extends P disk after := by
  refine ⟨second.workingDirectory.trans first.workingDirectory, second.lost.trans first.lost, ?_⟩
  intro loc
  rcases second.node loc with same | ⟨free, made, here⟩
  · rw [same]
    exact first.node loc
  · rcases first.node loc with same | ⟨_, old, _⟩
    · exact .inr ⟨same.symm.trans free, made, here⟩
    · cases old.symm.trans free

theorem Extends.imp (h : Extends P disk after) (imp : ∀ loc, P loc → Q loc) :
    Extends Q disk after := by
  refine ⟨h.workingDirectory, h.lost, fun loc => ?_⟩
  rcases h.node loc with same | ⟨free, made, here⟩
  · exact .inl same
  · exact .inr ⟨free, made, imp loc here⟩

theorem Extends.grows (h : Extends P disk after) : Grows [] disk after := by
  refine ⟨h.workingDirectory, h.lost, fun loc _ => ?_⟩
  rcases h.node loc with same | ⟨free, made, _⟩
  · exact .inl same
  · exact .inr ⟨free, made⟩

theorem Extends.node?_eq (h : Extends P disk after) (elsewhere : ¬ P loc) :
    after.node? loc = disk.node? loc := by
  rcases h.node loc with same | ⟨_, _, here⟩
  · exact same
  · exact absurd here elsewhere

theorem extends_set (free : disk.node? loc = none) (here : P loc) :
    Extends P disk (disk.set loc .directory) := by
  have below : loc ≠ [] := by
    rintro rfl
    cases free
  refine ⟨rfl, rfl, fun x => ?_⟩
  rw [node?_set below]
  split
  · rename_i same
    exact .inr ⟨same ▸ free, rfl, same ▸ here⟩
  · exact .inl rfl

/-! ## What making directories can do -/

theorem settle_ok {outcome : Outcome Fault Unit}
    (h : makeDirectories.settle p outcome = ⟨.ok (), after⟩) :
    outcome = ⟨.ok (), after⟩ ∨
      ∃ fault, outcome = ⟨.error fault, after⟩ ∧ after.isDirectory p = true := by
  unfold makeDirectories.settle at h
  split at h
  · cases h
    exact .inl rfl
  · rename_i fault _
    split at h
    · rename_i found
      cases h
      exact .inr ⟨fault, rfl, found⟩
    · cases h

theorem settle_of_isDirectory {fault : Fault} (h : disk.isDirectory p = true) :
    makeDirectories.settle p ⟨.error fault, disk⟩ = ⟨.ok (), disk⟩ := if_pos h

theorem eq_of_makeDirectory_error {fault : Fault}
    (h : disk.makeDirectory p = ⟨.error fault, after⟩) : after = disk := by
  rcases disk.makeDirectory_cases p with ⟨_, failed⟩ | ⟨_, _, _, _, made⟩
  · exact congrArg Outcome.disk (h.symm.trans failed)
  · cases made.symm.trans h

/-- How the directories of a path come to be made. -/
inductive Made (disk : Disk) (fuel : Nat) (p : Path) (after : Disk) : Prop
  | none (components : p.components = []) (same : after = disk)
  | alone (h : disk.makeDirectory p = ⟨.ok (), after⟩)
  | there (found : disk.isDirectory p = true) (same : after = disk)
  | above {q : Path} {between : Disk} (missing : disk.makeDirectory p = ⟨.error .notFound, disk⟩)
    (parent : p.parent? = some q) (made : disk.makeDirectories fuel q = ⟨.ok (), between⟩)
    (settled : makeDirectories.settle p (between.makeDirectory p) = ⟨.ok (), after⟩)

theorem made_of_makeDirectories (h : disk.makeDirectories (fuel + 1) p = ⟨.ok (), after⟩) :
    Made disk fuel p after := by
  rw [makeDirectories] at h
  split at h
  · rename_i components
    cases h
    exact .none (List.isEmpty_iff.mp components) rfl
  rcases disk.makeDirectory_cases p with ⟨fault, failed⟩ | ⟨_, _, _, _, made⟩
  · rw [failed] at h
    by_cases missing : fault = .notFound
    · subst missing
      dsimp only at h
      split at h
      · cases h
      · rename_i q parent
        split at h
        · cases h
        · rename_i between made
          exact .above failed parent made h
    · have settled : makeDirectories.settle p ⟨.error fault, disk⟩ = ⟨.ok (), after⟩ := by
        cases fault <;> first | exact h | exact absurd rfl missing
      rcases settle_ok settled with ok | ⟨_, same, found⟩
      · cases ok
      · cases same
        exact .there found rfl
  · rw [made] at h
    cases h
    exact .alone made

/-- Goes on to a directory that was missing from what making its parent gave. -/
def resume (p : Path) (outcome : Outcome Fault Unit) : Outcome Fault Unit :=
  match outcome with
  | ⟨.error fault, disk⟩ => ⟨.error fault, disk⟩
  | ⟨.ok (), disk⟩ => makeDirectories.settle p (disk.makeDirectory p)

theorem resume_ok (p : Path) (disk : Disk) :
    resume p ⟨.ok (), disk⟩ = makeDirectories.settle p (disk.makeDirectory p) := rfl

theorem makeDirectories_of_missing (solid : p.components ≠ [])
    (missing : disk.makeDirectory p = ⟨.error .notFound, disk⟩) (parent : p.parent? = some q) :
    disk.makeDirectories (fuel + 1) p = resume p (disk.makeDirectories fuel q) := by
  rw [makeDirectories, if_neg (by simpa using solid), missing]
  dsimp only
  rw [parent]
  rfl

theorem makeDirectories_of_parent (solid : p.components ≠ []) (parent : p.parent? = some q)
    (there : disk.makeDirectories fuel q = ⟨.ok (), disk⟩) :
    disk.makeDirectories (fuel + 1) p = makeDirectories.settle p (disk.makeDirectory p) := by
  rcases disk.makeDirectory_cases p with ⟨fault, failed⟩ | ⟨_, _, _, _, made⟩
  · by_cases missing : fault = .notFound
    · subst missing
      rw [makeDirectories_of_missing solid failed parent, there, resume_ok]
    · rw [makeDirectories, if_neg (by simpa using solid), failed]
      cases fault <;> first | rfl | exact absurd rfl missing
  · rw [makeDirectories, if_neg (by simpa using solid), made]
    rfl

/-! ## Directories that are there already -/

/-- What leads to a directory comes out somewhere also if a link at its end is not followed. -/
theorem Leads.found {left : Nat} (h : Leads disk links dir segments left target)
    (follow slash : Bool) :
    ∃ loc node, disk.walk links follow slash dir segments = .ok (.found loc node) := by
  induction h generalizing slash with
  | arrived links dir => exact ⟨dir, .directory, walk_nil⟩
  | here _ ih =>
    rw [walk_here]
    exact ih slash
  | up _ ih =>
    rw [walk_up]
    exact ih slash
  | entry isEntry node _ ih =>
    rw [walk_entry isEntry, node]
    exact ih slash
  | link isEntry node _ ih =>
    rw [walk_entry isEntry, node]
    dsimp only
    split
    · exact ⟨_, _, rfl⟩
    · exact ih _

theorem makeDirectories_of_isDirectory (h : disk.isDirectory p = true) :
    disk.makeDirectories (fuel + 1) p = ⟨.ok (), disk⟩ := by
  obtain ⟨target, there⟩ := isDirectory_iff.mp h
  obtain ⟨accepted, dir, segments, left, started, leads⟩ := nodeAt?_eq_directory_iff.mp there
  obtain ⟨loc, node, found⟩ :=
    leads.found false (⟨Path.trimSlashes p.segments⟩ : Path).endsInSlash
  have taken : disk.makeDirectory p = ⟨.error .alreadyExists, disk⟩ := by
    unfold makeDirectory
    rw [locate_of_start (accepts_trimSlashes accepted) ((start_trimSlashes p).trans started), found]
  rw [makeDirectories]
  split
  · rfl
  · rw [taken]
    exact settle_of_isDirectory h

theorem isEmpty_home (some : output.home.components ≠ []) : output.isEmpty = false :=
  Path.isEmpty_of_components (output.components_home ▸ some)

theorem accepts_home (some : output.home.components ≠ []) (accepted : Accepts output) :
    Accepts output.home :=
  accepts_of_text output.text_home accepted (Path.isEmpty_of_components some)

theorem makeDirectories_home
    (rooted : disk.nodeAt? true (output.joinName ".") = .ok (target, .directory)) :
    disk.makeDirectories (fuel + 1) output.home = ⟨.ok (), disk⟩ := by
  by_cases none : output.home.components = []
  · rw [makeDirectories, if_pos (List.isEmpty_iff.mpr none)]
  · obtain ⟨accepted, reaches⟩ := rooted_iff.mp rooted
    refine makeDirectories_of_isDirectory (isDirectory_iff.mpr ⟨target, ?_⟩)
    refine nodeAt?_eq_directory_iff.mpr ⟨accepts_home none ?_, reaches_home_iff.mpr reaches⟩
    exact accepts_of_join Path.areSolid_here accepted (isEmpty_home none)

/-! ## Directories below a root -/

/-- The locations of names and of those before them, below a root. -/
def Along (root : Location) (names : List String) (loc : Location) : Prop :=
  ∃ front, front <+: names ∧ front ≠ [] ∧ loc = root ++ front

theorem Along.mono {root : Location} (before : names <+: segments) (h : Along root names loc) :
    Along root segments loc := by
  obtain ⟨front, within, some, rfl⟩ := h
  exact ⟨front, within.trans before, some, rfl⟩

theorem trimSlashes_join (output : Path) (areNames : Path.AreNames names) :
    (⟨Path.trimSlashes (output.join ⟨names⟩).segments⟩ : Path) = output.join ⟨names⟩ := by
  rw [Path.join_solid output areNames.solid,
    trimSlashes_of_last (Path.getLast?_append_solid _ areNames.solid)]

section Root

variable {root : Location}

theorem extends_of_makeDirectory (areNames : Path.AreNames names)
    (rooted : disk.nodeAt? true (output.joinName ".") = .ok (root, .directory))
    (noLinks : disk.NoLinks root)
    (h : disk.makeDirectory (output.join ⟨names⟩) = ⟨.ok (), after⟩) :
    Extends (Along root names) disk after := by
  rcases disk.makeDirectory_cases (output.join ⟨names⟩) with ⟨_, failed⟩ | ⟨_, _, _, located, made⟩
  · cases failed.symm.trans h
  · cases made.symm.trans h
    rw [trimSlashes_join output areNames] at located
    have place := place_of_locate (Grows.refl disk).keepsWays rooted noLinks areNames located
    exact extends_set (free_of_locate located) ⟨names, List.prefix_rfl, areNames.some, place⟩

/-- Directories that are made below a root without links are along their names. -/
theorem extends_of_makeDirectories (areNames : Path.AreNames names)
    (rooted : disk.nodeAt? true (output.joinName ".") = .ok (root, .directory))
    (noLinks : disk.NoLinks root)
    (h : disk.makeDirectories fuel (output.join ⟨names⟩) = ⟨.ok (), after⟩) :
    Extends (Along root names) disk after := by
  induction fuel generalizing names after with
  | zero => cases h
  | succ fuel ih =>
    cases made_of_makeDirectories h with
    | none _ same =>
      rw [same]
      exact .refl disk
    | alone made => exact extends_of_makeDirectory areNames rooted noLinks made
    | there _ same =>
      rw [same]
      exact .refl disk
    | @above q between missing parent made settled =>
      have made_above : Extends (Along root names) disk between := by
        obtain ⟨front, name, rfl⟩ := (List.eq_nil_or_concat names).resolve_left areNames.some
        rw [List.concat_eq_append] at parent areNames ⊢
        have isName := areNames.isName name (List.mem_append_right front List.mem_cons_self)
        -- The parent is the root, which is there, or a path with a name less.
        by_cases none : front = []
        · subst none
          cases (Path.parent?_join_name output isName).symm.trans parent
          cases fuel with
          | zero => cases made
          | succ fuel =>
            cases (makeDirectories_home rooted).symm.trans made
            exact .refl disk
        · have before : Path.AreNames front := ⟨none, fun s hs =>
            areNames.isName s (List.mem_append_left [name] hs)⟩
          cases (Path.parent?_join output before isName).symm.trans parent
          exact (ih before made).imp fun loc => Along.mono (List.prefix_append front [name])
      have ways := made_above.grows.keepsWays
      rcases settle_ok settled with made | ⟨_, failed, _⟩
      · exact made_above.trans (extends_of_makeDirectory areNames (nodeAt?_directory ways rooted)
          (made_above.grows.noLinks noLinks) made)
      · rw [eq_of_makeDirectory_error failed]
        exact made_above

end Root

end Disk

end Scaffold
