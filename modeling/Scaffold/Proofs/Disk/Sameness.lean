import Scaffold.Proofs.Disk.Growth
import Scaffold.Proofs.Disk.Sequence

/-!
# Disks that are the same

Two disks with the same nodes everywhere may keep their entries in different orders. No path and
no action tells them apart, and they stay the same whatever is done to both.
-/

namespace Scaffold

namespace Disk

/-- The same is found everywhere on both disks, and the working directory is the same. -/
structure Same (disk other : Disk) : Prop where
  workingDirectory : other.workingDirectory = disk.workingDirectory
  lost : other.lost = disk.lost
  node : ∀ loc, other.node? loc = disk.node? loc

end Disk

inductive Outcome.Same {ε α : Type} : Outcome ε α → Outcome ε α → Prop
  | intro (result : Except ε α) {disk other : Disk} (same : disk.Same other) :
    Same ⟨result, disk⟩ ⟨result, other⟩

namespace Disk

variable {disk other : Disk} {follow : Bool} {p : Path}

namespace Same

/-! ## Paths -/

theorem walkWith (h : Same disk other)
    (enter : Bool → Location → List String → Except Fault Spot) (follow slash : Bool)
    (dir : Location) (segments : List String) :
    other.walkWith enter follow slash dir segments =
      disk.walkWith enter follow slash dir segments := by
  induction segments generalizing dir with
  | nil => rfl
  | cons name rest ih => simp only [Disk.walkWith, h.node, ih]

theorem walk (h : Same disk other) (links : Nat) (follow slash : Bool) (dir : Location)
    (segments : List String) :
    other.walk links follow slash dir segments = disk.walk links follow slash dir segments := by
  induction links generalizing slash dir segments with
  | zero => exact h.walkWith ..
  | succ links ih =>
    have entered : other.walk links follow = disk.walk links follow := by
      funext slash dir segments
      exact ih slash dir segments
    rw [Disk.walk, Disk.walk, entered]
    exact h.walkWith ..

theorem locate (h : Same disk other) (follow : Bool) (p : Path) :
    other.locate follow p = disk.locate follow p := by
  simp only [Disk.locate, h.workingDirectory, h.lost, h.walk]

theorem isDirectory (h : Same disk other) (p : Path) :
    other.isDirectory p = disk.isDirectory p := by
  rw [Disk.isDirectory, Disk.isDirectory, nodeAt?, nodeAt?, h.locate]

/-! ## Changes -/

theorem set {loc : Location} {node : Node} (h : Same disk other) (below : loc ≠ []) :
    Same (disk.set loc node) (other.set loc node) := by
  refine ⟨h.workingDirectory, h.lost, fun x => ?_⟩
  rw [node?_set below, node?_set below, h.node]

theorem makeDirectory (h : Same disk other) (p : Path) :
    Outcome.Same (disk.makeDirectory p) (other.makeDirectory p) := by
  unfold Disk.makeDirectory
  rw [h.locate]
  split
  · exact .intro _ h
  · exact .intro _ h
  · exact .intro _ (h.set (List.append_ne_nil_of_right_ne_nil _ (List.cons_ne_nil _ [])))

theorem settle {first second : Outcome Fault Unit} (h : first.Same second) (p : Path) :
    Outcome.Same (makeDirectories.settle p first) (makeDirectories.settle p second) := by
  cases h with
  | intro result same =>
    cases result with
    | ok _ => exact .intro _ same
    | error fault =>
      unfold makeDirectories.settle
      dsimp only
      rw [same.isDirectory]
      split
      · exact .intro _ same
      · exact .intro _ same

theorem makeDirectories (h : Same disk other) (fuel : Nat) (p : Path) :
    Outcome.Same (disk.makeDirectories fuel p) (other.makeDirectories fuel p) := by
  induction fuel generalizing disk other p with
  | zero => exact .intro _ h
  | succ fuel ih =>
    rw [Disk.makeDirectories, Disk.makeDirectories]
    split
    · exact .intro _ h
    have first := h.makeDirectory p
    generalize disk.makeDirectory p = one, other.makeDirectory p = two at first
    obtain @⟨result, disk, other, same⟩ := first
    cases result with
    | ok _ => exact .intro _ same
    | error fault =>
      by_cases missing : fault = .notFound
      · subst missing
        dsimp only
        split
        · exact .intro _ same
        · rename_i parent _
          have above := ih same parent
          generalize disk.makeDirectories fuel parent = one,
            other.makeDirectories fuel parent = two at above
          obtain ⟨result, same⟩ := above
          cases result with
          | ok _ => exact settle (same.makeDirectory p) p
          | error fault => exact .intro _ same
      · have last := settle (.intro (.error fault) same) p
        cases fault <;> first | exact last | exact absurd rfl missing

theorem write (h : Same disk other) (p : Path) (bytes : ByteArray) :
    Outcome.Same (disk.write p bytes) (other.write p bytes) := by
  unfold Disk.write
  rw [h.locate]
  split
  · exact .intro _ h
  · rename_i located
    exact .intro _ (h.set (ne_nil_of_target located rfl))
  · exact .intro _ h
  · split
    · exact .intro _ h
    · exact .intro _ (h.set (List.append_ne_nil_of_right_ne_nil _ (List.cons_ne_nil _ [])))

end Same

end Disk

namespace Action

variable {ε δ α β : Type} {disk other after : Disk}

/-- The action does the same on disks that are the same. -/
def Respects (action : Action ε α) : Prop :=
  ∀ ⦃disk other : Disk⦄, disk.Same other → (action.run disk).Same (action.run other)

theorem Respects.ok {action : Action ε α} {a : α} (h : Respects action) (same : disk.Same other)
    (ran : action.run disk = ⟨.ok a, after⟩) :
    ∃ again, action.run other = ⟨.ok a, again⟩ ∧ after.Same again := by
  have both := h same
  rw [ran] at both
  generalize action.run other = second at both
  cases both with
  | intro _ same => exact ⟨_, rfl, same⟩

theorem respects_pure (a : α) : Respects (pure a : Action ε α) := fun _ _ same => .intro _ same

theorem Respects.bind {action : Action ε α} {next : α → Action ε β} (first : Respects action)
    (later : ∀ a, Respects (next a)) : Respects (action >>= next) := by
  intro disk other same
  have both := first same
  generalize one : action.run disk = ran, two : action.run other = again at both
  obtain ⟨result, same⟩ := both
  cases result with
  | ok a =>
    rw [run_bind_of_ok one, run_bind_of_ok two]
    exact later a same
  | error e =>
    rw [run_bind_of_error one, run_bind_of_error two]
    exact .intro _ same

theorem respects_explain (f : ε → δ) {action : Action ε α} (h : Respects action) :
    Respects (explain f action) := by
  intro disk other same
  have both := h same
  generalize one : action.run disk = ran, two : action.run other = again at both
  obtain ⟨result, same⟩ := both
  cases result with
  | ok a =>
    rw [run_explain_of_ok one, run_explain_of_ok two]
    exact .intro _ same
  | error e =>
    rw [run_explain_of_error one, run_explain_of_error two]
    exact .intro _ same

theorem respects_each {f : α → Action ε β} (h : ∀ a, Respects (f a)) (as : List α) :
    Respects (each f as) := by
  induction as with
  | nil => exact respects_pure []
  | cons a rest ih => exact (h a).bind fun b => ih.bind fun bs => respects_pure (b :: bs)

end Action

end Scaffold
