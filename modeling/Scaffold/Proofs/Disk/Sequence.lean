import Scaffold.Disk.Action

/-!
# Sequences of actions

What the outcome of a sequence says about its steps: a success went through all of them, and a
failure is that of the first step that failed.
-/

namespace Scaffold.Action

variable {ε δ α β : Type}

theorem run_look_of_eq {f : Disk → Except ε α} {disk : Disk} {result : Except ε α}
    (h : f disk = result) : (look f).run disk = ⟨result, disk⟩ := by
  rw [run_look, h]

theorem run_explain_of_ok {f : ε → δ} {action : Action ε α} {disk after : Disk} {a : α}
    (h : action.run disk = ⟨.ok a, after⟩) : (explain f action).run disk = ⟨.ok a, after⟩ := by
  change explain f action disk = _
  unfold explain
  rw [show action disk = ⟨.ok a, after⟩ from h]

theorem run_explain_of_error {f : ε → δ} {action : Action ε α} {disk after : Disk} {e : ε}
    (h : action.run disk = ⟨.error e, after⟩) :
    (explain f action).run disk = ⟨.error (f e), after⟩ := by
  change explain f action disk = _
  unfold explain
  rw [show action disk = ⟨.error e, after⟩ from h]

theorem error_of_run_explain {f : ε → δ} {action : Action ε α} {disk after : Disk} {e : δ}
    (h : (explain f action).run disk = ⟨.error e, after⟩) :
    ∃ cause, action.run disk = ⟨.error cause, after⟩ ∧ e = f cause := by
  cases ran : action.run disk with
  | mk result between =>
    cases result with
    | ok a => cases (run_explain_of_ok ran).symm.trans h
    | error cause =>
      cases (run_explain_of_error ran).symm.trans h
      exact ⟨cause, rfl, rfl⟩

theorem error_of_run_bind {action : Action ε α} {next : α → Action ε β} {disk after : Disk} {e : ε}
    (h : (action >>= next).run disk = ⟨.error e, after⟩) :
    action.run disk = ⟨.error e, after⟩ ∨
      ∃ a between, action.run disk = ⟨.ok a, between⟩ ∧
        (next a).run between = ⟨.error e, after⟩ := by
  cases first : action.run disk with
  | mk result between =>
    cases result with
    | ok a => exact .inr ⟨a, between, rfl, (run_bind_of_ok first).symm.trans h⟩
    | error cause =>
      cases (run_bind_of_error first).symm.trans h
      exact .inl rfl

theorem run_bind_congr {action : Action ε α} {next : α → Action ε β} {disk other : Disk}
    (same : action.run disk = action.run other) :
    (action >>= next).run disk = (action >>= next).run other := by
  change andThen action next disk = andThen action next other
  unfold andThen
  rw [show action disk = action other from same]

theorem run_explain_congr {f : ε → δ} {action : Action ε α} {disk other : Disk}
    (same : action.run disk = action.run other) :
    (explain f action).run disk = (explain f action).run other := by
  change explain f action disk = explain f action other
  unfold explain
  rw [show action disk = action other from same]

theorem ok_of_run_each_cons {f : α → Action ε β} {a : α} {rest : List α} {disk after : Disk}
    {bs : List β} (h : (each f (a :: rest)).run disk = ⟨.ok bs, after⟩) :
    ∃ b between later, (f a).run disk = ⟨.ok b, between⟩ ∧
      (each f rest).run between = ⟨.ok later, after⟩ ∧ bs = b :: later := by
  obtain ⟨b, between, first, h⟩ := ok_of_run_bind h
  obtain ⟨later, last, others, h⟩ := ok_of_run_bind h
  cases h
  exact ⟨b, between, later, first, others, rfl⟩

theorem exists_ok_of_run {action : Action ε α} {disk : Disk}
    (h : (action.run disk).result.toOption.isSome = true) :
    ∃ a after, action.run disk = ⟨.ok a, after⟩ := by
  cases run : action.run disk with
  | mk result after =>
    cases result with
    | ok a => exact ⟨a, after, rfl⟩
    | error e =>
      rw [run] at h
      cases h

/-- A sequence that fails went through what comes before the action that failed. -/
theorem error_of_run_each {f : α → Action ε β} {as : List α} {disk after : Disk} {e : ε}
    (h : (each f as).run disk = ⟨.error e, after⟩) :
    ∃ front a behind bs between, as = front ++ a :: behind ∧
      (each f front).run disk = ⟨.ok bs, between⟩ ∧ (f a).run between = ⟨.error e, after⟩ := by
  induction as generalizing disk with
  | nil => cases h
  | cons a rest ih =>
    rcases error_of_run_bind h with failed | ⟨b, between, first, h⟩
    · exact ⟨[], a, rest, [], disk, rfl, rfl, failed⟩
    · rcases error_of_run_bind h with others | ⟨bs, last, _, done⟩
      · obtain ⟨front, x, behind, bs, stopped, rfl, before, failed⟩ := ih others
        exact ⟨a :: front, x, behind, b :: bs, stopped, rfl,
          (run_bind_of_ok first).trans (run_bind_of_ok before), failed⟩
      · cases done

/-! ## Kinds of failures -/

/-- All failures of the action are of one kind. -/
def FailsAs (kind : ε → Prop) (action : Action ε α) : Prop :=
  ∀ disk e after, action.run disk = ⟨.error e, after⟩ → kind e

variable {kind : ε → Prop}

theorem failsAs_pure (a : α) : FailsAs kind (pure a : Action ε α) := by
  intro disk e after h
  cases h

theorem FailsAs.bind {action : Action ε α} {next : α → Action ε β} (first : FailsAs kind action)
    (later : ∀ a, FailsAs kind (next a)) : FailsAs kind (action >>= next) := by
  intro disk e after h
  rcases error_of_run_bind h with failed | ⟨a, between, _, failed⟩
  · exact first disk e after failed
  · exact later a between e after failed

theorem failsAs_explain {f : δ → ε} (action : Action δ α) (h : ∀ cause, kind (f cause)) :
    FailsAs kind (explain f action) := by
  intro disk e after failed
  obtain ⟨cause, _, rfl⟩ := error_of_run_explain failed
  exact h cause

theorem failsAs_each {f : α → Action ε β} (h : ∀ a, FailsAs kind (f a)) (as : List α) :
    FailsAs kind (each f as) := by
  induction as with
  | nil => exact failsAs_pure []
  | cons a rest ih => exact (h a).bind fun b => ih.bind fun bs => failsAs_pure (b :: bs)

/-! ## What actions do to a disk -/

/-- However the action ends, it leaves the disk in the relation to what it was. -/
def Relates (r : Disk → Disk → Prop) (action : Action ε α) : Prop :=
  ∀ disk, r disk (action.run disk).disk

variable {r : Disk → Disk → Prop}

theorem relates_pure (refl : ∀ disk, r disk disk) (a : α) : Relates r (pure a : Action ε α) :=
  fun disk => refl disk

theorem Relates.bind {action : Action ε α} {next : α → Action ε β}
    (trans : ∀ {disk between after}, r disk between → r between after → r disk after)
    (first : Relates r action) (later : ∀ a, Relates r (next a)) :
    Relates r (action >>= next) := by
  intro disk
  have one := first disk
  cases ran : action.run disk with
  | mk result between =>
    rw [ran] at one
    cases result with
    | ok a =>
      rw [run_bind_of_ok ran]
      exact trans one (later a between)
    | error e =>
      rw [run_bind_of_error ran]
      exact one

theorem relates_explain (f : ε → δ) {action : Action ε α} (h : Relates r action) :
    Relates r (explain f action) := by
  intro disk
  have one := h disk
  cases ran : action.run disk with
  | mk result after =>
    rw [ran] at one
    cases result with
    | ok a =>
      rw [run_explain_of_ok ran]
      exact one
    | error e =>
      rw [run_explain_of_error ran]
      exact one

theorem relates_each_mem {f : α → Action ε β} {as : List α} (refl : ∀ disk, r disk disk)
    (trans : ∀ {disk between after}, r disk between → r between after → r disk after)
    (h : ∀ a ∈ as, Relates r (f a)) : Relates r (each f as) := by
  induction as with
  | nil => exact relates_pure refl []
  | cons a rest ih =>
    obtain ⟨first, others⟩ := List.forall_mem_cons.mp h
    exact first.bind trans fun b => (ih others).bind trans fun bs => relates_pure refl (b :: bs)

theorem relates_each {f : α → Action ε β} (refl : ∀ disk, r disk disk)
    (trans : ∀ {disk between after}, r disk between → r between after → r disk after)
    (h : ∀ a, Relates r (f a)) (as : List α) : Relates r (each f as) :=
  relates_each_mem refl trans fun a _ => h a

end Scaffold.Action
