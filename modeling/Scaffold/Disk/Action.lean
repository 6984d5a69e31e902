import Scaffold.Disk.Change

/-!
# Actions on a disk

An action takes a disk and gives a result with the disk afterwards. The first failure of a
sequence of actions ends it, and what was done before stays done.
-/

namespace Scaffold

def Action (ε α : Type) := Disk → Outcome ε α

namespace Action

variable {ε δ α β : Type}

def run (action : Action ε α) (disk : Disk) : Outcome ε α := action disk

def done (a : α) : Action ε α := fun disk => ⟨.ok a, disk⟩

def andThen (action : Action ε α) (next : α → Action ε β) : Action ε β := fun disk =>
  match action disk with
  | ⟨.ok a, disk⟩ => next a disk
  | ⟨.error e, disk⟩ => ⟨.error e, disk⟩

instance : Monad (Action ε) where
  pure := done
  bind := andThen

def look (f : Disk → Except ε α) : Action ε α := fun disk => ⟨f disk, disk⟩

def explain (f : ε → δ) (action : Action ε α) : Action δ α := fun disk =>
  match action disk with
  | ⟨.ok a, disk⟩ => ⟨.ok a, disk⟩
  | ⟨.error e, disk⟩ => ⟨.error (f e), disk⟩

def each (f : α → Action ε β) : List α → Action ε (List β)
  | [] => done []
  | a :: rest => do
    let b ← f a
    let bs ← each f rest
    pure (b :: bs)

theorem run_look (f : Disk → Except ε α) (disk : Disk) : (look f).run disk = ⟨f disk, disk⟩ := rfl

theorem run_bind_of_ok {action : Action ε α} {next : α → Action ε β} {disk after : Disk} {a : α}
    (h : action.run disk = ⟨.ok a, after⟩) : (action >>= next).run disk = (next a).run after := by
  change andThen action next disk = _
  unfold andThen
  rw [show action disk = ⟨.ok a, after⟩ from h]
  rfl

theorem run_bind_of_error {action : Action ε α} {next : α → Action ε β} {disk after : Disk} {e : ε}
    (h : action.run disk = ⟨.error e, after⟩) :
    (action >>= next).run disk = ⟨.error e, after⟩ := by
  change andThen action next disk = _
  unfold andThen
  rw [show action disk = ⟨.error e, after⟩ from h]

theorem ok_of_run_bind {action : Action ε α} {next : α → Action ε β} {disk after : Disk} {b : β}
    (h : (action >>= next).run disk = ⟨.ok b, after⟩) :
    ∃ a between, action.run disk = ⟨.ok a, between⟩ ∧ (next a).run between = ⟨.ok b, after⟩ := by
  cases first : action.run disk with
  | mk result between =>
    cases result with
    | ok a => exact ⟨a, between, rfl, (run_bind_of_ok first).symm.trans h⟩
    | error e => cases (run_bind_of_error first).symm.trans h

theorem ok_of_run_explain {f : ε → δ} {action : Action ε α} {disk after : Disk} {a : α}
    (h : (explain f action).run disk = ⟨.ok a, after⟩) : action.run disk = ⟨.ok a, after⟩ := by
  change (match action disk with
    | ⟨.ok a, disk⟩ => ⟨.ok a, disk⟩
    | ⟨.error e, disk⟩ => ⟨.error (f e), disk⟩ : Outcome δ α) = _ at h
  split at h
  · rename_i done
    cases h
    exact done
  · cases h

end Action

end Scaffold
