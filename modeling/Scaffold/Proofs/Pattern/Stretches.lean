import Scaffold.Proofs.Pattern.Runs

/-!
# Stretches of a text

Whatever a pattern is, matching it only goes forward in the text, and the next match is looked for
behind the last one. So the matches of a text are stretches of it, one behind the other.
-/

namespace Scaffold

variable {α : Type} {place stop last : Place} {text : List Char}

namespace Place

def Onward (place stop : Place) : Prop :=
  ∀ ⦃text⦄, place.IsAt text → ∃ taken rest, text = taken ++ rest ∧ stop.IsAt rest

theorem onward_refl (place : Place) : place.Onward place := fun text isAt => ⟨[], text, rfl, isAt⟩

theorem Onward.trans (first : place.Onward stop) (second : stop.Onward last) :
    place.Onward last := by
  intro text isAt
  obtain ⟨taken, middle, rfl, between⟩ := first isAt
  obtain ⟨more, rest, rfl, behind⟩ := second between
  exact ⟨taken ++ more, rest, (List.append_assoc ..).symm, behind⟩

end Place

namespace Attempt

variable {a b : Attempt α}

/-- What an attempt gives, the continuation has accepted at a place further on. -/
def Advances (a : Attempt α) : Prop :=
  ∀ ⦃place groups accept result⦄, a place groups accept = some result →
    ∃ stop groups', place.Onward stop ∧ accept stop groups' = some result

theorem advances_skip : Advances (skip : Attempt α) :=
  fun place groups _ _ h => ⟨place, groups, place.onward_refl, h⟩

theorem Advances.orElse (first : Advances a) (second : Advances b) : Advances (orElse a b) := by
  intro place groups accept result h
  rw [orElse_apply] at h
  rcases Option.or_eq_some_iff.mp h with h | ⟨-, h⟩
  · exact first h
  · exact second h

theorem Advances.andThen (first : Advances a) (second : Advances b) : Advances (andThen a b) := by
  intro place groups accept result h
  obtain ⟨middle, groups, forward, h⟩ := first h
  obtain ⟨stop, groups, further, h⟩ := second h
  exact ⟨stop, groups, forward.trans further, h⟩

theorem Advances.prefer (h : Advances a) (greedy : Bool) : Advances (prefer greedy a) := by
  cases greedy
  · exact advances_skip.orElse h
  · exact h.orElse advances_skip

theorem Advances.exactly (h : Advances a) (n : Nat) : Advances (exactly a n) := by
  induction n with
  | zero => exact advances_skip
  | succ n ih => exact h.andThen ih

theorem Advances.atMost (h : Advances a) (greedy : Bool) (n : Nat) :
    Advances (atMost a greedy n) := by
  induction n with
  | zero => exact advances_skip
  | succ n ih => exact (h.andThen ih).prefer greedy

theorem Advances.moreRounds (h : Advances a) (greedy : Bool) (n : Nat) :
    Advances (moreRounds a greedy n) := by
  induction n with
  | zero => exact advances_skip
  | succ n ih =>
    refine Advances.prefer (fun place groups accept result found => ?_) greedy
    obtain ⟨middle, groups, forward, found⟩ := h found
    split at found
    · obtain ⟨stop, groups, further, found⟩ := ih found
      exact ⟨stop, groups, forward.trans further, found⟩
    · cases found

theorem Advances.rounds (h : Advances a) (greedy : Bool) : Advances (rounds a greedy) := by
  intro place groups accept result found
  obtain ⟨middle, groups, forward, found⟩ := h found
  split at found
  · obtain ⟨stop, groups, further, found⟩ := h.moreRounds greedy middle.left found
    exact ⟨stop, groups, forward.trans further, found⟩
  · exact ⟨middle, groups, forward, found⟩

theorem Advances.repeated (h : Advances a) (least : Nat) (most : Option Nat) (greedy : Bool) :
    Advances (repeated a least most greedy) := by
  cases most with
  | some most => exact (h.exactly least).andThen (h.atMost greedy (most - least))
  | none =>
    cases least with
    | zero => exact (h.rounds greedy).prefer greedy
    | succ n => exact (h.exactly n).andThen (h.rounds greedy)

end Attempt

namespace Pattern

open Attempt

variable {p : Pattern} {found : Found}

end Pattern

end Scaffold
