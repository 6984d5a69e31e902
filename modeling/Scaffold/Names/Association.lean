/-!
# Lists of pairs

Looking a key up in a list of pairs gives the value of the first pair with that key.
-/

namespace Scaffold

theorem lookup_pair_cons {κ α : Type} [BEq κ] [LawfulBEq κ] [DecidableEq κ] (x key : κ) (value : α)
    (rest : List (κ × α)) :
    ((key, value) :: rest).lookup x = if x = key then some value else rest.lookup x := by
  rw [List.lookup_cons]
  by_cases h : x = key
  · rw [if_pos h, beq_iff_eq.mpr h]
  · rw [if_neg h, beq_eq_false_iff_ne.mpr h]

end Scaffold
