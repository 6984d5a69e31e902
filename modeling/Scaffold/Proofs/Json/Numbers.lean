import Scaffold.Proofs.Json.Passing

/-!
# Numbers in longer texts

A number is read as the same one with more text behind it, as long as that text begins like
nothing that goes on with a number.
-/

namespace Scaffold.Json

variable {negative : Bool} {significand count significand' count' value : Nat} {exponent : Int}
  {x : Binary} {n : Number} {cs left rest : List Char}

theorem drop_digits (cs : List Char) :
    cs.drop (cs.takeWhile Char.isDigit).length = cs.dropWhile Char.isDigit := by
  have whole := @List.drop_left _ (cs.takeWhile Char.isDigit) (cs.dropWhile Char.isDigit)
  rwa [List.takeWhile_append_dropWhile] at whole

theorem takeDigits_append (free : ∀ c ∈ rest.head?, c.isDigit = false)
    (h : takeDigits significand count cs = (significand', count', left)) :
    takeDigits significand count (cs ++ rest) = (significand', count', left ++ rest) := by
  induction cs generalizing significand count with
  | nil =>
    cases h
    cases rest with
    | nil => rfl
    | cons c rest => simp [takeDigits, free c rfl]
  | cons c cs ih =>
    rw [takeDigits] at h
    rw [List.cons_append, takeDigits]
    split at h
    · rename_i taken
      rw [if_pos taken]
      exact ih h
    · rename_i full
      rw [if_neg full]
      cases h
      rfl

theorem exponentDigits_append (free : ∀ c ∈ rest.head?, c.isDigit = false) {read : Option Nat}
    (h : exponentDigits value cs = (read, left)) :
    exponentDigits value (cs ++ rest) = (read, left ++ rest) := by
  induction cs generalizing value with
  | nil =>
    cases h
    cases rest with
    | nil => rfl
    | cons c rest => simp [exponentDigits, free c rfl]
  | cons c cs ih =>
    rw [exponentDigits] at h
    rw [List.cons_append, exponentDigits]
    split at h
    · rename_i digit
      rw [if_pos digit]
      simp only at h ⊢
      split at h
      · rename_i small
        rw [if_pos small]
        exact ih h
      · rename_i large
        rw [if_neg large]
        cases h
        rfl
    · rename_i other
      rw [if_neg other]
      cases h
      rfl

/-- What is left of the text only matters where a number is refused. -/
theorem ofParts_rest (h : ofParts negative significand exponent left = .ok x)
    (other : List Char) : ofParts negative significand exponent other = .ok x := by
  unfold ofParts at h ⊢
  grind

theorem exists_ok_of_bind {ε α β : Type} {result : Except ε α} {next : α → Except ε β} {b : β}
    (h : (result >>= next) = .ok b) : ∃ a, result = .ok a ∧ next a = .ok b := by
  cases result with
  | ok a => exact ⟨a, rfl, h⟩
  | error e => cases h

theorem ofParts_append {cs' : List Char}
    (h : (do let x ← ofParts negative significand exponent cs; .ok (x, cs)) =
      (.ok (x, left) : Except Failure _)) :
    (do let x ← ofParts negative significand exponent cs'; .ok (x, cs ++ rest)) =
      (.ok (x, left ++ rest) : Except Failure _) := by
  obtain ⟨y, parts, same⟩ := exists_ok_of_bind h
  cases same
  exact bind_of_ok (ofParts_rest parts cs')

def readPower (negative minus : Bool) (significand : Nat) (exponent : Int) :
    List Char → Except Failure (Binary × List Char)
  | [] => .error (.here .endInValue [])
  | c :: cs =>
    if !c.isDigit then .error (.next .invalidNumber (c :: cs))
    else
      match exponentDigits (c.toNat - 48) cs with
      | (some value, rest) => do
        let x ← ofParts negative significand
          (if minus then exponent - value else exponent + value) rest
        .ok (x, rest)
      | (none, rest) =>
        if significand != 0 && !minus then .error (.here .numberOutOfRange rest)
        else .ok (if negative then Binary.zero.neg else Binary.zero, rest.dropWhile Char.isDigit)

theorem readExponent_plus : readExponent negative significand exponent ('+' :: cs) =
    readPower negative false significand exponent cs := by
  cases cs <;> rfl

theorem readExponent_minus : readExponent negative significand exponent ('-' :: cs) =
    readPower negative true significand exponent cs := by
  cases cs <;> rfl

theorem readExponent_unsigned {c : Char} (notPlus : c ≠ '+') (notMinus : c ≠ '-') :
    readExponent negative significand exponent (c :: cs) =
      readPower negative false significand exponent (c :: cs) := by
  cases digits : exponentDigits (c.toNat - 48) cs with
  | mk read rest => cases read <;> simp [readExponent, readPower, notPlus, notMinus, digits]

theorem readPower_append (free : ∀ c ∈ rest.head?, c.isDigit = false) {minus : Bool}
    (h : readPower negative minus significand exponent cs = .ok (x, left)) :
    readPower negative minus significand exponent (cs ++ rest) = .ok (x, left ++ rest) := by
  cases cs with
  | nil => cases h
  | cons c cs =>
    rw [readPower] at h
    rw [List.cons_append, readPower]
    split at h
    · cases h
    · rename_i digit
      rw [if_neg digit]
      split at h
      · rename_i value behind digits
        rw [exponentDigits_append free digits]
        exact ofParts_append h
      · rename_i behind digits
        rw [exponentDigits_append free digits]
        simp only
        split at h
        · cases h
        · rename_i small
          cases h
          rw [if_neg small, Text.dropWhile_append free]

theorem readExponent_append (ends : Ends rest)
    (h : readExponent negative significand exponent cs = .ok (x, left)) :
    readExponent negative significand exponent (cs ++ rest) = .ok (x, left ++ rest) := by
  have free := not_digit_of_ends ends
  cases cs with
  | nil => cases h
  | cons c cs =>
    rw [List.cons_append]
    by_cases plus : c = '+'
    · subst plus
      rw [readExponent_plus] at h ⊢
      exact readPower_append free h
    · by_cases minus : c = '-'
      · subst minus
        rw [readExponent_minus] at h ⊢
        exact readPower_append free h
      · rw [readExponent_unsigned plus minus] at h ⊢
        exact readPower_append free h

theorem readScale_append (ends : Ends rest)
    (h : readScale negative significand exponent cs = .ok (x, left)) :
    readScale negative significand exponent (cs ++ rest) = .ok (x, left ++ rest) := by
  cases cs with
  | nil =>
    cases rest with
    | nil =>
      rw [List.append_nil, List.append_nil]
      exact h
    | cons c rest =>
      rw [List.nil_append, readScale, not_mark_of_ends ends]
      exact ofParts_append h
  | cons c cs =>
    rw [readScale] at h
    rw [List.cons_append, readScale]
    split at h
    · rename_i mark
      rw [if_pos mark]
      exact readExponent_append ends h
    · rename_i noMark
      rw [if_neg noMark]
      exact ofParts_append h

theorem readPlaces_append (ends : Ends rest)
    (h : readPlaces negative significand exponent cs = .ok (x, left)) :
    readPlaces negative significand exponent (cs ++ rest) = .ok (x, left ++ rest) := by
  have free := not_digit_of_ends ends
  cases taken : takeDigits significand 0 cs with
  | mk significand' read =>
    obtain ⟨count, behind⟩ := read
    rw [readPlaces, taken] at h
    rw [readPlaces, takeDigits_append free taken]
    simp only at h ⊢
    -- only where the digits end with the text is the first character of `rest` looked at
    cases behind with
    | nil =>
      simp only at h
      split at h
      · cases h
      · rename_i some
        have scale := readScale_append ends h
        cases rest with
        | nil =>
          rw [List.append_nil] at scale ⊢
          simp only
          rw [if_neg some]
          exact scale
        | cons c rest =>
          rw [List.nil_append] at scale ⊢
          simp only [free c rfl, Bool.false_eq_true, if_false]
          rw [if_neg some]
          exact scale
    | cons c behind =>
      simp only [List.cons_append] at h ⊢
      split at h
      · rename_i digit
        have dropped := Text.dropWhile_append free (c :: behind)
        rw [List.cons_append] at dropped
        rw [if_pos digit, dropped]
        exact readScale_append ends h
      · rename_i other
        rw [if_neg other]
        split at h
        · cases h
        · rename_i some
          rw [if_neg some]
          exact readScale_append ends h

theorem readAfterDigits_append (ends : Ends rest)
    (h : readAfterDigits negative significand cs = .ok (n, left)) :
    readAfterDigits negative significand (cs ++ rest) = .ok (n, left ++ rest) := by
  unfold readAfterDigits at h
  split at h
  · obtain ⟨⟨x, behind⟩, places, same⟩ := exists_ok_of_bind h
    cases same
    exact bind_of_ok (readPlaces_append ends places)
  · rename_i c cs notPoint
    rw [List.cons_append, readAfterDigits]
    · split at h
      · rename_i mark
        obtain ⟨⟨x, behind⟩, power, same⟩ := exists_ok_of_bind h
        cases same
        rw [if_pos mark]
        exact bind_of_ok (readExponent_append ends power)
      · rename_i noMark
        cases h
        rw [if_neg noMark]
        rfl
    · exact notPoint
  · cases h
    cases rest with
    | nil => rfl
    | cons c rest =>
      rw [List.nil_append, readAfterDigits, not_mark_of_ends ends]
      · rfl
      · exact not_point_of_ends ends

theorem readLong_append (ends : Ends rest)
    (h : readLong negative significand cs = .ok (n, left)) :
    readLong negative significand (cs ++ rest) = .ok (n, left ++ rest) := by
  have free := not_digit_of_ends ends
  unfold readLong at h ⊢
  simp only [drop_digits] at h ⊢
  simp only [Text.takeWhile_append free, Text.dropWhile_append free]
  split at h
  · rename_i behind point
    obtain ⟨⟨x, after⟩, places, same⟩ := exists_ok_of_bind h
    cases same
    rw [point]
    exact bind_of_ok (readPlaces_append ends places)
  · rename_i noPoint
    obtain ⟨⟨x, after⟩, scale, same⟩ := exists_ok_of_bind h
    cases same
    have longer := readScale_append ends scale
    split
    · -- a point at the front now would stand in `cs` already, since `rest` begins with none
      rename_i behind point
      cases none : cs.dropWhile Char.isDigit with
      | nil =>
        rw [none, List.nil_append] at point
        rw [point] at ends
        exact absurd rfl (not_point_of_ends ends)
      | cons c more =>
        rw [none, List.cons_append] at point
        cases point
        exact absurd none (noPoint more)
    · exact bind_of_ok longer

/-- A number that ends with its text ends there in a longer one. -/
theorem readNumber_append (ends : Ends rest) (h : readNumber negative cs = .ok (n, left)) :
    readNumber negative (cs ++ rest) = .ok (n, left ++ rest) := by
  have free := not_digit_of_ends ends
  unfold readNumber at h
  split at h
  · cases h
  · rename_i c cs
    rw [List.cons_append]
    unfold readNumber
    simp only
    split at h
    · rename_i zero
      rw [if_pos zero]
      split at h
      · split at h
        · cases h
        · rename_i other
          rw [List.cons_append]
          simp only
          rw [if_neg other]
          exact readAfterDigits_append ends h
      · have longer := readAfterDigits_append ends h
        cases rest with
        | nil => exact longer
        | cons d rest =>
          simp only [List.nil_append, free d rfl, Bool.false_eq_true, if_false] at longer ⊢
          exact longer
    · rename_i notZero
      rw [if_neg notZero]
      split at h
      · rename_i digit
        rw [if_pos digit]
        cases taken : takeDigits (c.toNat - 48) 1 cs with
        | mk significand read =>
          obtain ⟨count, behind⟩ := read
          rw [takeDigits_append free taken]
          rw [taken] at h
          simp only at h ⊢
          split at h
          · simp only [List.cons_append]
            split at h
            · rename_i digit
              rw [if_pos digit]
              exact readLong_append ends h
            · rename_i other
              rw [if_neg other]
              exact readAfterDigits_append ends h
          · have longer := readAfterDigits_append ends h
            cases rest with
            | nil => exact longer
            | cons d rest =>
              simp only [List.nil_append, free d rfl, Bool.false_eq_true, if_false] at longer ⊢
              exact longer
      · cases h

end Scaffold.Json
