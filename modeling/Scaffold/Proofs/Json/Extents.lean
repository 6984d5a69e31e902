import Scaffold.Proofs.Json.Numbers

/-!
# The extent of a number

A number that is read off the front of a text is written as numbers are, and from its own text alone
the same number is read. So the text behind it has no part in what the number is.
-/

namespace Scaffold.Json

variable {negative : Bool} {significand count significand' count' value : Nat} {exponent : Int}
  {x : Binary} {n : Number} {cs left rest text : List Char}

/-- What is read is read off a text of the form, and from this text alone it is the same. -/
def Cuts {ε α : Type} (read : List Char → Except ε (α × List Char)) (Form : List Char → Prop) :
    Prop :=
  ∀ cs a rest, read cs = .ok (a, rest) →
    ∃ text, cs = text ++ rest ∧ Form text ∧ read text = .ok (a, [])

/-! ## Digits -/

/-- How many digits are taken depends on the next digit only. -/
theorem takeDigits_split (h : takeDigits significand count cs = (significand', count', left)) :
    ∃ taken, cs = taken ++ left ∧ (∀ c ∈ taken, c.isDigit = true) ∧ count' = count + taken.length ∧
      ∀ other, (∀ c ∈ other.head?, c.isDigit = true → c ∈ left.head?) →
        takeDigits significand count (taken ++ other) = (significand', count', other) := by
  -- digits are left only if no more of them fit, so what may follow depends on the first one left
  induction cs generalizing significand count with
  | nil =>
    cases h
    refine ⟨[], rfl, List.forall_mem_nil _, rfl, fun other same => ?_⟩
    cases other with
    | nil => rfl
    | cons d other =>
      rw [List.nil_append, takeDigits, if_neg]
      intro taken
      cases same d rfl (Bool.and_eq_true_iff.mp taken).1
  | cons c cs ih =>
    rw [takeDigits] at h
    split at h
    · rename_i fits
      obtain ⟨taken, rfl, digits, length, again⟩ := ih h
      refine ⟨c :: taken, rfl, ?_, ?_, fun other same => ?_⟩
      · exact List.forall_mem_cons.mpr ⟨(Bool.and_eq_true_iff.mp fits).1, digits⟩
      · rw [length, List.length_cons]
        omega
      · rw [List.cons_append, takeDigits, if_pos fits]
        exact again other same
    · rename_i full
      cases h
      refine ⟨[], rfl, List.forall_mem_nil _, rfl, fun other same => ?_⟩
      cases other with
      | nil => rfl
      | cons d other =>
        rw [List.nil_append, takeDigits, if_neg]
        intro taken
        cases same d rfl (Bool.and_eq_true_iff.mp taken).1
        exact full taken

theorem exponentDigits_split {read : Option Nat} (h : exponentDigits value cs = (read, left)) :
    ∃ taken, cs = taken ++ left ∧ (∀ c ∈ taken, c.isDigit = true) ∧
      ∀ other, (∀ c ∈ other.head?, c.isDigit = true → read = none) →
        exponentDigits value (taken ++ other) = (read, other) := by
  induction cs generalizing value with
  | nil =>
    cases h
    refine ⟨[], rfl, List.forall_mem_nil _, fun other free => ?_⟩
    cases other with
    | nil => rfl
    | cons d other =>
      rw [List.nil_append, exponentDigits, if_neg]
      intro digit
      cases free d rfl digit
  | cons c cs ih =>
    rw [exponentDigits] at h
    split at h
    · rename_i digit
      simp only at h
      split at h
      · rename_i small
        obtain ⟨taken, rfl, digits, again⟩ := ih h
        refine ⟨c :: taken, rfl, List.forall_mem_cons.mpr ⟨digit, digits⟩, fun other free => ?_⟩
        rw [List.cons_append, exponentDigits, if_pos digit]
        simp only [if_pos small]
        exact again other free
      · rename_i large
        cases h
        refine ⟨[c], rfl, List.forall_mem_singleton.mpr digit, fun other _ => ?_⟩
        rw [List.singleton_append, exponentDigits, if_pos digit]
        simp only [if_neg large]
    · rename_i noDigit
      cases h
      refine ⟨[], rfl, List.forall_mem_nil _, fun other free => ?_⟩
      cases other with
      | nil => rfl
      | cons d other =>
        rw [List.nil_append, exponentDigits, if_neg]
        intro digit
        cases free d rfl digit

theorem isDigits_cons {c : Char} {digits : List Char} (first : c.isDigit = true)
    (all : ∀ d ∈ digits, d.isDigit = true) : IsDigits (c :: digits) :=
  ⟨List.cons_ne_nil c digits, List.forall_mem_cons.mpr ⟨first, all⟩⟩

/-! ## Exponents -/

theorem cuts_power (minus : Bool) :
    Cuts (readPower negative minus significand exponent) IsDigits := by
  intro cs x rest h
  cases cs with
  | nil => cases h
  | cons c cs =>
    rw [readPower] at h
    split at h
    · cases h
    · rename_i digit
      have first : c.isDigit = true := by simpa using digit
      split at h
      · rename_i value behind read
        obtain ⟨taken, rfl, digits, again⟩ := exponentDigits_split read
        obtain ⟨y, parts, same⟩ := exists_ok_of_bind h
        cases same
        have alone := again [] (by simp)
        rw [List.append_nil] at alone
        refine ⟨c :: taken, rfl, isDigits_cons first digits, ?_⟩
        rw [readPower, if_neg digit, alone]
        exact bind_of_ok (ofParts_rest parts [])
      · rename_i behind read
        obtain ⟨taken, rfl, digits, again⟩ := exponentDigits_split read
        split at h
        · cases h
        · rename_i small
          cases h
          -- an exponent that is out of bounds has all its further digits passed over
          have more : ∀ c ∈ behind.takeWhile Char.isDigit, c.isDigit = true :=
            fun _ => List.mem_takeWhile_imp
          have none : (behind.takeWhile Char.isDigit).dropWhile Char.isDigit = [] :=
            List.dropWhile_eq_nil_iff.mpr more
          refine ⟨c :: (taken ++ behind.takeWhile Char.isDigit), ?_,
            isDigits_cons first (List.forall_mem_append.mpr ⟨digits, more⟩), ?_⟩
          · rw [List.cons_append, List.append_assoc, List.takeWhile_append_dropWhile]
          · rw [readPower, if_neg digit, again _ fun _ _ _ => rfl]
            simp only [if_neg small, none]

def IsPower (text : List Char) : Prop :=
  ∃ sign digits, text = sign ++ digits ∧ (sign = [] ∨ sign = ['+'] ∨ sign = ['-']) ∧ IsDigits digits

theorem isExponent_power {mark : Char} (isMark : (mark == 'e' || mark == 'E') = true)
    (h : IsPower text) : IsExponent (mark :: text) := by
  obtain ⟨sign, digits, rfl, isSign, isDigits⟩ := h
  exact .power (by simpa using isMark) isSign isDigits

theorem cuts_exponent : Cuts (readExponent negative significand exponent) IsPower := by
  intro cs x rest h
  cases cs with
  | nil => cases h
  | cons c cs =>
    by_cases plus : c = '+'
    · subst plus
      rw [readExponent_plus] at h
      obtain ⟨text, rfl, digits, alone⟩ := cuts_power _ _ _ _ h
      exact ⟨'+' :: text, rfl, ⟨['+'], text, rfl, .inr (.inl rfl), digits⟩,
        readExponent_plus.trans alone⟩
    by_cases minus : c = '-'
    · subst minus
      rw [readExponent_minus] at h
      obtain ⟨text, rfl, digits, alone⟩ := cuts_power _ _ _ _ h
      exact ⟨'-' :: text, rfl, ⟨['-'], text, rfl, .inr (.inr rfl), digits⟩,
        readExponent_minus.trans alone⟩
    rw [readExponent_unsigned plus minus] at h
    obtain ⟨text, same, digits, alone⟩ := cuts_power _ _ _ _ h
    obtain ⟨d, more, rfl⟩ := List.exists_cons_of_ne_nil digits.1
    cases same
    exact ⟨c :: more, rfl, ⟨[], c :: more, rfl, .inl rfl, digits⟩,
      (readExponent_unsigned plus minus).trans alone⟩

theorem cuts_scale : Cuts (readScale negative significand exponent) IsExponent := by
  intro cs x rest h
  have nothing : (do let x ← ofParts negative significand exponent cs; .ok (x, cs)) =
      (.ok (x, rest) : Except Failure _) →
      ∃ text, cs = text ++ rest ∧ IsExponent text ∧
        readScale negative significand exponent text = .ok (x, []) := by
    intro h
    obtain ⟨y, parts, same⟩ := exists_ok_of_bind h
    cases same
    exact ⟨[], rfl, .none, bind_of_ok (ofParts_rest parts [])⟩
  cases cs with
  | nil => exact nothing h
  | cons c cs =>
    rw [readScale] at h
    split at h
    · rename_i mark
      obtain ⟨text, rfl, power, alone⟩ := cuts_exponent _ _ _ h
      refine ⟨c :: text, rfl, isExponent_power mark power, ?_⟩
      rw [readScale, if_pos mark]
      exact alone
    · exact nothing h

/-! ## Fractions -/

theorem not_digit_of_exponent (h : IsExponent text) : ∀ c ∈ text.head?, c.isDigit = false := by
  have ends : Ends [] := fun c head => nomatch head
  have free := not_digit_exponent h ends
  rwa [List.append_nil] at free

def IsScaled (text : List Char) : Prop :=
  ∃ digits exponent, text = digits ++ exponent ∧ IsDigits digits ∧ IsExponent exponent

theorem readPlaces_of_taken {taken : List Char}
    (again : takeDigits significand 0 (taken ++ text) = (significand', count, text))
    (free : ∀ c ∈ text.head?, c.isDigit = false) (some : ¬ (count == 0) = true) :
    readPlaces negative significand exponent (taken ++ text) =
      readScale negative significand' (exponent - count) text := by
  rw [readPlaces, again]
  cases text with
  | nil => exact if_neg some
  | cons c text =>
    simp only [free c rfl, Bool.false_eq_true, if_false]
    exact if_neg some

theorem cuts_places : Cuts (readPlaces negative significand exponent) IsScaled := by
  intro cs x rest h
  cases read : takeDigits significand 0 cs with
  | mk significand' more =>
    obtain ⟨count, behind⟩ := more
    obtain ⟨taken, rfl, digits, length, again⟩ := takeDigits_split read
    rw [readPlaces, read] at h
    simp only at h
    -- the digits that count are all there are
    have short : ¬ (count == 0) = true →
        readScale negative significand' (exponent - count) behind = .ok (x, rest) →
        ∃ text, taken ++ behind = text ++ rest ∧ IsScaled text ∧
          readPlaces negative significand exponent text = .ok (x, []) := by
      intro some h
      obtain ⟨text, rfl, isExponent, alone⟩ := cuts_scale _ _ _ h
      have free := not_digit_of_exponent isExponent
      refine ⟨taken ++ text, (List.append_assoc ..).symm, ⟨taken, text, rfl, ⟨?_, digits⟩,
        isExponent⟩, ?_⟩
      · rintro rfl
        exact some (beq_iff_eq.mpr length)
      · rw [readPlaces_of_taken (again text ?_) free some]
        · exact alone
        · intro c head digit
          cases digit.symm.trans (free c head)
    split at h
    · rename_i c after
      split at h
      · rename_i digit
        obtain ⟨text, same, isExponent, alone⟩ := cuts_scale _ _ _ h
        have free := not_digit_of_exponent isExponent
        obtain ⟨more, run⟩ : ∃ more, more = (c :: after).takeWhile Char.isDigit := ⟨_, rfl⟩
        have all : ∀ d ∈ more, d.isDigit = true := fun d hd => List.mem_takeWhile_imp (run ▸ hd)
        have whole : c :: after = more ++ (text ++ rest) := by
          rw [run, ← same, List.takeWhile_append_dropWhile]
        have first : more = c :: after.takeWhile Char.isDigit := by
          rw [run, List.takeWhile_cons_of_pos digit]
        refine ⟨taken ++ (more ++ text), ?_, ⟨taken ++ more, text, ?_, ⟨?_, ?_⟩, isExponent⟩, ?_⟩
        · rw [whole, List.append_assoc, List.append_assoc]
        · rw [List.append_assoc]
        · rw [first]
          exact List.append_ne_nil_of_right_ne_nil _ (List.cons_ne_nil _ _)
        · exact List.forall_mem_append.mpr ⟨digits, all⟩
        · rw [readPlaces, again (more ++ text) ?_]
          · have dropped := Text.dropWhile_run all free
            rw [first, List.cons_append] at dropped ⊢
            simp only [digit, if_true, dropped]
            exact alone
          · rw [first]
            rintro d ⟨⟩ -
            rfl
      · split at h
        · cases h
        · rename_i some
          exact short some h
    · split at h
      · cases h
      · rename_i some
        exact short some h

/-- What may stand behind the whole part of a number. -/
def IsTail (text : List Char) : Prop :=
  ∃ fraction exponent, text = fraction ++ exponent ∧ IsFraction fraction ∧ IsExponent exponent

theorem isTail_of_scaled (h : IsScaled text) : IsTail ('.' :: text) := by
  obtain ⟨digits, exponent, rfl, isDigits, isExponent⟩ := h
  exact ⟨'.' :: digits, exponent, rfl, .places isDigits, isExponent⟩

theorem isTail_of_exponent (h : IsExponent text) : IsTail text := ⟨[], text, rfl, .none, h⟩

theorem not_digit_of_tail (h : IsTail text) : ∀ c ∈ text.head?, c.isDigit = false := by
  obtain ⟨fraction, exponent, rfl, isFraction, isExponent⟩ := h
  cases isFraction with
  | none => exact not_digit_of_exponent isExponent
  | places _ =>
    rintro c ⟨⟩
    rfl

theorem cuts_afterDigits : Cuts (readAfterDigits negative significand) IsTail := by
  intro cs n rest h
  unfold readAfterDigits at h
  split at h
  · obtain ⟨⟨x, behind⟩, places, same⟩ := exists_ok_of_bind h
    cases same
    obtain ⟨text, rfl, isScaled, alone⟩ := cuts_places _ _ _ places
    exact ⟨'.' :: text, rfl, isTail_of_scaled isScaled, bind_of_ok alone⟩
  · rename_i c cs notPoint
    split at h
    · rename_i mark
      obtain ⟨⟨x, behind⟩, power, same⟩ := exists_ok_of_bind h
      cases same
      obtain ⟨text, rfl, isPower, alone⟩ := cuts_exponent _ _ _ power
      refine ⟨c :: text, rfl, isTail_of_exponent (isExponent_power mark isPower), ?_⟩
      rw [readAfterDigits, if_pos mark]
      · exact bind_of_ok alone
      · exact notPoint
    · cases h
      exact ⟨[], rfl, isTail_of_exponent .none, rfl⟩
  · cases h
    exact ⟨[], rfl, isTail_of_exponent .none, rfl⟩

/-! ## Whole numbers -/

theorem readLong_places {digits : List Char} (all : ∀ c ∈ digits, c.isDigit = true) :
    readLong negative significand (digits ++ '.' :: text) = (do
      let (x, rest) ← readPlaces negative significand digits.length text
      .ok (.float x, rest)) := by
  have free : ∀ c ∈ ('.' :: text).head?, c.isDigit = false := by
    rintro c ⟨⟩
    rfl
  unfold readLong
  simp only [Text.takeWhile_run all free, List.drop_left]
  rfl

theorem readLong_scale {digits : List Char} (all : ∀ c ∈ digits, c.isDigit = true)
    (isExponent : IsExponent text) :
    readLong negative significand (digits ++ text) = (do
      let (x, rest) ← readScale negative significand digits.length text
      .ok (.float x, rest)) := by
  have free := not_digit_of_exponent isExponent
  unfold readLong
  simp only [Text.takeWhile_run all free, List.drop_left]
  split
  · cases isExponent with
    | power isMark => rcases isMark with isMark | isMark <;> cases isMark
  · rfl

theorem readLong_split {d : Char} (first : d.isDigit = true)
    (h : readLong negative significand (d :: left) = .ok (n, rest)) :
    ∃ more tail, left = more ++ (tail ++ rest) ∧ (∀ c ∈ more, c.isDigit = true) ∧ IsTail tail ∧
      readLong negative significand (d :: (more ++ tail)) = .ok (n, []) := by
  have parts := @List.takeWhile_append_dropWhile _ Char.isDigit left
  have all : ∀ c ∈ d :: left.takeWhile Char.isDigit, c.isDigit = true :=
    List.forall_mem_cons.mpr ⟨first, fun _ => List.mem_takeWhile_imp⟩
  unfold readLong at h
  simp only [drop_digits] at h
  simp only [List.takeWhile_cons_of_pos first, List.dropWhile_cons_of_pos first] at h
  split at h
  · rename_i behind point
    obtain ⟨⟨x, after⟩, places, same⟩ := exists_ok_of_bind h
    cases same
    obtain ⟨text, rfl, isScaled, alone⟩ := cuts_places _ _ _ places
    refine ⟨left.takeWhile Char.isDigit, '.' :: text, ?_, (List.forall_mem_cons.mp all).2,
      isTail_of_scaled isScaled, (readLong_places all).trans (bind_of_ok alone)⟩
    rw [List.cons_append, ← point, parts]
  · obtain ⟨⟨x, after⟩, scale, same⟩ := exists_ok_of_bind h
    cases same
    obtain ⟨text, same, isExponent, alone⟩ := cuts_scale _ _ _ scale
    refine ⟨left.takeWhile Char.isDigit, text, ?_, (List.forall_mem_cons.mp all).2,
      isTail_of_exponent isExponent, (readLong_scale all isExponent).trans (bind_of_ok alone)⟩
    rw [← same, parts]

def IsUnsigned (text : List Char) : Prop :=
  ∃ whole tail, text = whole ++ tail ∧ IsWhole whole ∧ IsTail tail

/-- A whole number of which the first digits are taken into the significand, and the next digit is
not if there is one. -/
structure Taken (c : Char) (taken : List Char) (significand count : Nat) (left : List Char) :
    Prop where
  notZero : ¬ (c == '0') = true
  first : c.isDigit = true
  digits : ∀ d ∈ taken, d.isDigit = true
  again : ∀ other, (∀ d ∈ other.head?, d.isDigit = true → d ∈ left.head?) →
    takeDigits (c.toNat - 48) 1 (taken ++ other) = (significand, count, other)

namespace Taken

variable {c : Char} {taken : List Char}

theorem isWhole (h : Taken c taken significand count left) {more : List Char}
    (all : ∀ d ∈ more, d.isDigit = true) : IsWhole (c :: (taken ++ more)) :=
  .digits h.first (by simpa using h.notZero) (List.forall_mem_append.mpr ⟨h.digits, all⟩)

/-- In front of what is no digit the significand is the whole number. -/
theorem readNumber_eq (h : Taken c taken significand count left)
    (free : ∀ d ∈ text.head?, d.isDigit = false) :
    readNumber negative (c :: (taken ++ text)) = readAfterDigits negative significand text := by
  have again := h.again text fun d head digit => by
    cases digit.symm.trans (free d head)
  simp only [readNumber, if_neg h.notZero, if_pos h.first, again]
  cases text with
  | nil => rfl
  | cons d text => simp only [free d rfl, Bool.false_eq_true, if_false]

theorem readNumber_long {d : Char} {text : List Char}
    (h : Taken c taken significand count (d :: left)) (further : d.isDigit = true) :
    readNumber negative (c :: (taken ++ d :: text)) =
      readLong negative significand (d :: text) := by
  have again := h.again (d :: text) fun e head _ => head
  simp only [readNumber, if_neg h.notZero, if_pos h.first, again, if_pos further]

theorem cuts_short (h : Taken c taken significand count left)
    (read : readAfterDigits negative significand left = .ok (n, rest)) :
    ∃ text, c :: (taken ++ left) = text ++ rest ∧ IsUnsigned text ∧
      readNumber negative text = .ok (n, []) := by
  obtain ⟨text, rfl, isTail, alone⟩ := cuts_afterDigits _ _ _ read
  have isWhole := h.isWhole (List.forall_mem_nil _)
  rw [List.append_nil] at isWhole
  refine ⟨c :: (taken ++ text), by simp, ⟨c :: taken, text, rfl, isWhole, isTail⟩, ?_⟩
  rw [h.readNumber_eq (not_digit_of_tail isTail), alone]

theorem cuts_long {d : Char} (h : Taken c taken significand count (d :: left))
    (further : d.isDigit = true)
    (read : readLong negative significand (d :: left) = .ok (n, rest)) :
    ∃ text, c :: (taken ++ d :: left) = text ++ rest ∧ IsUnsigned text ∧
      readNumber negative text = .ok (n, []) := by
  obtain ⟨more, tail, rfl, all, isTail, alone⟩ := readLong_split further read
  have isWhole := h.isWhole (List.forall_mem_cons.mpr ⟨further, all⟩)
  refine ⟨c :: (taken ++ d :: (more ++ tail)), by simp,
    ⟨c :: (taken ++ d :: more), tail, by simp, isWhole, isTail⟩, ?_⟩
  rw [h.readNumber_long further, alone]

end Taken

theorem readNumber_zero (free : ∀ c ∈ text.head?, c.isDigit = false) :
    readNumber negative ('0' :: text) = readAfterDigits negative 0 text := by
  cases text with
  | nil => rfl
  | cons d text =>
    simp only [readNumber, free d rfl, beq_self_eq_true, Bool.false_eq_true, if_true, if_false]

/-- A number is read off a text that is written like one, whatever follows it. -/
theorem cuts_number : Cuts (readNumber negative) IsUnsigned := by
  intro cs n rest h
  unfold readNumber at h
  split at h
  · cases h
  rename_i c cs
  split at h
  · rename_i zero
    obtain rfl := beq_iff_eq.mp zero
    have behind : readAfterDigits negative 0 cs = .ok (n, rest) := by
      split at h
      · split at h
        · cases h
        · exact h
      · exact h
    obtain ⟨text, rfl, isTail, alone⟩ := cuts_afterDigits _ _ _ behind
    exact ⟨'0' :: text, rfl, ⟨['0'], text, rfl, .zero, isTail⟩,
      (readNumber_zero (not_digit_of_tail isTail)).trans alone⟩
  rename_i notZero
  split at h
  · rename_i digit
    cases read : takeDigits (c.toNat - 48) 1 cs with
    | mk significand more =>
      obtain ⟨count, left⟩ := more
      obtain ⟨taken, rfl, digits, -, again⟩ := takeDigits_split read
      have front : Taken c taken significand count left := ⟨notZero, digit, digits, again⟩
      rw [read] at h
      simp only at h
      split at h
      · split at h
        · rename_i further
          exact front.cuts_long further h
        · exact front.cuts_short h
      · exact front.cuts_short h
  · cases h

theorem isNumber_of_unsigned (h : IsUnsigned text) : IsNumber text ∧ IsNumber ('-' :: text) := by
  obtain ⟨whole, _, rfl, isWhole, fraction, exponent, rfl, isFraction, isExponent⟩ := h
  exact ⟨.number (.inl rfl) isWhole isFraction isExponent,
    .number (.inr rfl) isWhole isFraction isExponent⟩

end Scaffold.Json
