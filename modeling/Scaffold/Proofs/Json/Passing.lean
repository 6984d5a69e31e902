import Scaffold.Proofs.Json.Spelling
import Scaffold.Proofs.Text.Runs

/-!
# Passing over values

Every JSON value is passed over, however it is nested, and what follows it is left. A number ends
where something else than a number can go on: at a blank, a comma, a closing bracket or the end.
-/

namespace Scaffold.Json

variable {n fuel : Nat} {first : Bool} {c opening closing : Char}
  {text body inner digits whole rest gap lead : List Char} {texts : List (List Char)}

/-- What can follow a value. -/
def Ends (rest : List Char) : Prop :=
  ∀ c ∈ rest.head?, isBlank c = true ∨ c = ',' ∨ c = ']' ∨ c = '\x7d'

theorem not_digit_of_ends (h : Ends rest) : ∀ c ∈ rest.head?, c.isDigit = false := by
  intro c hc
  rcases h c hc with blank | rfl | rfl | rfl
  · simp only [isBlank, Bool.or_eq_true, beq_iff_eq] at blank
    rcases blank with ((rfl | rfl) | rfl) | rfl <;> rfl
  all_goals rfl

theorem ends_cons (h : isBlank c = true ∨ c = ',' ∨ c = ']' ∨ c = '\x7d') (rest : List Char) :
    Ends (c :: rest) := by
  rintro d ⟨⟩
  exact h

theorem ends_blanks (h : Blanks gap) (ends : Ends rest) : Ends (gap ++ rest) := by
  cases gap with
  | nil => exact ends
  | cons c gap => exact ends_cons (.inl (h c List.mem_cons_self)) _

theorem ends_parts (h : Parts false texts inner) (ends : Ends rest) : Ends (inner ++ rest) := by
  cases h with
  | none blanks => exact ends_blanks blanks ends
  | part isLead more =>
    cases isLead with
    | next before after =>
      simp only [List.append_assoc, List.cons_append]
      exact ends_blanks before (ends_cons (.inr (.inl rfl)) _)

/-! ## Strings -/

theorem isBody_ne_u {letter : Char} (h : (simpleEscape? letter).isSome = true) : letter ≠ 'u' := by
  rintro rfl
  cases h

theorem skipChars_body (h : IsBody body) (rest : List Char) (hf : body.length < fuel) :
    skipChars fuel (body ++ '"' :: rest) = .ok rest := by
  induction h generalizing fuel with
  | nil =>
    obtain ⟨fuel, rfl⟩ := Nat.exists_eq_succ_of_ne_zero (Nat.ne_of_gt hf)
    rfl
  | plain isPlain _ ih =>
    obtain ⟨fuel, rfl⟩ := Nat.exists_eq_succ_of_ne_zero (Nat.ne_zero_of_lt hf)
    obtain ⟨printable, notQuote, notBackslash⟩ := isPlain
    rw [List.cons_append, skipChars]
    · rw [if_neg (Nat.not_lt.mpr printable)]
      exact ih (Nat.lt_of_succ_lt_succ hf)
    all_goals simp_all
  | letter escape _ ih =>
    obtain ⟨fuel, rfl⟩ := Nat.exists_eq_succ_of_ne_zero (Nat.ne_zero_of_lt hf)
    have notUnit := isBody_ne_u escape
    rw [List.cons_append, List.cons_append, skipChars]
    · rw [if_pos escape]
      apply ih
      simp only [List.length_cons] at hf
      omega
    · simpa using notUnit
  | unit unit _ ih =>
    obtain ⟨fuel, rfl⟩ := Nat.exists_eq_succ_of_ne_zero (Nat.ne_zero_of_lt hf)
    rw [List.cons_append, List.cons_append, List.append_assoc, skipChars]
    refine (bind_of_ok (readHex4_unit unit _)).trans ?_
    apply ih
    simp only [List.length_cons, List.length_append] at hf
    omega

theorem skipString_body (h : IsBody body) (rest : List Char) :
    skipString (body ++ '"' :: rest) = .ok rest := by
  apply skipChars_body h
  rw [List.length_append]
  omega

/-! ## Numbers -/

theorem skipExponent_power {sign : List Char} (isSign : sign = [] ∨ sign = ['+'] ∨ sign = ['-'])
    (isDigits : IsDigits digits) (ends : ∀ c ∈ rest.head?, c.isDigit = false) :
    skipExponent (sign ++ (digits ++ rest)) = .ok rest := by
  obtain ⟨nonempty, all⟩ := isDigits
  obtain ⟨c, digits, rfl⟩ := List.exists_cons_of_ne_nil nonempty
  have digit : c.isDigit = true := all c List.mem_cons_self
  have dropped := Text.dropWhile_run (fun d hd => all d (List.mem_cons_of_mem c hd)) ends
  have notPlus : c ≠ '+' := by
    rintro rfl
    cases digit
  have notMinus : c ≠ '-' := by
    rintro rfl
    cases digit
  rcases isSign with rfl | rfl | rfl
  · simp [skipExponent, digit, notPlus, notMinus, dropped]
  · simp [skipExponent, digit, dropped]
  · simp [skipExponent, digit, dropped]

theorem not_mark_of_ends (ends : Ends (c :: rest)) : (c == 'e' || c == 'E') = false := by
  rcases ends c rfl with blank | rfl | rfl | rfl
  · simp only [isBlank, Bool.or_eq_true, beq_iff_eq] at blank
    rcases blank with ((rfl | rfl) | rfl) | rfl <;> rfl
  all_goals rfl

theorem not_point_of_ends (ends : Ends (c :: rest)) : c ≠ '.' := by
  rintro rfl
  exact absurd (ends '.' rfl) (by decide)

theorem isMark {mark : Char} (h : mark = 'e' ∨ mark = 'E') : (mark == 'e' || mark == 'E') = true := by
  rcases h with rfl | rfl <;> rfl

theorem not_digit_exponent {exponent : List Char} (h : IsExponent exponent) (ends : Ends rest) :
    ∀ c ∈ (exponent ++ rest).head?, c.isDigit = false := by
  cases h with
  | none => exact not_digit_of_ends ends
  | power isMark _ _ =>
    rintro c ⟨⟩
    rcases isMark with rfl | rfl <;> rfl

theorem fraction_parts {fraction exponent : List Char} (isFraction : IsFraction fraction)
    (isExponent : IsExponent exponent) (ends : Ends rest) :
    skipNumber.fraction (fraction ++ (exponent ++ rest)) = .ok rest := by
  have free := not_digit_of_ends ends
  cases isFraction with
  | none =>
    cases isExponent with
    | none =>
      cases rest with
      | nil => rfl
      | cons c rest =>
        have notMark := not_mark_of_ends ends
        have notPoint := not_point_of_ends ends
        simp only [List.nil_append, skipNumber.fraction, notMark, Bool.false_eq_true, if_false]
    | @power m _ _ mark isSign isDigits =>
      have power := skipExponent_power isSign isDigits free
      have notPoint : m ≠ '.' := by
        rcases mark with rfl | rfl <;> decide
      simp only [List.nil_append, List.cons_append, List.append_assoc, skipNumber.fraction,
        isMark mark, if_true, power]
  | places isDigits =>
    have dropped := Text.dropWhile_run isDigits.2 (not_digit_exponent isExponent ends)
    obtain ⟨d, more, rfl⟩ := List.exists_cons_of_ne_nil isDigits.1
    have digit : d.isDigit = true := isDigits.2 d List.mem_cons_self
    rw [List.cons_append, skipNumber.fraction, dropped]
    cases isExponent with
    | none =>
      cases rest with
      | nil => rfl
      | cons c rest => simp [not_mark_of_ends ends, digit]
    | power mark isSign isDigits =>
      have power := skipExponent_power isSign isDigits free
      simp [isMark mark, digit, power]

theorem skipNumber_whole (isWhole : IsWhole whole) {fraction exponent : List Char}
    (isFraction : IsFraction fraction) (isExponent : IsExponent exponent) (ends : Ends rest) :
    skipNumber (whole ++ (fraction ++ (exponent ++ rest))) = .ok rest := by
  have parts := fraction_parts isFraction isExponent ends
  have behind := not_digit_exponent isExponent ends
  have free : ∀ c ∈ (fraction ++ (exponent ++ rest)).head?, c.isDigit = false := by
    cases isFraction with
    | none => exact behind
    | places _ =>
      rintro c ⟨⟩
      rfl
  cases isWhole with
  | zero =>
    cases tail : fraction ++ (exponent ++ rest) with
    | nil =>
      rw [tail] at parts
      exact parts
    | cons d more =>
      rw [tail] at parts free
      simp only [List.cons_append, List.nil_append, skipNumber, free d rfl, beq_self_eq_true,
        if_true, Bool.false_eq_true, if_false]
      exact parts
  | digits first notZero all =>
    have dropped := Text.dropWhile_run all free
    simp only [List.cons_append, skipNumber, first, if_true, dropped, beq_iff_eq, notZero, if_false]
    exact parts

/-! ## Values -/

/-- The character begins a value: it is no blank and neither ends a list or an object nor goes on
in one. -/
def Opening (c : Char) : Prop := isBlank c = false ∧ c ≠ ']' ∧ c ≠ '\x7d' ∧ c ≠ ','

theorem opens_digit (h : c.isDigit = true) : Opening c := by
  refine ⟨?_, ?_, ?_, ?_⟩
  · rw [← Bool.not_eq_true]
    intro blank
    simp only [isBlank, Bool.or_eq_true, beq_iff_eq] at blank
    rcases blank with ((rfl | rfl) | rfl) | rfl <;> cases h
  all_goals
    rintro rfl
    cases h

def Opens (text : List Char) : Prop := ∃ c more, text = c :: more ∧ Opening c

theorem opens_value (h : IsValue text) : Opens text := by
  cases h with
  | null => exact ⟨'n', _, rfl, by decide, by decide, by decide, by decide⟩
  | true => exact ⟨'t', _, rfl, by decide, by decide, by decide, by decide⟩
  | false => exact ⟨'f', _, rfl, by decide, by decide, by decide, by decide⟩
  | number isNumber =>
    cases isNumber with
    | number isSign isWhole _ _ =>
      rcases isSign with rfl | rfl
      · cases isWhole with
        | zero => exact ⟨'0', _, rfl, by decide, by decide, by decide, by decide⟩
        | digits first _ _ => exact ⟨_, _, rfl, opens_digit first⟩
      · exact ⟨'-', _, rfl, by decide, by decide, by decide, by decide⟩
  | string isString =>
    cases isString
    exact ⟨'"', _, rfl, by decide, by decide, by decide, by decide⟩
  | list _ enclosed =>
    cases enclosed
    exact ⟨'[', _, rfl, by decide, by decide, by decide, by decide⟩
  | object _ _ isObject =>
    cases isObject with
    | braces _ enclosed =>
      cases enclosed
      exact ⟨'\x7b', _, rfl, by decide, by decide, by decide, by decide⟩

theorem isString_cons (h : IsString text) : ∃ more, text = '"' :: more := by
  cases h
  exact ⟨_, rfl⟩

/-- The text is passed over as a value, whatever can follow it. -/
def Passed (text : List Char) : Prop :=
  ∀ fuel blanks rest, Blanks blanks → Ends rest → 2 * text.length ≤ fuel →
    skipValue fuel (blanks ++ (text ++ rest)) = .ok rest

theorem passed_word {letter : Char} {word : List Char}
    (h : ∀ fuel blanks rest, Blanks blanks →
      skipValue (fuel + 1) (blanks ++ letter :: (word ++ rest)) = .ok rest) :
    Passed (letter :: word) := by
  intro fuel blanks rest hb _ hf
  obtain ⟨fuel, rfl⟩ : ∃ n, fuel = n + 1 :=
    Nat.exists_eq_succ_of_ne_zero (by simp only [List.length_cons] at hf; omega)
  exact h fuel blanks rest hb

theorem passed_string (h : IsString text) : Passed text := by
  cases h with
  | quoted isBody =>
    apply passed_word
    intro fuel blanks rest hb
    rw [skipValue, skipBlanks_append_cons hb rfl, List.append_assoc, List.singleton_append]
    exact skipString_body isBody rest

theorem skipValue_digit {blanks more : List Char} (hb : Blanks blanks) (digit : c.isDigit = true)
    (fuel : Nat) : skipValue (fuel + 1) (blanks ++ c :: more) = skipNumber (c :: more) := by
  rw [skipValue, skipBlanks_append_cons hb (opens_digit digit).1]
  split
  all_goals
    rename_i same
    cases same
  any_goals cases digit
  rw [if_pos digit]

theorem isWhole_cons (h : IsWhole whole) : ∃ d more, whole = d :: more ∧ d.isDigit = true := by
  cases h with
  | zero => exact ⟨'0', [], rfl, rfl⟩
  | digits first _ _ => exact ⟨_, _, rfl, first⟩

theorem passed_number (h : IsNumber text) : Passed text := by
  intro fuel blanks rest hb ends hf
  cases h with
  | number isSign isWhole isFraction isExponent =>
    have read := skipNumber_whole isWhole isFraction isExponent ends
    obtain ⟨d, more, rfl, digit⟩ := isWhole_cons isWhole
    obtain ⟨fuel, rfl⟩ : ∃ n, fuel = n + 1 :=
      Nat.exists_eq_succ_of_ne_zero (by simp at hf; omega)
    rcases isSign with rfl | rfl
    · simp only [List.nil_append, List.cons_append, List.append_assoc] at read ⊢
      rw [skipValue_digit hb digit]
      exact read
    · simp only [List.nil_append, List.cons_append, List.append_assoc] at read ⊢
      rw [skipValue, skipBlanks_append_cons hb rfl]
      exact read

theorem skipBlanks_lead (h : Lead true lead) (hc : Opening c) (rest : List Char) :
    skipBlanks (lead ++ c :: rest) = c :: rest := by
  cases h with
  | first blanks => exact skipBlanks_append_cons blanks hc.1 rest

theorem length_le_of_parts (h : Parts first texts inner) (nonempty : ∀ t ∈ texts, t ≠ []) :
    texts.length ≤ inner.length := by
  induction h with
  | none blanks => exact Nat.zero_le _
  | @part _ _ text _ _ _ _ ih =>
    have pos : 0 < text.length := List.length_pos_iff.mpr (nonempty text List.mem_cons_self)
    have later := ih fun t ht => nonempty t (List.mem_cons_of_mem _ ht)
    simp only [List.length_cons, List.length_append]
    omega

theorem skipItems_parts (head : Passed text) (h : Parts false texts inner)
    (each : ∀ t ∈ texts, Passed t) {blanks : List Char} (hb : Blanks blanks) (rest : List Char)
    (hf : 2 * (text.length + inner.length) < fuel) :
    skipItems fuel (blanks ++ (text ++ (inner ++ ']' :: rest))) = .ok rest := by
  -- `text` has been met already: the induction is on the parts behind it
  generalize hfirst : false = first at h
  induction h generalizing text blanks fuel with
  | none gap =>
    obtain ⟨fuel, rfl⟩ := Nat.exists_eq_succ_of_ne_zero (Nat.ne_zero_of_lt hf)
    have closing := ends_blanks gap (ends_cons (c := ']') (by decide) rest)
    rw [skipItems, bind_of_ok (head fuel blanks _ hb closing (by omega)),
      skipBlanks_append_cons gap rfl]
    rfl
  | @part _ _ next inner _ lead more ih =>
    subst hfirst
    obtain ⟨fuel, rfl⟩ := Nat.exists_eq_succ_of_ne_zero (Nat.ne_zero_of_lt hf)
    cases lead with
    | @next before after gap gap' =>
      have comma := ends_blanks gap (ends_cons (c := ',') (by decide)
        (after ++ (next ++ (inner ++ ']' :: rest))))
      simp only [List.append_assoc, List.cons_append, List.length_append, List.length_cons] at hf ⊢
      rw [skipItems, bind_of_ok (head fuel blanks _ hb comma (by omega)),
        skipBlanks_append_cons gap rfl]
      exact ih (each next List.mem_cons_self) (fun t ht => each t (List.mem_cons_of_mem _ ht)) gap'
        (by omega) rfl

theorem passed_list (each : ∀ t ∈ texts, Passed t) (opens : ∀ t ∈ texts, Opens t)
    (enclosed : Enclosed '[' ']' texts text) : Passed text := by
  intro fuel blanks rest hb ends hf
  cases enclosed with
  | brackets parts =>
    obtain ⟨fuel, rfl⟩ : ∃ n, fuel = n + 1 :=
      Nat.exists_eq_succ_of_ne_zero (by simp at hf; omega)
    simp only [List.cons_append, List.append_assoc, List.nil_append, List.length_cons,
      List.length_append, List.length_nil] at hf ⊢
    rw [skipValue, skipBlanks_append_cons hb rfl]
    cases parts with
    | none gap =>
      simp only [skipBlanks_append_cons gap (c := ']') rfl]
    | @part _ _ item inner _ lead more =>
      obtain ⟨c, behind, rfl, opening⟩ := opens item List.mem_cons_self
      have enough : 2 * ((c :: behind).length + inner.length) < fuel := by
        simp only [List.length_cons, List.length_append] at hf ⊢
        omega
      have items := skipItems_parts (each _ List.mem_cons_self) more
        (fun t ht => each t (List.mem_cons_of_mem _ ht)) blanks_nil rest enough
      simp only [List.append_assoc, List.cons_append, skipBlanks_lead lead opening]
      split
      · rename_i same
        cases same
        exact absurd rfl opening.2.1
      · rename_i same
        cases same
      · exact items

theorem skipMembers_member {key value tail lead pair : List Char} (isString : IsString key)
    (passed : Passed value) (isMember : IsMember (key, value) pair) (hb : Blanks lead)
    (ends : Ends tail) (hf : 2 * value.length ≤ fuel) :
    (skipBlanks tail = ',' :: rest →
      skipMembers (fuel + 1) (lead ++ (pair ++ tail)) = skipMembers fuel rest) ∧
    (skipBlanks tail = '\x7d' :: rest →
      skipMembers (fuel + 1) (lead ++ (pair ++ tail)) = .ok rest) := by
  cases isMember with
  | @pair _ _ before after gap gap' =>
    cases isString with
    | quoted isBody =>
      simp only [List.cons_append, List.append_assoc, List.nil_append]
      rw [skipMembers, skipBlanks_append_cons hb rfl]
      simp only
      rw [bind_of_ok (skipString_body isBody _), skipBlanks_append_cons gap rfl]
      simp only
      rw [bind_of_ok (passed fuel after tail gap' ends hf)]
      constructor
      · intro next
        rw [next]
        rfl
      · intro last
        rw [last]
        rfl

theorem member_length {m : Member} (h : IsMember m text) : m.2.length < text.length := by
  cases h
  simp only [List.length_append, List.length_cons]
  omega

theorem skipMembers_parts {m : Member} {members : List Member} (isMember : IsMember m text)
    (head : IsString m.1 ∧ Passed m.2) (h : Parts false texts inner)
    (pairs : List.Forall₂ IsMember members texts)
    (each : ∀ m ∈ members, IsString m.1 ∧ Passed m.2) {blanks : List Char} (hb : Blanks blanks)
    (rest : List Char) (hf : 2 * (text.length + inner.length) < fuel) :
    skipMembers fuel (blanks ++ (text ++ (inner ++ '\x7d' :: rest))) = .ok rest := by
  have shorter := member_length isMember
  -- one round is taken off before the induction, each case then hands the next one on
  obtain ⟨fuel, rfl⟩ := Nat.exists_eq_succ_of_ne_zero (Nat.ne_zero_of_lt hf)
  generalize hfirst : false = first at h
  induction h generalizing text blanks fuel m members with
  | none gap =>
    have closing := ends_blanks gap (ends_cons (c := '\x7d') (by decide) rest)
    exact (skipMembers_member head.1 head.2 isMember hb closing (by omega)).2
      (skipBlanks_append_cons gap rfl _)
  | @part _ _ next inner _ lead more ih =>
    subst hfirst
    cases lead with
    | @next before after gap gap' =>
      have comma := ends_blanks gap (ends_cons (c := ',') (by decide)
        (after ++ (next ++ (inner ++ '\x7d' :: rest))))
      simp only [List.append_assoc, List.cons_append, List.length_append, List.length_cons] at hf ⊢
      rw [(skipMembers_member head.1 head.2 isMember hb comma (by omega)).1
        (skipBlanks_append_cons gap rfl _)]
      cases pairs with
      | @cons m' _ members _ isMember' pairs =>
        have shorter := member_length isMember'
        obtain ⟨fuel, rfl⟩ : ∃ n, fuel = n + 1 := Nat.exists_eq_succ_of_ne_zero (by omega)
        exact ih isMember' (each m' List.mem_cons_self) pairs
          (fun m hm => each m (List.mem_cons_of_mem _ hm)) gap' shorter fuel (by omega) rfl

theorem passed_object {members : List Member} (each : ∀ m ∈ members, IsString m.1 ∧ Passed m.2)
    (isObject : IsObject members text) : Passed text := by
  intro fuel blanks rest hb ends hf
  cases isObject with
  | braces pairs enclosed =>
    cases enclosed with
    | brackets parts =>
      obtain ⟨fuel, rfl⟩ : ∃ n, fuel = n + 1 :=
        Nat.exists_eq_succ_of_ne_zero (by simp at hf; omega)
      simp only [List.cons_append, List.append_assoc, List.nil_append, List.length_cons,
        List.length_append, List.length_nil] at hf ⊢
      rw [skipValue, skipBlanks_append_cons hb rfl]
      cases parts with
      | none gap => simp only [skipBlanks_append_cons gap (c := '\x7d') rfl]
      | @part _ _ item inner _ lead more =>
        cases pairs with
        | @cons m _ members _ isMember pairs =>
          have enough : 2 * (item.length + inner.length) < fuel := by
            simp only [List.length_append] at hf
            omega
          have members := skipMembers_parts isMember (each m List.mem_cons_self) more pairs
            (fun m hm => each m (List.mem_cons_of_mem _ hm)) blanks_nil rest enough
          obtain ⟨behind, quoted⟩ : ∃ behind, item = '"' :: behind := by
            cases isMember with
            | pair _ _ =>
              obtain ⟨behind, same⟩ := isString_cons (each _ List.mem_cons_self).1
              exact ⟨_, congrArg (· ++ _) same⟩
          subst quoted
          have opening : Opening '"' := ⟨by decide, by decide, by decide, by decide⟩
          simp only [List.append_assoc, List.cons_append, skipBlanks_lead lead opening]
          exact members

theorem passed_value (h : IsValue text) : Passed text := by
  induction h with
  | null =>
    apply passed_word
    intro fuel blanks rest hb
    rw [skipValue, skipBlanks_append_cons hb rfl]
    rfl
  | true =>
    apply passed_word
    intro fuel blanks rest hb
    rw [skipValue, skipBlanks_append_cons hb rfl]
    rfl
  | false =>
    apply passed_word
    intro fuel blanks rest hb
    rw [skipValue, skipBlanks_append_cons hb rfl]
    rfl
  | number isNumber => exact passed_number isNumber
  | string isString => exact passed_string isString
  | list each enclosed ih =>
    exact passed_list ih (fun t ht => opens_value (each t ht)) enclosed
  | object keys _ isObject ih => exact passed_object (fun m hm => ⟨keys m hm, ih m hm⟩) isObject

theorem skip_value (h : IsValue text) {blanks : List Char} (hb : Blanks blanks) (ends : Ends rest) :
    skip (blanks ++ (text ++ rest)) = .ok ((), rest) := by
  have passed := passed_value h (2 * (blanks ++ (text ++ rest)).length + 2) blanks rest hb ends (by
    simp only [List.length_append]
    omega)
  rw [skip, passed]
  rfl

end Scaffold.Json
