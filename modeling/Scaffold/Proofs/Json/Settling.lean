import Scaffold.Proofs.Json.Layout
import Scaffold.Text.Utf8

/-!
# Readers settle on values

A reader settles if every JSON value is either taken by it as a whole or fails whatever follows, so
that it never stops in the middle of a value. The readers for texts and names settle.
-/

namespace Scaffold.Json

variable {α : Type} {text body inner digits : List Char} {texts : List (List Char)} {first : Bool}

def Fails (reader : Reader α) (text : List Char) : Prop :=
  ∀ blanks rest, Blanks blanks → ∃ failure, reader (blanks ++ (text ++ rest)) = .error failure

def Settles (reader : Reader α) : Prop :=
  ∀ text, IsValue text → (∃ a, Takes reader text a) ∨ Fails reader text

theorem not_takes_of_fails {reader : Reader α} (h : Fails reader text) (a : α) :
    ¬Takes reader text a := by
  intro taken
  obtain ⟨failure, fails⟩ := h [] [] blanks_nil
  rw [taken [] [] blanks_nil] at fails
  cases fails

theorem bind_of_error {ε β : Type} {result : Except ε α} {next : α → Except ε β}
    (h : ∃ failure, result = .error failure) : ∃ failure, (result >>= next) = .error failure := by
  obtain ⟨failure, rfl⟩ := h
  exact ⟨failure, rfl⟩

theorem bind_of_ok_error {ε β : Type} {result : Except ε α} {next : α → Except ε β} {a : α}
    (h : result = .ok a) (h' : ∃ failure, next a = .error failure) :
    ∃ failure, (result >>= next) = .error failure := by
  subst h
  exact h'

theorem bind_always_error {ε β : Type} (result : Except ε α) {next : α → Except ε β}
    (h : ∀ a, ∃ failure, next a = .error failure) : ∃ failure, (result >>= next) = .error failure := by
  cases result with
  | error failure => exact ⟨failure, rfl⟩
  | ok a => exact h a

theorem Settles.map {β : Type} {reader : Reader α} (h : Settles reader) (f : α → β) :
    Settles (fun cs => do let (v, cs) ← reader cs; .ok (f v, cs)) := by
  intro text value
  rcases h text value with ⟨a, taken⟩ | fails
  · exact .inl ⟨f a, taken.map f⟩
  · exact .inr fun blanks rest hb => bind_of_error (fails blanks rest hb)

theorem unexpected_error (expected : String) (cs : List Char) :
    ∃ failure, (unexpected expected cs : Except Failure α) = .error failure := by
  unfold unexpected
  split
  case h_6 => exact ⟨_, rfl⟩
  case h_7 => exact ⟨_, rfl⟩
  case h_8 => exact ⟨_, rfl⟩
  case h_9 =>
    split
    · exact bind_always_error _ fun _ => ⟨_, rfl⟩
    · exact ⟨_, rfl⟩
  all_goals exact bind_always_error _ fun _ => ⟨_, rfl⟩

/-- What a value is, as far as its first character tells. -/
inductive Kind (text : List Char) : Prop
  | string (isString : IsString text)
  | list {items : List (List Char)} (each : ∀ item ∈ items, IsValue item)
    (enclosed : Enclosed '[' ']' items text)
  | object {members : List Member} (keys : ∀ m ∈ members, IsString m.1)
    (values : ∀ m ∈ members, IsValue m.2) (isObject : IsObject members text)
  | other {c : Char} {more : List Char} (starts : text = c :: more) (notBlank : isBlank c = false)
    (notQuote : c ≠ '"') (notBracket : c ≠ '[') (notBrace : c ≠ '\x7b')

theorem kind_of_value (h : IsValue text) : Kind text := by
  cases h with
  | null => exact .other rfl rfl (by decide) (by decide) (by decide)
  | true => exact .other rfl rfl (by decide) (by decide) (by decide)
  | false => exact .other rfl rfl (by decide) (by decide) (by decide)
  | string isString => exact .string isString
  | list each enclosed => exact .list each enclosed
  | object keys values isObject => exact .object keys values isObject
  | number isNumber =>
    cases isNumber with
    | number isSign isWhole _ _ =>
      obtain ⟨d, more, rfl, digit⟩ := isWhole_cons isWhole
      rcases isSign with rfl | rfl
      · refine .other rfl (opens_digit digit).1 ?_ ?_ ?_
        all_goals
          rintro rfl
          cases digit
      · exact .other rfl rfl (by decide) (by decide) (by decide)

/-! ## Strings -/

theorem hexValue?_lt {c : Char} {n : Nat} (h : hexValue? c = some n) : n < 16 := by
  unfold hexValue? at h
  split at h
  · rename_i digit
    simp only [Char.isDigit, UInt32.le_iff_toNat_le, Bool.and_eq_true, decide_eq_true_eq] at digit
    have upper : c.toNat ≤ 57 := digit.2
    cases h
    omega
  split at h
  · rename_i lower
    simp only [Bool.and_eq_true, decide_eq_true_eq, Char.le_def, UInt32.le_iff_toNat_le] at lower
    have upper : c.toNat ≤ 102 := lower.2
    cases h
    omega
  split at h
  · rename_i capital
    simp only [Bool.and_eq_true, decide_eq_true_eq, Char.le_def, UInt32.le_iff_toNat_le] at capital
    have upper : c.toNat ≤ 70 := capital.2
    cases h
    omega
  · cases h

variable {n : Nat}

theorem codeUnit_lt (h : CodeUnit n digits) : n < 0x10000 := by
  cases h with
  | digits first second third fourth =>
    have := hexValue?_lt first
    have := hexValue?_lt second
    have := hexValue?_lt third
    have := hexValue?_lt fourth
    omega

theorem spellsChar_unit (h : CodeUnit n digits) (notLow : isLowSurrogate n = false)
    (notHigh : isHighSurrogate n = false) :
    SpellsChar (Char.ofNat n) ('\\' :: 'u' :: digits) := by
  have small := codeUnit_lt h
  simp only [isLowSurrogate, isHighSurrogate, Bool.and_eq_false_iff, decide_eq_false_iff_not]
    at notLow notHigh
  have valid : n.isValidChar := by
    unfold Nat.isValidChar
    omega
  refine .unit ?_
  rwa [Text.toNat_ofNat valid]

theorem spellsChar_pair {low : Nat} {more : List Char} (first : CodeUnit n digits)
    (second : CodeUnit low more) (isHigh : isHighSurrogate n = true)
    (isLow : isLowSurrogate low = true) :
    SpellsChar (joinSurrogates n low) ('\\' :: 'u' :: (digits ++ '\\' :: 'u' :: more)) := by
  refine .pair first second isHigh isLow ?_
  simp only [isLowSurrogate, isHighSurrogate, Bool.and_eq_true, decide_eq_true_eq] at isHigh isLow
  have valid : ((n - 0xD800) * 0x400 + (low - 0xDC00) + 0x10000).isValidChar := by
    unfold Nat.isValidChar
    omega
  rw [joinSurrogates, Text.toNat_ofNat valid]

/-- Half of a pair of surrogates is refused. -/
theorem readCodeUnits_low (h : CodeUnit n digits) (isLow : isLowSurrogate n = true)
    (rest : List Char) : ∃ failure, readCodeUnits (digits ++ rest) = .error failure := by
  rw [readCodeUnits, bind_of_ok (readHex4_unit h rest)]
  simp [isLow]

theorem readCodeUnits_alone (h : CodeUnit n digits) (isHigh : isHighSurrogate n = true)
    {rest : List Char} (alone : ∀ more, rest ≠ '\\' :: 'u' :: more) :
    ∃ failure, readCodeUnits (digits ++ rest) = .error failure := by
  rw [readCodeUnits, bind_of_ok (readHex4_unit h rest)]
  simp only [isHigh, if_true]
  split
  · exact ⟨_, rfl⟩
  split
  · exact ⟨_, rfl⟩
  · exact ⟨_, rfl⟩
  · exact absurd rfl (alone _)
  · exact ⟨_, rfl⟩
  · exact ⟨_, rfl⟩

theorem readCodeUnits_unpaired {other : Nat} {more : List Char} (first : CodeUnit n digits)
    (second : CodeUnit other more) (isHigh : isHighSurrogate n = true)
    (notLow : isLowSurrogate other = false) (rest : List Char) :
    ∃ failure, readCodeUnits (digits ++ '\\' :: 'u' :: (more ++ rest)) = .error failure := by
  rw [readCodeUnits, bind_of_ok (readHex4_unit first _)]
  simp only [isHigh, if_true]
  split
  · exact ⟨_, rfl⟩
  · rw [bind_of_ok (readHex4_unit second rest)]
    simp [notLow]

/-- The string whose closing quote follows is refused. -/
def Refused (body : List Char) : Prop :=
  ∀ fuel rest, ∃ failure, readChars fuel (body ++ '"' :: rest) = .error failure

theorem refused_char {c : Char} (h : SpellsChar c text) (refused : Refused body) :
    Refused (text ++ body) := by
  intro fuel rest
  cases fuel with
  | zero => exact ⟨_, rfl⟩
  | succ fuel =>
    rw [List.append_assoc, readChars_char h]
    exact bind_of_error (refused fuel rest)

theorem refused_units
    (h : ∀ rest, ∃ failure, readCodeUnits (body ++ '"' :: rest) = .error failure) :
    Refused ('\\' :: 'u' :: body) := by
  intro fuel rest
  cases fuel with
  | zero => exact ⟨_, rfl⟩
  | succ fuel =>
    rw [List.cons_append, List.cons_append, readChars]
    exact bind_of_error (h rest)

theorem spelled_or_refused_of_char {c : Char} (h : SpellsChar c text)
    (more : (∃ chars, SpellsChars chars body) ∨ Refused body) :
    (∃ chars, SpellsChars chars (text ++ body)) ∨ Refused (text ++ body) := by
  rcases more with ⟨chars, spelled⟩ | refused
  · exact .inl ⟨c :: chars, .cons h spelled⟩
  · exact .inr (refused_char h refused)

theorem refused_alone (unit : CodeUnit n digits) (isHigh : isHighSurrogate n = true)
    (alone : ∀ rest more, body ++ '"' :: rest ≠ '\\' :: 'u' :: more) :
    Refused ('\\' :: 'u' :: (digits ++ body)) := by
  apply refused_units
  intro rest
  rw [List.append_assoc]
  exact readCodeUnits_alone unit isHigh (alone rest)

/-- A body spells characters unless there is half of a pair of surrogates in it. -/
theorem spelled_or_refused (h : IsBody body) :
    (∃ chars, SpellsChars chars body) ∨ Refused body := by
  -- on the length, since a pair of surrogates takes two code units at once
  induction size : body.length using Nat.strongRecOn generalizing body with
  | ind length ih =>
    subst size
    cases h with
    | nil => exact .inl ⟨[], .nil⟩
    | plain isPlain more =>
      exact spelled_or_refused_of_char (.plain isPlain) (ih _ (Nat.lt_succ_self _) more rfl)
    | letter escape more =>
      obtain ⟨c, escape⟩ := Option.isSome_iff_exists.mp escape
      exact spelled_or_refused_of_char (.letter escape)
        (ih _ (Nat.lt_succ_of_lt (Nat.lt_succ_self _)) more rfl)
    | @unit n digits body unit more =>
      have shorter : body.length < ('\\' :: 'u' :: (digits ++ body)).length := by
        simp only [List.length_cons, List.length_append]
        omega
      cases isLow : isLowSurrogate n with
      | true =>
        refine .inr (refused_units fun rest => ?_)
        rw [List.append_assoc]
        exact readCodeUnits_low unit isLow _
      | false =>
        cases isHigh : isHighSurrogate n with
        | false =>
          exact spelled_or_refused_of_char (spellsChar_unit unit isLow isHigh)
            (ih _ shorter more rfl)
        | true =>
          cases more with
          | nil =>
            refine .inr (refused_alone unit isHigh fun rest more same => ?_)
            cases same
          | plain isPlain _ =>
            refine .inr (refused_alone unit isHigh fun rest more same => ?_)
            exact isPlain.2.2 (List.cons.inj same).1
          | letter escape _ =>
            refine .inr (refused_alone unit isHigh fun rest more same => ?_)
            exact isBody_ne_u escape (List.cons.inj (List.cons.inj same).2).1
          | @unit other digits' body second more =>
            cases isLow' : isLowSurrogate other with
            | true =>
              simp only [List.length_cons, List.length_append] at ih
              have pair := spelled_or_refused_of_char (spellsChar_pair unit second isHigh isLow')
                (ih body.length (by omega) more rfl)
              simpa using pair
            | false =>
              refine .inr (refused_units fun rest => ?_)
              simp only [List.append_assoc, List.cons_append]
              exact readCodeUnits_unpaired unit second isHigh isLow' _

theorem readString_refused (refused : Refused body) (rest : List Char) :
    ∃ failure, readString (body ++ '"' :: rest) = .error failure :=
  bind_of_error (refused _ rest)

theorem spells_of_chars {chars : List Char} (h : SpellsChars chars body) :
    Spells (String.ofList chars) ('"' :: (body ++ ['"'])) := by
  apply Spells.quoted
  rwa [String.toList_ofList]

/-! ## Texts and names -/

variable {c : Char} {more : List Char}

theorem fails_of_start {reader : Reader α} (notBlank : isBlank c = false)
    (refuses : ∀ cs rest, skipBlanks cs = c :: rest → ∃ failure, reader cs = .error failure) :
    Fails reader (c :: more) := by
  intro blanks rest hb
  apply refuses
  exact skipBlanks_append_cons hb notBlank _

theorem fails_textAs {expected : String} (notBlank : isBlank c = false) (notQuote : c ≠ '"') :
    Fails (readTextAs expected) (c :: more) := by
  apply fails_of_start notBlank
  intro cs rest starts
  rw [readTextAs, starts]
  split
  · rename_i same
    exact absurd (List.cons.inj same).1 notQuote
  · exact unexpected_error expected _

theorem settles_textAs (expected : String) : Settles (readTextAs expected) := by
  intro text value
  cases kind_of_value value with
  | string isString =>
    cases isString with
    | quoted isBody =>
      rcases spelled_or_refused isBody with ⟨chars, spelled⟩ | refused
      · exact .inl ⟨_, takes_textAs expected (spells_of_chars spelled)⟩
      · refine .inr fun blanks rest hb => ?_
        rw [readTextAs, List.cons_append, List.append_assoc, List.singleton_append,
          skipBlanks_append_cons hb rfl]
        exact readString_refused refused rest
  | list each enclosed =>
    cases enclosed
    exact .inr (fails_textAs rfl (by decide))
  | object keys values isObject =>
    obtain ⟨_, ⟨_⟩⟩ := isObject
    exact .inr (fails_textAs rfl (by decide))
  | other starts notBlank notQuote _ _ =>
    subst starts
    exact .inr (fails_textAs notBlank notQuote)

theorem settles_text : Settles readText := settles_textAs "a string"

theorem fails_null_text : Fails readText "null".toList := fails_textAs rfl (by decide)

theorem fails_nullAs {expected : String} (notBlank : isBlank c = false) (notNull : c ≠ 'n') :
    Fails (readNullAs expected) (c :: more) := by
  apply fails_of_start notBlank
  intro cs rest starts
  rw [readNullAs, starts]
  split
  · rename_i same
    exact absurd (List.cons.inj same).1 notNull
  · exact unexpected_error expected _

theorem takes_null (expected : String) : Takes (readNullAs expected) "null".toList () := by
  intro blanks rest hb
  change readNullAs expected (blanks ++ 'n' :: ("ull".toList ++ rest)) = .ok ((), rest)
  rw [readNullAs, skipBlanks_append_cons hb rfl]
  rfl

theorem settles_nullAs (expected : String) : Settles (readNullAs expected) := by
  intro text value
  cases value with
  | null => exact .inl ⟨(), takes_null expected⟩
  | true => exact .inr (fails_nullAs rfl (by decide))
  | false => exact .inr (fails_nullAs rfl (by decide))
  | number isNumber =>
    cases isNumber with
    | number isSign isWhole _ _ =>
      obtain ⟨d, more, rfl, digit⟩ := isWhole_cons isWhole
      rcases isSign with rfl | rfl
      · refine .inr (fails_nullAs (opens_digit digit).1 ?_)
        rintro rfl
        cases digit
      · exact .inr (fails_nullAs rfl (by decide))
  | string isString =>
    cases isString
    exact .inr (fails_nullAs rfl (by decide))
  | list each enclosed =>
    cases enclosed
    exact .inr (fails_nullAs rfl (by decide))
  | object keys values isObject =>
    obtain ⟨_, ⟨_⟩⟩ := isObject
    exact .inr (fails_nullAs rfl (by decide))

section Names

variable {names : List (String × α)}

theorem fails_name (notBlank : isBlank c = false) (notQuote : c ≠ '"') (notBrace : c ≠ '\x7b') :
    Fails (readName names) (c :: more) := by
  apply fails_of_start notBlank
  intro cs rest starts
  rw [readName, starts]
  split
  · rename_i same
    exact absurd (List.cons.inj same).1 notBrace
  · rename_i same
    exact absurd (List.cons.inj same).1 notQuote
  · exact ⟨_, rfl⟩
  · exact ⟨_, rfl⟩

theorem fails_null_name : Fails (readName names) "null".toList :=
  fails_name rfl (by decide) (by decide)

theorem fails_unknown_name {s : String} (h : Spells s text) (unknown : names.lookup s = none) :
    Fails (readName names) text := by
  intro blanks rest hb
  have refused : ∃ failure, readName.known names (text ++ rest) = .error failure := by
    refine bind_of_ok_error (takes_textAs _ h [] rest blanks_nil) ?_
    simp only [unknown]
    exact ⟨_, rfl⟩
  cases h with
  | quoted chars =>
    rw [List.cons_append] at refused ⊢
    rw [readName, skipBlanks_append_cons hb rfl]
    exact refused

theorem settles_known : Settles (readName.known names) := by
  intro text value
  rcases settles_textAs "variant identifier" text value with ⟨name, taken⟩ | fails
  · cases known : names.lookup name with
    | some a =>
      refine .inl ⟨a, fun blanks rest hb => ?_⟩
      refine (bind_of_ok (taken blanks rest hb)).trans ?_
      simp only [known]
    | none =>
      refine .inr fun blanks rest hb => ?_
      refine bind_of_ok_error (taken blanks rest hb) ?_
      simp only [known]
      exact ⟨_, rfl⟩
  · exact .inr fun blanks rest hb => bind_of_error (fails blanks rest hb)

/-- An object is a name if the name is its only key and the value null. -/
theorem named_settles {members : List Member} (isObject : IsObject members text)
    (keys : ∀ m ∈ members, IsString m.1) (values : ∀ m ∈ members, IsValue m.2) :
    (∃ a, Takes (readName names) text a) ∨ Fails (readName names) text := by
  obtain ⟨pairs, ⟨parts⟩⟩ := isObject
  -- a name, a colon, null and the closing brace: what is not there is where the reader stops
  cases parts with
  | none hg =>
    refine .inr fun blanks rest hb => ?_
    have refused : Fails (readTextAs "variant identifier") ['\x7d'] := fails_textAs rfl (by decide)
    rw [List.cons_append, List.append_assoc, readName, skipBlanks_append_cons hb rfl]
    exact bind_of_error (bind_of_error (refused _ rest hg))
  | part isLead more =>
    cases isLead with
    | first front =>
      cases pairs with
      | @cons m _ _ _ isMember _ =>
        obtain ⟨key, -⟩ := List.forall_mem_cons.mp keys
        obtain ⟨isValue, -⟩ := List.forall_mem_cons.mp values
        cases isMember with
        | @pair name value _ _ gap gap' =>
          rcases settles_known name (.string key) with ⟨a, taken⟩ | fails
          · rcases settles_nullAs "unit" value isValue with ⟨_, nothing⟩ | fails
            · cases more with
              | none last =>
                refine .inl ⟨a, fun blanks rest hb => ?_⟩
                simp only [List.cons_append, List.append_assoc, List.nil_append]
                rw [readName, skipBlanks_append_cons hb rfl]
                refine (bind_of_ok (taken _ _ front)).trans ?_
                refine (bind_of_ok (readColon_gap gap _)).trans ?_
                refine (bind_of_ok (nothing _ _ gap')).trans ?_
                simp only [skipBlanks_append_cons (c := '\x7d') last rfl]
              | part isLead' more =>
                cases isLead' with
                | next last _ =>
                  refine .inr fun blanks rest hb => ?_
                  simp only [List.cons_append, List.append_assoc, List.nil_append]
                  rw [readName, skipBlanks_append_cons hb rfl]
                  refine bind_of_ok_error (taken _ _ front) ?_
                  refine bind_of_ok_error (readColon_gap gap _) ?_
                  refine bind_of_ok_error (nothing _ _ gap') ?_
                  simp only [skipBlanks_append_cons (c := ',') last rfl]
                  exact ⟨_, rfl⟩
            · refine .inr fun blanks rest hb => ?_
              simp only [List.cons_append, List.append_assoc, List.nil_append]
              rw [readName, skipBlanks_append_cons hb rfl]
              refine bind_of_ok_error (taken _ _ front) ?_
              refine bind_of_ok_error (readColon_gap gap _) ?_
              exact bind_of_error (fails _ _ gap')
          · refine .inr fun blanks rest hb => ?_
            simp only [List.cons_append, List.append_assoc, List.nil_append]
            rw [readName, skipBlanks_append_cons hb rfl]
            exact bind_of_error (fails _ _ front)

theorem settles_name : Settles (readName names) := by
  intro text value
  cases kind_of_value value with
  | string isString =>
    obtain ⟨tail, rfl⟩ := isString_cons isString
    have reads : ∀ blanks rest, Blanks blanks → readName names (blanks ++ ('"' :: tail ++ rest)) =
        readName.known names ([] ++ ('"' :: tail ++ rest)) := by
      intro blanks rest hb
      rw [readName, List.cons_append, skipBlanks_append_cons hb rfl]
      rfl
    rcases settles_known _ value with ⟨a, taken⟩ | fails
    · refine .inl ⟨a, fun blanks rest hb => ?_⟩
      rw [reads blanks rest hb]
      exact taken [] rest blanks_nil
    · refine .inr fun blanks rest hb => ?_
      rw [reads blanks rest hb]
      exact fails [] rest blanks_nil
  | list each enclosed =>
    cases enclosed
    exact .inr (fails_name rfl (by decide) (by decide))
  | object keys values isObject => exact named_settles isObject keys values
  | other starts notBlank notQuote _ notBrace =>
    subst starts
    exact .inr (fails_name notBlank notQuote notBrace)

end Names

end Scaffold.Json
