import Mathlib.Data.List.Forall2
import Scaffold.Proofs.Json.Reading

/-!
# The ways to spell JSON

A character of a string may be written as it is or by an escape, and blanks may stand around every
value. What is said here about texts does not refer to readers. The readers for texts and names
take every spelling of a string, and give up on a string with half of a surrogate pair.
-/

namespace Scaffold.Json

/-! ## Strings -/

inductive CodeUnit : Nat → List Char → Prop
  | digits {a b c d : Char} {p q r s : Nat} (first : hexValue? a = some p)
    (second : hexValue? b = some q) (third : hexValue? c = some r) (fourth : hexValue? d = some s) :
    CodeUnit (4096 * p + 256 * q + 16 * r + s) [a, b, c, d]

def IsPlain (c : Char) : Prop := 0x20 ≤ c.toNat ∧ c ≠ '"' ∧ c ≠ '\\'

/-- How a character is written in a string. -/
inductive SpellsChar : Char → List Char → Prop
  | plain {c : Char} (isPlain : IsPlain c) : SpellsChar c [c]
  | letter {c letter : Char} (escape : simpleEscape? letter = some c) :
    SpellsChar c ['\\', letter]
  | unit {c : Char} {digits : List Char} (unit : CodeUnit c.toNat digits) :
    SpellsChar c ('\\' :: 'u' :: digits)
  | pair {c : Char} {high low : Nat} {digits more : List Char} (first : CodeUnit high digits)
    (second : CodeUnit low more) (isHigh : isHighSurrogate high = true)
    (isLow : isLowSurrogate low = true)
    (joined : c.toNat = (high - 0xD800) * 0x400 + (low - 0xDC00) + 0x10000) :
    SpellsChar c ('\\' :: 'u' :: (digits ++ '\\' :: 'u' :: more))

inductive SpellsChars : List Char → List Char → Prop
  | nil : SpellsChars [] []
  | cons {c : Char} {chars text body : List Char} (first : SpellsChar c text)
    (more : SpellsChars chars body) : SpellsChars (c :: chars) (text ++ body)

inductive Spells (s : String) : List Char → Prop
  | quoted {body : List Char} (chars : SpellsChars s.toList body) : Spells s ('"' :: (body ++ ['"']))

/-- The text between the quotes of a string. Code units need not pair up. -/
inductive IsBody : List Char → Prop
  | nil : IsBody []
  | plain {c : Char} {body : List Char} (isPlain : IsPlain c) (more : IsBody body) :
    IsBody (c :: body)
  | letter {letter : Char} {body : List Char} (escape : (simpleEscape? letter).isSome = true)
    (more : IsBody body) : IsBody ('\\' :: letter :: body)
  | unit {n : Nat} {digits body : List Char} (unit : CodeUnit n digits) (more : IsBody body) :
    IsBody ('\\' :: 'u' :: (digits ++ body))

inductive IsString : List Char → Prop
  | quoted {body : List Char} (isBody : IsBody body) : IsString ('"' :: (body ++ ['"']))

/-! ## Numbers -/

def IsDigits (digits : List Char) : Prop := digits ≠ [] ∧ ∀ c ∈ digits, c.isDigit = true

/-- Digits that do not begin with a needless zero. -/
inductive IsWhole : List Char → Prop
  | zero : IsWhole ['0']
  | digits {c : Char} {more : List Char} (first : c.isDigit = true) (notZero : c ≠ '0')
    (all : ∀ d ∈ more, d.isDigit = true) : IsWhole (c :: more)

inductive IsFraction : List Char → Prop
  | none : IsFraction []
  | places {digits : List Char} (isDigits : IsDigits digits) : IsFraction ('.' :: digits)

inductive IsExponent : List Char → Prop
  | none : IsExponent []
  | power {mark : Char} {sign digits : List Char} (isMark : mark = 'e' ∨ mark = 'E')
    (isSign : sign = [] ∨ sign = ['+'] ∨ sign = ['-']) (isDigits : IsDigits digits) :
    IsExponent (mark :: (sign ++ digits))

inductive IsNumber : List Char → Prop
  | number {sign whole fraction exponent : List Char} (isSign : sign = [] ∨ sign = ['-'])
    (isWhole : IsWhole whole) (isFraction : IsFraction fraction)
    (isExponent : IsExponent exponent) :
    IsNumber (sign ++ (whole ++ (fraction ++ exponent)))

/-! ## Lists, objects and values -/

/-- What stands before a part of a list or an object: blanks, and a comma if it is not the first. -/
inductive Lead : Bool → List Char → Prop
  | first {gap : List Char} (blanks : Blanks gap) : Lead true gap
  | next {before after : List Char} (blanks : Blanks before) (blanks' : Blanks after) :
    Lead false (before ++ ',' :: after)

/-- Parts of a list or an object up to its closing bracket, from the first one on or behind it. -/
inductive Parts : Bool → List (List Char) → List Char → Prop
  | none {first : Bool} {gap : List Char} (blanks : Blanks gap) : Parts first [] gap
  | part {first : Bool} {lead text inner : List Char} {texts : List (List Char)}
    (isLead : Lead first lead) (more : Parts false texts inner) :
    Parts first (text :: texts) (lead ++ (text ++ inner))

inductive Enclosed (opening closing : Char) (texts : List (List Char)) : List Char → Prop
  | brackets {inner : List Char} (parts : Parts true texts inner) :
    Enclosed opening closing texts (opening :: (inner ++ [closing]))

abbrev Member := List Char × List Char

inductive IsMember : Member → List Char → Prop
  | pair {key value before after : List Char} (blanks : Blanks before) (blanks' : Blanks after) :
    IsMember (key, value) (key ++ (before ++ ':' :: (after ++ value)))

inductive IsObject (members : List Member) : List Char → Prop
  | braces {texts : List (List Char)} {text : List Char} (each : List.Forall₂ IsMember members texts)
    (enclosed : Enclosed '\x7b' '\x7d' texts text) : IsObject members text

inductive IsValue : List Char → Prop
  | null : IsValue "null".toList
  | true : IsValue "true".toList
  | false : IsValue "false".toList
  | number {text : List Char} (isNumber : IsNumber text) : IsValue text
  | string {text : List Char} (isString : IsString text) : IsValue text
  | list {items : List (List Char)} {text : List Char} (each : ∀ item ∈ items, IsValue item)
    (enclosed : Enclosed '[' ']' items text) : IsValue text
  | object {members : List Member} {text : List Char} (keys : ∀ m ∈ members, IsString m.1)
    (values : ∀ m ∈ members, IsValue m.2) (isObject : IsObject members text) : IsValue text

/-! ## Reading spelled strings -/

variable {c : Char} {n : Nat} {s : String} {chars body text digits rest : List Char}

theorem readHex4_unit (h : CodeUnit n digits) (rest : List Char) :
    readHex4 (digits ++ rest) = .ok (n, rest) := by
  cases h with
  | digits first second third fourth =>
    simp only [List.cons_append, List.nil_append, readHex4, first, second, third, fourth]

theorem simpleEscape?_u : simpleEscape? 'u' = none := rfl

theorem ne_u_of_escape {letter : Char} (h : simpleEscape? letter = some c) : letter ≠ 'u' := by
  rintro rfl
  rw [simpleEscape?_u] at h
  cases h

theorem not_surrogate (c : Char) :
    isLowSurrogate c.toNat = false ∧ isHighSurrogate c.toNat = false := by
  have valid : c.toNat < 0xD800 ∨ 0xDFFF < c.toNat ∧ c.toNat < 0x110000 := c.valid
  simp only [isLowSurrogate, isHighSurrogate, Bool.and_eq_false_iff, decide_eq_false_iff_not]
  omega

theorem readCodeUnits_unit (h : CodeUnit c.toNat digits) (rest : List Char) :
    readCodeUnits (digits ++ rest) = .ok (c, rest) := by
  obtain ⟨notLow, notHigh⟩ := not_surrogate c
  refine (bind_of_ok (readHex4_unit h rest)).trans ?_
  simp only [notLow, notHigh, Bool.false_eq_true, if_false, Char.ofNat_toNat]

theorem readCodeUnits_pair {high low : Nat} {more : List Char} (first : CodeUnit high digits)
    (second : CodeUnit low more) (isHigh : isHighSurrogate high = true)
    (isLow : isLowSurrogate low = true) (rest : List Char) :
    readCodeUnits (digits ++ '\\' :: 'u' :: (more ++ rest)) =
      .ok (joinSurrogates high low, rest) := by
  have notLow : isLowSurrogate high = false := by
    simp only [isHighSurrogate, Bool.and_eq_true, decide_eq_true_eq] at isHigh
    simp only [isLowSurrogate, Bool.and_eq_false_iff, decide_eq_false_iff_not]
    omega
  refine (bind_of_ok (readHex4_unit first _)).trans ?_
  simp only [notLow, isHigh, Bool.false_eq_true, if_false, if_true]
  refine (bind_of_ok (readHex4_unit second rest)).trans ?_
  simp only [isLow, if_true]

theorem readChars_char (h : SpellsChar c text) (fuel : Nat) (cs : List Char) :
    readChars (fuel + 1) (text ++ cs) =
      readChars fuel cs >>= fun read => .ok (c :: read.1, read.2) := by
  cases h with
  | plain isPlain =>
    obtain ⟨printable, notQuote, notBackslash⟩ := isPlain
    rw [List.singleton_append, readChars]
    · rw [if_neg (Nat.not_lt.mpr printable)]
    all_goals simp_all
  | letter escape =>
    have notUnit := ne_u_of_escape escape
    rw [List.cons_append, List.singleton_append, readChars]
    · simp only [escape]
    · simpa using notUnit
  | unit unit =>
    rw [List.cons_append, List.cons_append, readChars]
    exact bind_of_ok (readCodeUnits_unit unit cs)
  | @pair high low _ _ first second isHigh isLow joined =>
    have same : joinSurrogates high low = c := by
      rw [joinSurrogates, ← joined, Char.ofNat_toNat]
    have units := readCodeUnits_pair first second isHigh isLow cs
    rw [same] at units
    rw [List.cons_append, List.cons_append, readChars, List.append_assoc]
    exact bind_of_ok units

theorem spellsChar_ne_nil (h : SpellsChar c text) : text ≠ [] := by
  cases h <;> exact List.cons_ne_nil _ _

theorem readChars_spelled (h : SpellsChars chars body) (rest : List Char) {fuel : Nat}
    (hf : body.length < fuel) :
    readChars fuel (body ++ '"' :: rest) = .ok (chars, rest) := by
  induction h generalizing fuel with
  | nil =>
    obtain ⟨fuel, rfl⟩ := Nat.exists_eq_succ_of_ne_zero (Nat.ne_of_gt hf)
    rfl
  | cons first _ ih =>
    obtain ⟨fuel, rfl⟩ := Nat.exists_eq_succ_of_ne_zero (Nat.ne_zero_of_lt hf)
    have nonempty := List.length_pos_iff.mpr (spellsChar_ne_nil first)
    rw [List.length_append] at hf
    rw [List.append_assoc, readChars_char first, bind_of_ok (ih (by omega))]

theorem readString_spelled (h : SpellsChars s.toList body) (rest : List Char) :
    readString (body ++ '"' :: rest) = .ok (s, rest) := by
  have chars : readChars ((body ++ '"' :: rest).length + 1) (body ++ '"' :: rest) =
      .ok (s.toList, rest) := by
    apply readChars_spelled h
    rw [List.length_append]
    omega
  rw [readString, bind_of_ok chars]
  simp only [String.ofList_toList]

theorem takes_textAs (expected : String) (h : Spells s text) : Takes (readTextAs expected) text s := by
  cases h with
  | quoted chars =>
    intro blanks rest hb
    rw [readTextAs, List.cons_append, List.append_assoc, List.singleton_append,
      skipBlanks_append_cons hb rfl]
    exact readString_spelled chars rest

theorem takes_text (h : Spells s text) : Takes readText text s :=
  takes_textAs "a string" h

theorem takes_name {α : Type} {names : List (String × α)} {a : α} (h : Spells s text)
    (known : names.lookup s = some a) : Takes (readName names) text a := by
  intro blanks rest hb
  have read : readName.known names (text ++ rest) = .ok (a, rest) := by
    refine (bind_of_ok (takes_textAs _ h [] rest blanks_nil)).trans ?_
    simp only [known]
  cases h with
  | quoted chars =>
    rw [List.cons_append] at read ⊢
    rw [readName, skipBlanks_append_cons hb rfl]
    exact read

theorem spells_unique {t : String} (h : Spells s text) (h' : Spells t text) : s = t := by
  have first := takes_text h [] [] blanks_nil
  have second := takes_text h' [] [] blanks_nil
  rw [first] at second
  cases second
  rfl

end Scaffold.Json
