import Scaffold.Proofs.Text.Runs
import Scaffold.Toml.Scalar

/-!
# The ways to spell TOML

Blanks, comments and line ends may stand between the parts of a document. A string is written on
one line or over several, with escapes or without, and a key bare or as a string on one line. What
is said here about texts does not refer to readers.
-/

namespace Scaffold.Toml

/-! ## Gaps -/

def Blanks (cs : List Char) : Prop := ∀ c ∈ cs, isBlank c = true

inductive IsLineEnd : List Char → Prop
  | feed : IsLineEnd ['\n']
  | both : IsLineEnd ['\r', '\n']

/-- A comment without the line end behind it, or nothing. -/
inductive IsNote : List Char → Prop
  | none : IsNote []
  | comment {text : List Char} (isText : ∀ c ∈ text, isText c = true) : IsNote ('#' :: text)

/-- Lines with nothing but blanks and comments, and the blanks of one that has begun. -/
inductive Gap : List Char → Prop
  | blanks {gap : List Char} (blanks : Blanks gap) : Gap gap
  | line {blank note stop gap : List Char} (blanks : Blanks blank) (isNote : IsNote note)
    (isEnd : IsLineEnd stop) (more : Gap gap) : Gap (blank ++ (note ++ (stop ++ gap)))

/-! ## Strings -/

/-- The letters of escapes with what they stand for. -/
def escapes : List (Char × Char) := [('b', '\x08'), ('t', '\t'), ('n', '\n'), ('f', '\x0C'),
  ('r', '\r'), ('e', '\x1B'), ('"', '"'), ('\\', '\\')]

/-- The letters of escapes by number with the count of their digits. -/
def codes : List (Char × Nat) := [('x', 2), ('u', 4), ('U', 8)]

inductive IsEscape : Char → List Char → Prop
  | letter {letter c : Char} (listed : (letter, c) ∈ escapes) : IsEscape c [letter]
  | code {letter c : Char} {count : Nat} {digits : List Char} (listed : (letter, count) ∈ codes)
    (length : digits.length = count) (coded : codeChar? digits = some c) :
    IsEscape c (letter :: digits)

/-- The characters of a string on one line with escapes. -/
inductive BasicBody : List Char → List Char → Prop
  | nil : BasicBody [] []
  | plain {c : Char} {chars body : List Char} (isText : isText c = true) (notQuote : c ≠ '"')
    (notBackslash : c ≠ '\\') (more : BasicBody chars body) : BasicBody (c :: chars) (c :: body)
  | escape {c : Char} {text chars body : List Char} (isEscape : IsEscape c text)
    (more : BasicBody chars body) : BasicBody (c :: chars) ('\\' :: (text ++ body))

/-- What can stand in a string between quotes without escapes. -/
def LiteralBody (body : List Char) : Prop := ∀ c ∈ body, c ≠ '\'' ∧ isText c = true

/-- What is skipped behind a backslash at the end of a line. -/
inductive Skipped : List Char → Prop
  | nil : Skipped []
  | blank {c : Char} {gap : List Char} (isBlank : isBlank c = true) (more : Skipped gap) :
    Skipped (c :: gap)
  | line {stop gap : List Char} (isEnd : IsLineEnd stop) (more : Skipped gap) :
    Skipped (stop ++ gap)

/-- The text begins with neither a blank nor a line end. -/
def Solid (text : List Char) : Prop :=
  ∀ c ∈ text.head?, isBlank c = false ∧ c ≠ '\n' ∧ c ≠ '\r'

/-- The characters of a string over several lines. One or two quotes may stand anywhere in it, at
its end as well. -/
inductive LongBody (quote : Char) (escaped : Bool) : List Char → List Char → Prop
  | stop {n : Nat} (few : n ≤ 2) : LongBody quote escaped (.replicate n quote) (.replicate n quote)
  | plain {c : Char} {chars body : List Char} (isText : isText c = true) (notQuote : c ≠ quote)
    (notBackslash : escaped = true → c ≠ '\\') (more : LongBody quote escaped chars body) :
    LongBody quote escaped (c :: chars) (c :: body)
  | line {stop chars body : List Char} (isEnd : IsLineEnd stop)
    (more : LongBody quote escaped chars body) : LongBody quote escaped ('\n' :: chars) (stop ++ body)
  | escape {c : Char} {text chars body : List Char} (may : escaped = true)
    (isEscape : IsEscape c text) (more : LongBody quote escaped chars body) :
    LongBody quote escaped (c :: chars) ('\\' :: (text ++ body))
  | continued {blank stop gap chars body : List Char} (may : escaped = true)
    (blanks : Blanks blank) (isEnd : IsLineEnd stop) (skipped : Skipped gap) (solid : Solid body)
    (more : LongBody quote escaped chars body) :
    LongBody quote escaped chars ('\\' :: (blank ++ (stop ++ (gap ++ body))))
  | quotes {n : Nat} {c : Char} {chars body : List Char} (few : n ≤ 2) (notQuote : c ≠ quote)
    (more : LongBody quote escaped chars (c :: body)) :
    LongBody quote escaped (.replicate n quote ++ chars) (.replicate n quote ++ c :: body)

/-- A line end right behind the opening quotes, or none where the string begins with no line end. -/
inductive IsFirst (body : List Char) : List Char → Prop
  | none (solid : ∀ c ∈ body.head?, c ≠ '\n' ∧ c ≠ '\r') : IsFirst body []
  | line {stop : List Char} (isEnd : IsLineEnd stop) : IsFirst body stop

inductive Spells (s : String) : List Char → Prop
  | basic {body : List Char} (chars : BasicBody s.toList body) : Spells s ('"' :: (body ++ ['"']))
  | literal (isBody : LiteralBody s.toList) : Spells s ('\'' :: (s.toList ++ ['\'']))
  | longBasic {first body : List Char} (isFirst : IsFirst body first)
    (chars : LongBody '"' true s.toList body) :
    Spells s (['"', '"', '"'] ++ (first ++ (body ++ ['"', '"', '"'])))
  | longLiteral {first body : List Char} (isFirst : IsFirst body first)
    (chars : LongBody '\'' false s.toList body) :
    Spells s (['\'', '\'', '\''] ++ (first ++ (body ++ ['\'', '\'', '\''])))

/-! ## Keys -/

inductive SpellsKey (s : String) : List Char → Prop
  | bare (nonempty : s.toList ≠ []) (all : ∀ c ∈ s.toList, isBareKey c = true) :
    SpellsKey s s.toList
  | basic {body : List Char} (chars : BasicBody s.toList body) :
    SpellsKey s ('"' :: (body ++ ['"']))
  | literal (isBody : LiteralBody s.toList) : SpellsKey s ('\'' :: (s.toList ++ ['\'']))

/-- The text is keys with dots between them and blanks around them. -/
inductive SpellsPath : List String → List Char → Prop
  | last {key : String} {before text after : List Char} (blanks : Blanks before)
    (spelled : SpellsKey key text) (blanks' : Blanks after) :
    SpellsPath [key] (before ++ (text ++ after))
  | more {key : String} {path : List String} {before text after rest : List Char}
    (blanks : Blanks before) (spelled : SpellsKey key text) (blanks' : Blanks after)
    (more : SpellsPath path rest) :
    SpellsPath (key :: path) (before ++ (text ++ (after ++ '.' :: rest)))

/-! ## Reading gaps -/

variable {c : Char} {gap note stop text body chars rest : List Char} {fuel : Nat}

theorem skipBlanks_append (h : Blanks gap) (cs : List Char) :
    skipBlanks (gap ++ cs) = skipBlanks cs :=
  List.dropWhile_append_of_pos h

theorem skipBlanks_cons (h : isBlank c = false) (cs : List Char) :
    skipBlanks (c :: cs) = c :: cs := by
  rw [skipBlanks, List.dropWhile_cons_of_neg (by simp [h])]

theorem isBlank_ne (h : isBlank c = true) : c ≠ '\n' ∧ c ≠ '\r' ∧ c ≠ '#' := by
  simp only [isBlank, Bool.or_eq_true, beq_iff_eq] at h
  rcases h with rfl | rfl <;> decide

theorem isText_ne (h : isText c = true) : c ≠ '\n' ∧ c ≠ '\r' := by
  constructor
  all_goals
    rintro rfl
    cases h

theorem skipLines_char (inComment : Bool) (h : c ≠ '\n') (h' : c ≠ '\r')
    (passed : (if inComment then isText c else isBlank c) = true) (rest : List Char) :
    skipLines inComment (c :: rest) = skipLines inComment rest := by
  rw [skipLines]
  · rw [if_pos passed]
  · exact h
  · exact fun _ same _ => h' same

theorem skipLines_end (h : IsLineEnd stop) (inComment : Bool) (rest : List Char) :
    skipLines inComment (stop ++ rest) = skipLines false rest := by
  cases h <;> rfl

theorem lineEnd_length (h : IsLineEnd stop) : 0 < stop.length := by
  cases h <;> decide

theorem skipLines_blanks (h : Blanks gap) (rest : List Char) :
    skipLines false (gap ++ rest) = skipLines false rest := by
  induction gap with
  | nil => rfl
  | cons c gap ih =>
    have blank := h c List.mem_cons_self
    obtain ⟨notFeed, notReturn, -⟩ := isBlank_ne blank
    rw [List.cons_append, skipLines_char false notFeed notReturn blank]
    exact ih fun c hc => h c (List.mem_cons_of_mem _ hc)

theorem skipLines_comment (h : ∀ c ∈ text, isText c = true) (rest : List Char) :
    skipLines true (text ++ rest) = skipLines true rest := by
  induction text with
  | nil => rfl
  | cons c text ih =>
    have isText := h c List.mem_cons_self
    obtain ⟨notFeed, notReturn⟩ := isText_ne isText
    rw [List.cons_append, skipLines_char true notFeed notReturn isText]
    exact ih fun c hc => h c (List.mem_cons_of_mem _ hc)

theorem skipLines_note (h : IsNote note) (isEnd : IsLineEnd stop) (rest : List Char) :
    skipLines false (note ++ (stop ++ rest)) = skipLines false rest := by
  cases h with
  | none => exact skipLines_end isEnd false rest
  | comment isText =>
    rw [List.cons_append, show ∀ cs, skipLines false ('#' :: cs) = skipLines true cs from
      fun _ => rfl, skipLines_comment isText, skipLines_end isEnd]

theorem skipLines_gap (h : Gap gap) (rest : List Char) :
    skipLines false (gap ++ rest) = skipLines false rest := by
  induction h with
  | blanks blanks => exact skipLines_blanks blanks rest
  | line blanks isNote isEnd _ ih =>
    rw [List.append_assoc, List.append_assoc, List.append_assoc, skipLines_blanks blanks,
      skipLines_note isNote isEnd, ih]

/-! ## Reading strings -/

theorem readCode_append {count : Nat} {digits : List Char} (length : digits.length = count)
    (coded : codeChar? digits = some c) (rest : List Char) :
    readCode count (digits ++ rest) = some (c, rest) := by
  subst length
  rw [readCode, if_neg (by simp), List.take_left, List.drop_left, coded]
  rfl

theorem readEscape_append (h : IsEscape c text) (rest : List Char) :
    readEscape (text ++ rest) = some (c, rest) := by
  cases h with
  | letter listed =>
    simp only [escapes, List.mem_cons, Prod.mk.injEq, List.not_mem_nil, or_false] at listed
    rcases listed with ⟨rfl, rfl⟩ | ⟨rfl, rfl⟩ | ⟨rfl, rfl⟩ | ⟨rfl, rfl⟩ | ⟨rfl, rfl⟩ | ⟨rfl, rfl⟩ |
      ⟨rfl, rfl⟩ | ⟨rfl, rfl⟩
    all_goals rfl
  | code listed length coded =>
    have read := readCode_append length coded rest
    simp only [codes, List.mem_cons, Prod.mk.injEq, List.not_mem_nil, or_false] at listed
    rcases listed with ⟨rfl, rfl⟩ | ⟨rfl, rfl⟩ | ⟨rfl, rfl⟩
    all_goals exact read

theorem continueLine_escape (h : IsEscape c text) (rest : List Char) :
    continueLine (text ++ rest) = none := by
  cases h with
  | letter listed =>
    simp only [escapes, List.mem_cons, Prod.mk.injEq, List.not_mem_nil, or_false] at listed
    rcases listed with ⟨rfl, -⟩ | ⟨rfl, -⟩ | ⟨rfl, -⟩ | ⟨rfl, -⟩ | ⟨rfl, -⟩ | ⟨rfl, -⟩ |
      ⟨rfl, -⟩ | ⟨rfl, -⟩
    all_goals rfl
  | code listed _ _ =>
    simp only [codes, List.mem_cons, Prod.mk.injEq, List.not_mem_nil, or_false] at listed
    rcases listed with ⟨rfl, -⟩ | ⟨rfl, -⟩ | ⟨rfl, -⟩
    all_goals rfl

theorem readBasic_body (h : BasicBody chars body) (read rest : List Char)
    (hf : body.length < fuel) :
    readBasic fuel read (body ++ '"' :: rest) = some (String.ofList (read.reverse ++ chars), rest) := by
  induction h generalizing read fuel with
  | nil =>
    obtain ⟨fuel, rfl⟩ := Nat.exists_eq_succ_of_ne_zero (Nat.ne_of_gt hf)
    rw [List.nil_append, readBasic, List.append_nil]
  | plain isText notQuote notBackslash _ ih =>
    obtain ⟨fuel, rfl⟩ := Nat.exists_eq_succ_of_ne_zero (Nat.ne_zero_of_lt hf)
    rw [List.cons_append, readBasic]
    · rw [if_pos isText, ih _ (Nat.lt_of_succ_lt_succ hf), List.reverse_cons, List.append_assoc,
        List.singleton_append]
    · exact notQuote
    · exact notBackslash
  | escape isEscape _ ih =>
    obtain ⟨fuel, rfl⟩ := Nat.exists_eq_succ_of_ne_zero (Nat.ne_zero_of_lt hf)
    simp only [List.length_cons, List.length_append] at hf
    rw [List.cons_append, readBasic, List.append_assoc, readEscape_append isEscape]
    simp only [Option.bind_eq_bind, Option.bind_some]
    rw [ih _ (by omega), List.reverse_cons, List.append_assoc, List.singleton_append]

theorem readBasic_string {s : String} (h : BasicBody s.toList body) (rest : List Char)
    (hf : body.length < fuel) : readBasic fuel [] (body ++ '"' :: rest) = some (s, rest) := by
  rw [readBasic_body h [] rest hf, List.reverse_nil, List.nil_append, String.ofList_toList]

theorem readLiteral_body (h : LiteralBody body) (rest : List Char) :
    readLiteral (body ++ '\'' :: rest) = some (String.ofList body, rest) := by
  have taken : (body ++ '\'' :: rest).takeWhile (fun c => c != '\'' && isText c) = body := by
    apply Text.takeWhile_run
    · intro c hc
      obtain ⟨notQuote, isText⟩ := h c hc
      simp [notQuote, isText]
    · rintro c ⟨⟩
      rfl
  rw [readLiteral, taken, List.drop_left]
  rfl

section Long

variable {quote : Char} {escaped : Bool} {n : Nat} {cs : List Char}

theorem takeWhile_quotes (differ : ∀ d ∈ cs.head?, d ≠ quote) (n : Nat) :
    (List.replicate n quote ++ cs).takeWhile (· == quote) = List.replicate n quote := by
  apply Text.takeWhile_run
  · intro c hc
    rw [List.eq_of_mem_replicate hc, beq_self_eq_true]
  · intro d hd
    simpa using differ d hd

theorem endQuotes_few (few : n ≤ 2) (differ : c ≠ quote) (cs : List Char) :
    endQuotes quote (List.replicate n quote ++ c :: cs) = none := by
  have stop : ∀ d ∈ (c :: cs).head?, d ≠ quote := by simpa using differ
  have run := takeWhile_quotes stop n
  rw [endQuotes, run, List.length_replicate]
  simp only [show min 5 n < 3 by omega, if_true]

theorem endQuotes_stop (few : n ≤ 2) (differ : ∀ d ∈ rest.head?, d ≠ quote) :
    endQuotes quote (List.replicate n quote ++ (List.replicate 3 quote ++ rest)) =
      some (List.replicate n quote, rest) := by
  have run := takeWhile_quotes differ (n + 3)
  rw [← List.append_assoc, List.replicate_append_replicate, endQuotes, run, List.length_replicate,
    Nat.min_eq_right (by omega)]
  simp only [show ¬(n + 3 < 3) by omega, if_false, Nat.add_sub_cancel]
  rw [List.drop_left' (List.length_replicate ..)]

theorem readLong_text (more : endQuotes quote (c :: cs) = none) (isText : isText c = true)
    (notBackslash : escaped = true → c ≠ '\\') (read : List Char) :
    readLong quote escaped (fuel + 1) read (c :: cs) = readLong quote escaped fuel (c :: read) cs := by
  obtain ⟨notFeed, notReturn⟩ := isText_ne isText
  by_cases same : c = '\\'
  · subst same
    cases escaped with
    | true => exact absurd rfl (notBackslash rfl)
    | false =>
      rw [readLong, more]
      rfl
  · rw [readLong, more]
    · rw [if_pos isText]
    · exact same
    · exact notFeed
    · exact fun _ same _ => notReturn same

theorem readLong_quotes (isText : isText quote = true) (notBackslash : quote ≠ '\\')
    (differ : c ≠ quote) (few : n ≤ 2) (read cs : List Char) :
    readLong quote escaped (fuel + n) read (List.replicate n quote ++ c :: cs) =
      readLong quote escaped fuel (List.replicate n quote ++ read) (c :: cs) := by
  induction n generalizing read with
  | zero => rfl
  | succ n ih =>
    have more := endQuotes_few few differ cs
    rw [List.replicate_succ, List.cons_append] at more
    rw [List.replicate_succ, List.cons_append, ← Nat.add_assoc,
      readLong_text more isText (fun _ => notBackslash), ih (by omega)]
    rw [List.cons_append, ← List.cons_append, ← List.replicate_succ, List.replicate_succ',
      List.append_assoc, List.singleton_append]

theorem endQuotes_other (differ : c ≠ quote) (cs : List Char) : endQuotes quote (c :: cs) = none :=
  endQuotes_few (Nat.zero_le 2) differ cs

theorem readLong_line (notFeed : '\n' ≠ quote) (notReturn : '\r' ≠ quote) (isEnd : IsLineEnd stop)
    (read cs : List Char) :
    readLong quote escaped (fuel + 1) read (stop ++ cs) =
      readLong quote escaped fuel ('\n' :: read) cs := by
  cases isEnd with
  | feed => rw [List.cons_append, List.nil_append, readLong, endQuotes_other notFeed]
  | both =>
    rw [List.cons_append, List.cons_append, List.nil_append, readLong, endQuotes_other notReturn]

theorem readLong_escape (notQuote : '\\' ≠ quote) (isEscape : IsEscape c text)
    (read cs : List Char) :
    readLong quote true (fuel + 1) read ('\\' :: (text ++ cs)) =
      readLong quote true fuel (c :: read) cs := by
  rw [readLong, endQuotes_other notQuote]
  simp only [if_true, continueLine_escape isEscape, readEscape_append isEscape, Option.bind_eq_bind,
    Option.bind_some]

theorem readLong_stop {quotes : List Char} (h : endQuotes quote cs = some (quotes, rest))
    (read : List Char) : readLong quote escaped (fuel + 1) read cs =
      some (String.ofList (read.reverse ++ quotes), rest) := by
  unfold readLong
  rw [h]

theorem skip_skipped (h : Skipped gap) (solid : Solid cs) : continueLine.skip (gap ++ cs) = cs := by
  induction h with
  | nil =>
    cases cs with
    | nil => rfl
    | cons c cs =>
      obtain ⟨notBlank, notFeed, notReturn⟩ := solid c rfl
      rw [List.nil_append, continueLine.skip]
      · simp [notBlank, notFeed]
      · exact fun _ same _ => notReturn same
  | blank isBlank _ ih =>
    obtain ⟨-, notReturn, -⟩ := isBlank_ne isBlank
    rw [List.cons_append, continueLine.skip]
    · rw [if_pos (by simp [isBlank]), ih]
    · exact fun _ same _ => notReturn same
  | line isEnd _ ih =>
    cases isEnd with
    | feed => exact ih
    | both => exact ih

theorem continueLine_skipped {blank : List Char} (blanks : Blanks blank) (isEnd : IsLineEnd stop)
    (skipped : Skipped gap) (solid : Solid cs) :
    continueLine (blank ++ (stop ++ (gap ++ cs))) = some cs := by
  rw [continueLine, skipBlanks_append blanks]
  cases isEnd with
  | feed =>
    rw [List.cons_append, List.nil_append, skipBlanks_cons rfl]
    exact congrArg some (skip_skipped skipped solid)
  | both =>
    rw [List.cons_append, List.cons_append, List.nil_append, skipBlanks_cons rfl]
    exact congrArg some (skip_skipped skipped solid)

theorem readLong_continued {blank : List Char} (notQuote : '\\' ≠ quote) (blanks : Blanks blank)
    (isEnd : IsLineEnd stop) (skipped : Skipped gap) (solid : Solid cs) (read : List Char) :
    readLong quote true (fuel + 1) read ('\\' :: (blank ++ (stop ++ (gap ++ cs)))) =
      readLong quote true fuel read cs := by
  rw [readLong, endQuotes_other notQuote]
  simp only [if_true, continueLine_skipped blanks isEnd skipped solid]

theorem solid_append (solid : Solid body) (behind : Solid cs) : Solid (body ++ cs) := by
  cases body with
  | nil => exact behind
  | cons c body => exact solid

theorem readLong_body (isQuote : quote = '"' ∨ quote = '\'')
    (h : LongBody quote escaped chars body) (free : ∀ c ∈ rest.head?, c ≠ quote) (read : List Char)
    (hf : body.length < fuel) :
    readLong quote escaped fuel read (body ++ (List.replicate 3 quote ++ rest)) =
      some (String.ofList (read.reverse ++ chars), rest) := by
  have isText : isText quote = true := by rcases isQuote with rfl | rfl <;> rfl
  have notBackslash : '\\' ≠ quote := by rcases isQuote with rfl | rfl <;> decide
  have notFeed : '\n' ≠ quote := by rcases isQuote with rfl | rfl <;> decide
  have notReturn : '\r' ≠ quote := by rcases isQuote with rfl | rfl <;> decide
  induction h generalizing read fuel with
  | stop few =>
    obtain ⟨fuel, rfl⟩ := Nat.exists_eq_succ_of_ne_zero (Nat.ne_zero_of_lt hf)
    exact readLong_stop (endQuotes_stop few free) read
  | plain isText notQuote notBackslash _ ih =>
    obtain ⟨fuel, rfl⟩ := Nat.exists_eq_succ_of_ne_zero (Nat.ne_zero_of_lt hf)
    rw [List.cons_append, readLong_text (endQuotes_other notQuote _) isText notBackslash,
      ih _ (Nat.lt_of_succ_lt_succ hf), List.reverse_cons, List.append_assoc, List.singleton_append]
  | line isEnd _ ih =>
    obtain ⟨fuel, rfl⟩ := Nat.exists_eq_succ_of_ne_zero (Nat.ne_zero_of_lt hf)
    have nonempty := lineEnd_length isEnd
    rw [List.length_append] at hf
    rw [List.append_assoc, readLong_line notFeed notReturn isEnd, ih _ (by omega),
      List.reverse_cons, List.append_assoc, List.singleton_append]
  | escape may isEscape _ ih =>
    obtain ⟨fuel, rfl⟩ := Nat.exists_eq_succ_of_ne_zero (Nat.ne_zero_of_lt hf)
    simp only [List.length_cons, List.length_append] at hf
    subst may
    rw [List.cons_append, List.append_assoc, readLong_escape notBackslash isEscape, ih _ (by omega),
      List.reverse_cons, List.append_assoc, List.singleton_append]
  | continued may blanks isEnd skipped solid _ ih =>
    obtain ⟨fuel, rfl⟩ := Nat.exists_eq_succ_of_ne_zero (Nat.ne_zero_of_lt hf)
    simp only [List.length_cons, List.length_append] at hf
    subst may
    have behind : Solid (List.replicate 3 quote ++ rest) := by
      rintro c ⟨⟩
      rcases isQuote with rfl | rfl <;> decide
    simp only [List.cons_append, List.append_assoc]
    rw [readLong_continued notBackslash blanks isEnd skipped (solid_append solid behind),
      ih _ (by omega)]
  | @quotes n _ _ _ few notQuote _ ih =>
    -- fewer than three quotes end nothing, and each of them takes a round
    rw [List.length_append, List.length_replicate] at hf
    obtain ⟨fuel, rfl⟩ : ∃ left, fuel = left + n := ⟨fuel - n, by omega⟩
    rw [List.append_assoc, List.cons_append, readLong_quotes isText notBackslash.symm notQuote few,
      ← List.cons_append, ih _ (by omega), List.reverse_append, List.reverse_replicate,
      List.append_assoc]

theorem dropFirstLineEnd_first (quote : Char) {first : List Char} (h : IsFirst body first)
    (notFeed : '\n' ≠ quote) (notReturn : '\r' ≠ quote) (rest : List Char) :
    dropFirstLineEnd (first ++ (body ++ quote :: rest)) = body ++ quote :: rest := by
  cases h with
  | none solid =>
    rw [List.nil_append]
    cases body with
    | nil =>
      rw [List.nil_append, dropFirstLineEnd]
      · exact fun _ same => notFeed (List.cons.inj same).1.symm
      · exact fun _ same => notReturn (List.cons.inj same).1.symm
    | cons c body =>
      obtain ⟨notFeed, notReturn⟩ := solid c rfl
      rw [List.cons_append, dropFirstLineEnd]
      · exact fun _ same => notFeed (List.cons.inj same).1
      · exact fun _ same => notReturn (List.cons.inj same).1
  | line isEnd => cases isEnd <;> rfl

end Long

theorem basicBody_cons (h : BasicBody chars body) : ∀ c ∈ body.head?, c ≠ '"' := by
  cases h with
  | nil => simp
  | plain _ notQuote _ _ => simpa using notQuote
  | escape => simp

/-- Behind a string with one quote on either side there is no third quote. -/
theorem not_two_quotes {quote : Char} (inner : ∀ c ∈ body.head?, c ≠ quote)
    (free : ∀ c ∈ rest.head?, c ≠ quote) (more : List Char) :
    body ++ quote :: rest ≠ quote :: quote :: more := by
  intro same
  cases body with
  | nil =>
    cases same
    exact free quote rfl rfl
  | cons c body => exact inner c rfl (List.cons.inj same).1

theorem readString_spelled {s : String} (h : Spells s text)
    (free : ∀ c ∈ rest.head?, c ≠ '"' ∧ c ≠ '\'') : readString (text ++ rest) = some (s, rest) := by
  have noQuote : ∀ c ∈ rest.head?, c ≠ '"' := fun c hc => (free c hc).1
  have noApostrophe : ∀ c ∈ rest.head?, c ≠ '\'' := fun c hc => (free c hc).2
  cases h with
  | basic chars =>
    rw [List.cons_append, List.append_assoc, List.singleton_append, readString]
    · apply readBasic_string chars
      simp only [List.length_cons, List.length_append]
      omega
    · exact not_two_quotes (basicBody_cons chars) noQuote
  | literal isBody =>
    rw [List.cons_append, List.append_assoc, List.singleton_append, readString,
      readLiteral_body isBody, String.ofList_toList]
    apply not_two_quotes _ noApostrophe
    intro c hc
    exact (isBody c (List.mem_of_mem_head? hc)).1
  | @longBasic first body isFirst chars =>
    have behind := dropFirstLineEnd_first '"' isFirst (by decide) (by decide)
      ('"' :: '"' :: rest)
    simp only [List.cons_append, List.nil_append, List.append_assoc]
    rw [readString, behind]
    have enough : body.length <
        (['"', '"', '"'] ++ (first ++ (body ++ '"' :: '"' :: '"' :: rest))).length + 1 := by
      simp only [List.length_append]
      omega
    have read := readLong_body (.inl rfl) chars noQuote [] enough
    rw [List.reverse_nil, List.nil_append, String.ofList_toList] at read
    exact read
  | @longLiteral first body isFirst chars =>
    have behind := dropFirstLineEnd_first '\'' isFirst (by decide) (by decide)
      ('\'' :: '\'' :: rest)
    simp only [List.cons_append, List.nil_append, List.append_assoc]
    rw [readString, behind]
    have enough : body.length <
        (['\'', '\'', '\''] ++ (first ++ (body ++ '\'' :: '\'' :: '\'' :: rest))).length + 1 := by
      simp only [List.length_append]
      omega
    have read := readLong_body (.inr rfl) chars noApostrophe [] enough
    rw [List.reverse_nil, List.nil_append, String.ofList_toList] at read
    exact read

/-! ## Reading keys -/

theorem isBareKey_ne (h : isBareKey c = true) : c ≠ '"' ∧ c ≠ '\'' ∧ isBlank c = false := by
  refine ⟨?_, ?_, ?_⟩
  · rintro rfl
    cases h
  · rintro rfl
    cases h
  · rw [← Bool.not_eq_true]
    intro blank
    simp only [isBlank, Bool.or_eq_true, beq_iff_eq] at blank
    rcases blank with rfl | rfl <;> cases h

theorem readSimpleKey_spelled {s : String} (h : SpellsKey s text)
    (stop : ∀ c ∈ rest.head?, isBareKey c = false) :
    readSimpleKey (text ++ rest) = some (s, rest) := by
  cases h with
  | bare nonempty all =>
    obtain ⟨c, more, whole⟩ := List.exists_cons_of_ne_nil nonempty
    obtain ⟨notQuote, notApostrophe, -⟩ := isBareKey_ne (all c (by simp [whole]))
    have begins : s.toList ++ rest = c :: (more ++ rest) := by rw [whole, List.cons_append]
    rw [readSimpleKey]
    · simp [Text.takeWhile_run all stop, nonempty]
    · exact fun _ same => notQuote (List.cons.inj (begins.symm.trans same)).1
    · exact fun _ same => notApostrophe (List.cons.inj (begins.symm.trans same)).1
  | basic chars =>
    rw [List.cons_append, List.append_assoc, List.singleton_append, readSimpleKey]
    apply readBasic_string chars
    simp only [List.length_cons, List.length_append]
    omega
  | literal isBody =>
    rw [List.cons_append, List.append_assoc, List.singleton_append, readSimpleKey,
      readLiteral_body isBody, String.ofList_toList]

def KeyStart (c : Char) : Prop := isBareKey c = true ∨ c = '"' ∨ c = '\''

theorem not_blank_of_keyStart (h : KeyStart c) : isBlank c = false := by
  rcases h with bare | rfl | rfl
  · exact (isBareKey_ne bare).2.2
  all_goals rfl

theorem key_cons {s : String} (h : SpellsKey s text) : ∃ c more, text = c :: more ∧ KeyStart c := by
  cases h with
  | bare nonempty all =>
    obtain ⟨c, more, whole⟩ := List.exists_cons_of_ne_nil nonempty
    exact ⟨c, more, whole, .inl (all c (by simp [whole]))⟩
  | basic => exact ⟨'"', _, rfl, .inr (.inl rfl)⟩
  | literal => exact ⟨'\'', _, rfl, .inr (.inr rfl)⟩

theorem path_cons {path : List String} (h : SpellsPath path text) :
    ∃ before c more, text = before ++ c :: more ∧ Blanks before ∧ KeyStart c ∧
      SpellsPath path (c :: more) := by
  have none : Blanks [] := fun c hc => nomatch hc
  cases h with
  | last blanks spelled blanks' =>
    obtain ⟨c, more, rfl, start⟩ := key_cons spelled
    exact ⟨_, c, _, rfl, blanks, start, .last none spelled blanks'⟩
  | more blanks spelled blanks' rest =>
    obtain ⟨c, more, rfl, start⟩ := key_cons spelled
    exact ⟨_, c, _, rfl, blanks, start, .more none spelled blanks' rest⟩

theorem not_bare_of_blanks (h : Blanks gap) (stop : isBareKey c = false) (rest : List Char) :
    ∀ d ∈ (gap ++ c :: rest).head?, isBareKey d = false := by
  cases gap with
  | nil => simpa using stop
  | cons d gap =>
    rintro e ⟨⟩
    rw [← Bool.not_eq_true]
    intro bare
    have blank := h d List.mem_cons_self
    rw [(isBareKey_ne bare).2.2] at blank
    cases blank

theorem readSimpleKey_blanks {s : String} {before after : List Char} (blanks : Blanks before)
    (h : SpellsKey s text) (blanks' : Blanks after) (stop : isBareKey c = false) (rest : List Char) :
    readSimpleKey (skipBlanks (before ++ (text ++ (after ++ c :: rest)))) =
      some (s, after ++ c :: rest) := by
  have read := readSimpleKey_spelled h (not_bare_of_blanks blanks' stop rest)
  obtain ⟨d, more, rfl, start⟩ := key_cons h
  rw [skipBlanks_append blanks, List.cons_append, skipBlanks_cons (not_blank_of_keyStart start),
    ← List.cons_append, read]

theorem readKeys_path {path : List String} (h : SpellsPath path text) (stop : c = '=' ∨ c = ']')
    (rest : List Char) (hf : text.length < fuel) :
    readKeys fuel (text ++ c :: rest) = some (path, c :: rest) := by
  have notBlank : isBlank c = false := by rcases stop with rfl | rfl <;> rfl
  have notBare : isBareKey c = false := by rcases stop with rfl | rfl <;> rfl
  have notPoint : c ≠ '.' := by rcases stop with rfl | rfl <;> decide
  induction h generalizing fuel with
  | last blanks spelled blanks' =>
    obtain ⟨fuel, rfl⟩ := Nat.exists_eq_succ_of_ne_zero (Nat.ne_zero_of_lt hf)
    simp only [List.append_assoc]
    rw [readKeys, readSimpleKey_blanks blanks spelled blanks' notBare]
    simp only [Option.bind_eq_bind, Option.bind_some]
    rw [skipBlanks_append blanks', skipBlanks_cons notBlank]
    split
    · rename_i same
      cases same
      exact absurd rfl notPoint
    · rfl
  | @more _ _ _ _ _ later blanks spelled blanks' _ ih =>
    obtain ⟨fuel, rfl⟩ := Nat.exists_eq_succ_of_ne_zero (Nat.ne_zero_of_lt hf)
    simp only [List.append_assoc, List.cons_append, List.length_append, List.length_cons] at hf ⊢
    have enough : later.length < fuel := by omega
    rw [readKeys, readSimpleKey_blanks blanks spelled blanks' rfl]
    simp only [Option.bind_eq_bind, Option.bind_some]
    rw [skipBlanks_append blanks', skipBlanks_cons rfl]
    simp only [ih enough, Option.bind_some]

theorem readKey_path {path : List String} (h : SpellsPath path text) (stop : c = '=' ∨ c = ']')
    (rest : List Char) : readKey (text ++ c :: rest) = some (path, c :: rest) := by
  apply readKeys_path h stop
  rw [List.length_append]
  omega

end Scaffold.Toml
