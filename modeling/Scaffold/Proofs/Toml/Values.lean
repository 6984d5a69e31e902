import Mathlib.Data.List.Forall2
import Scaffold.Proofs.Toml.Spelling
import Scaffold.Toml.Document

/-!
# Texts that mean a TOML value

A value is a word, a string, a list or a table between braces, with gaps between the parts of the
last two and perhaps a comma behind their last part. Every value is read from the texts that mean
it, as long as no more lists and tables are open at once than the reader allows.
-/

namespace Scaffold.Toml

/-! ## What texts mean -/

/-- A truth value, a number or a point in time. A blank may stand between a date and its time. -/
inductive IsWord (s : Scalar) : List Char → Prop
  | word {text : List Char} (nonempty : text ≠ []) (all : ∀ c ∈ text, isWordChar c = true)
    (meant : scalar? text = some s) : IsWord s text
  | moment {date clock : List Char} (nonempty : date ≠ [])
    (all : ∀ c ∈ date, isWordChar c = true) (all' : ∀ c ∈ clock, isWordChar c = true)
    (isDate : (readDate date).any (·.2.isEmpty) = true)
    (isClock : blankThenClock (' ' :: clock) = true)
    (meant : scalar? (date ++ ' ' :: clock) = some s) : IsWord s (date ++ ' ' :: clock)

/-- Parts with commas between them, up to the closing bracket. -/
inductive Parts (closing : Char) : List (List Char) → List Char → Prop
  | none {gap : List Char} (isGap : Gap gap) : Parts closing [] (gap ++ [closing])
  | last {gap text gap' : List Char} (isGap : Gap gap) (isGap' : Gap gap') :
    Parts closing [text] (gap ++ (text ++ (gap' ++ [closing])))
  | more {gap text gap' inner : List Char} {texts : List (List Char)} (isGap : Gap gap)
    (isGap' : Gap gap') (more : Parts closing texts inner) :
    Parts closing (text :: texts) (gap ++ (text ++ (gap' ++ ',' :: inner)))

abbrev Member := List Char × List Char

inductive IsMember : Member → List Char → Prop
  | pair {path value blank : List Char} (blanks : Blanks blank) :
    IsMember (path, value) (path ++ '=' :: (blank ++ value))

def addMembers : List (List String × Value) → Entries → Option Entries
  | [], entries => some entries
  | (path, v) :: members, entries => do
    let (path, key) ← splitLast path
    let entries ← entries.addValue key v path
    addMembers members entries

/-- The text means the value, with at most so many lists and tables open at once. -/
inductive Means : Nat → Value → List Char → Prop
  | scalar {depth : Nat} {s : Scalar} {text : List Char} (isWord : IsWord s text) :
    Means depth (.scalar s) text
  | string {depth : Nat} {s : String} {text : List Char} (spelled : Spells s text) :
    Means depth (.string s) text
  | list {depth : Nat} {items : List Value} {texts : List (List Char)} {inner : List Char}
    (same : items.length = texts.length)
    (each : ∀ pair ∈ items.zip texts, Means depth pair.1 pair.2)
    (parts : Parts ']' texts inner) : Means (depth + 1) (.list items) ('[' :: inner)
  | table {depth : Nat} {members : List (List String × Value)} {told : List Member}
    {texts : List (List Char)} {inner : List Char} {entries : Entries}
    (paths : List.Forall₂ (fun member m => SpellsPath member.1 m.1) members told)
    (values : ∀ pair ∈ members.zip told, Means depth pair.1.2 pair.2.2)
    (each : List.Forall₂ IsMember told texts) (parts : Parts '\x7d' texts inner)
    (made : addMembers members [] = some entries) :
    Means (depth + 1) (.table (finishEntries entries)) ('\x7b' :: inner)

/-! ## What follows values -/

variable {depth fuel : Nat} {c closing : Char} {s : Scalar} {v : Value}
  {gap text inner rest blank : List Char} {texts : List (List Char)} {items : List Value}
  {path : List String} {members : List (List String × Value)} {told : List Member}
  {entries final : Entries}

/-- What can follow a value. -/
def Ends (rest : List Char) : Prop := ∀ c ∈ (skipBlanks rest).head?,
  c = ',' ∨ c = ']' ∨ c = '\x7d' ∨ c = '#' ∨ c = '\n' ∨ c = '\r'

theorem ends_blanks (h : Blanks gap) (ends : Ends rest) : Ends (gap ++ rest) := by
  rw [Ends, skipBlanks_append h]
  exact ends

theorem ends_cons (h : c = ',' ∨ c = ']' ∨ c = '\x7d' ∨ c = '#' ∨ c = '\n' ∨ c = '\r')
    (rest : List Char) : Ends (c :: rest) := by
  have notBlank : isBlank c = false := by
    rcases h with rfl | rfl | rfl | rfl | rfl | rfl <;> rfl
  rw [Ends, skipBlanks_cons notBlank]
  rintro d ⟨⟩
  exact h

theorem ends_gap (h : Gap gap) (ends : Ends rest) : Ends (gap ++ rest) := by
  cases h with
  | blanks blanks => exact ends_blanks blanks ends
  | line blanks isNote isEnd _ =>
    simp only [List.append_assoc]
    apply ends_blanks blanks
    cases isNote with
    | none => cases isEnd <;> exact ends_cons (by decide) _
    | comment => exact ends_cons (by decide) _

theorem head_of_ends (ends : Ends rest) : ∀ c ∈ rest.head?, isBlank c = true ∨
    c = ',' ∨ c = ']' ∨ c = '\x7d' ∨ c = '#' ∨ c = '\n' ∨ c = '\r' := by
  intro c hc
  cases rest with
  | nil => cases hc
  | cons d rest =>
    cases hc
    by_cases blank : isBlank c = true
    · exact .inl blank
    · rw [Ends, skipBlanks_cons (by simpa using blank)] at ends
      exact .inr (ends c rfl)

theorem not_word_of_ends (ends : Ends rest) : ∀ c ∈ rest.head?, isWordChar c = false := by
  intro c hc
  rcases head_of_ends ends c hc with blank | rfl | rfl | rfl | rfl | rfl | rfl
  · simp only [isBlank, Bool.or_eq_true, beq_iff_eq] at blank
    rcases blank with rfl | rfl <;> rfl
  all_goals rfl

theorem not_quote_of_ends (ends : Ends rest) : ∀ c ∈ rest.head?, c ≠ '"' ∧ c ≠ '\'' := by
  intro c hc
  rcases head_of_ends ends c hc with blank | rfl | rfl | rfl | rfl | rfl | rfl
  · simp only [isBlank, Bool.or_eq_true, beq_iff_eq] at blank
    rcases blank with rfl | rfl <;> decide
  all_goals decide

theorem not_clock_of_ends (ends : Ends rest) : blankThenClock rest = false := by
  unfold blankThenClock
  split
  · rename_i a b more
    have blanks : Blanks [' '] := by simp [Blanks, isBlank]
    have behind : Ends (a :: b :: ':' :: more) := by
      rw [Ends, ← skipBlanks_append blanks]
      exact ends
    have notDigit : a.isDigit = false := by
      rcases head_of_ends behind a rfl with blank | rfl | rfl | rfl | rfl | rfl | rfl
      · simp only [isBlank, Bool.or_eq_true, beq_iff_eq] at blank
        rcases blank with rfl | rfl <;> rfl
      all_goals rfl
    rw [notDigit, Bool.false_and]
  · rfl

/-! ## Reading words -/

theorem readScalar_word (h : IsWord s text) (ends : Ends rest) :
    readScalar (text ++ rest) = some (s, rest) := by
  have stop := not_word_of_ends ends
  cases h with
  | word _ all meant =>
    rw [readScalar, Text.takeWhile_run all stop]
    simp only [List.drop_left, not_clock_of_ends ends, Bool.and_false, Bool.false_eq_true, if_false,
      meant, Option.map_some]
  | @moment date clock _ all all' isDate isClock meant =>
    have behind : ∀ c ∈ (' ' :: (clock ++ rest)).head?, isWordChar c = false := by
      rintro c ⟨⟩
      rfl
    have isClock' : blankThenClock (' ' :: (clock ++ rest)) = true := by
      unfold blankThenClock at isClock
      split at isClock
      · rename_i same
        cases same
        exact isClock
      · cases isClock
    rw [List.append_assoc, List.cons_append, readScalar, Text.takeWhile_run all behind]
    simp only [List.drop_left, isDate, isClock', Bool.and_self, if_true, List.drop_succ_cons,
      List.drop_zero, Text.takeWhile_run all' stop, meant, Option.map_some]
    rw [← List.cons_append, ← List.append_assoc, List.drop_left]

/-! ## How parts begin -/

/-- The character begins a part: no gap begins with it, and it ends no list and no table. -/
def Opening (c : Char) : Prop :=
  isBlank c = false ∧ c ≠ '\n' ∧ c ≠ '\r' ∧ c ≠ '#' ∧ c ≠ ']' ∧ c ≠ '\x7d'

def Opens (text : List Char) : Prop := ∃ c more, text = c :: more ∧ Opening c

theorem opens_word (h : isWordChar c = true) : Opening c := by
  refine ⟨?_, ?_, ?_, ?_, ?_, ?_⟩
  · rw [← Bool.not_eq_true]
    intro blank
    simp only [isBlank, Bool.or_eq_true, beq_iff_eq] at blank
    rcases blank with rfl | rfl <;> cases h
  all_goals
    rintro rfl
    cases h

theorem word_cons (h : IsWord s text) : ∃ c more, text = c :: more ∧ isWordChar c = true := by
  cases h with
  | word nonempty all _ =>
    obtain ⟨c, more, rfl⟩ := List.exists_cons_of_ne_nil nonempty
    exact ⟨c, more, rfl, all c List.mem_cons_self⟩
  | moment nonempty all _ _ _ _ =>
    obtain ⟨c, more, rfl⟩ := List.exists_cons_of_ne_nil nonempty
    exact ⟨c, _, rfl, all c List.mem_cons_self⟩

theorem string_cons {s : String} (h : Spells s text) :
    ∃ c more, text = c :: more ∧ (c = '"' ∨ c = '\'') := by
  cases h with
  | basic | longBasic => exact ⟨'"', _, rfl, .inl rfl⟩
  | literal | longLiteral => exact ⟨'\'', _, rfl, .inr rfl⟩

theorem opens_meant (h : Means depth v text) : Opens text := by
  cases h with
  | scalar isWord =>
    obtain ⟨c, more, rfl, isWordChar⟩ := word_cons isWord
    exact ⟨c, more, rfl, opens_word isWordChar⟩
  | string spelled =>
    obtain ⟨c, more, rfl, quote⟩ := string_cons spelled
    refine ⟨c, more, rfl, ?_⟩
    rcases quote with rfl | rfl
    all_goals exact ⟨rfl, by decide, by decide, by decide, by decide, by decide⟩
  | list => exact ⟨'[', _, rfl, rfl, by decide, by decide, by decide, by decide, by decide⟩
  | table => exact ⟨'\x7b', _, rfl, rfl, by decide, by decide, by decide, by decide, by decide⟩

theorem skipLines_opening (h : Opening c) (rest : List Char) :
    skipLines false (c :: rest) = c :: rest := by
  obtain ⟨notBlank, notFeed, notReturn, notNote, -⟩ := h
  rw [skipLines]
  · simp [notBlank, notNote]
  · exact notFeed
  · exact fun _ same _ => notReturn same

theorem skipLines_gap_cons (isGap : Gap gap) (opening : Opening c) (rest : List Char) :
    skipLines false (gap ++ c :: rest) = c :: rest := by
  rw [skipLines_gap isGap, skipLines_opening opening]

theorem skipLines_gap_comma (isGap : Gap gap) (rest : List Char) :
    skipLines false (gap ++ ',' :: rest) = ',' :: rest :=
  skipLines_gap_cons isGap ⟨rfl, by decide, by decide, by decide, by decide, by decide⟩ rest

theorem skipLines_gap_closing (isGap : Gap gap) (h : c = ']' ∨ c = '\x7d') (rest : List Char) :
    skipLines false (gap ++ c :: rest) = c :: rest := by
  rw [skipLines_gap isGap]
  rcases h with rfl | rfl <;> rfl

/-! ## Reading values -/

/-- The text is read as the value at a depth, whatever can follow it. -/
def ReadAs (depth : Nat) (v : Value) (text : List Char) : Prop :=
  ∀ fuel rest, Ends rest → 2 * text.length ≤ fuel →
    readValue fuel depth (text ++ rest) = some (v, rest)

theorem readAs_word (h : IsWord s text) : ReadAs depth (.scalar s) text := by
  intro fuel rest ends hf
  have read := readScalar_word h ends
  obtain ⟨c, more, rfl, isWord⟩ := word_cons h
  obtain ⟨fuel, rfl⟩ : ∃ n, fuel = n + 1 :=
    Nat.exists_eq_succ_of_ne_zero (by simp only [List.length_cons] at hf; omega)
  rw [List.cons_append] at read ⊢
  rw [readValue, read, Option.map_some]
  all_goals
    intro _ same
    cases same
    cases isWord

theorem opens_key (h : KeyStart c) : Opening c ∧ c ≠ '[' := by
  rcases h with bare | rfl | rfl
  · refine ⟨⟨(isBareKey_ne bare).2.2, ?_, ?_, ?_, ?_, ?_⟩, ?_⟩
    all_goals
      rintro rfl
      cases bare
  all_goals
    exact ⟨⟨rfl, by decide, by decide, by decide, by decide, by decide⟩, by decide⟩

theorem readAs_string {s : String} (h : Spells s text) : ReadAs depth (.string s) text := by
  intro fuel rest ends hf
  have read := readString_spelled h (not_quote_of_ends ends)
  obtain ⟨c, more, rfl, quote⟩ := string_cons h
  obtain ⟨fuel, rfl⟩ : ∃ n, fuel = n + 1 :=
    Nat.exists_eq_succ_of_ne_zero (by simp only [List.length_cons] at hf; omega)
  rw [List.cons_append] at read ⊢
  rcases quote with rfl | rfl
  all_goals rw [readValue, read, Option.map_some]

theorem readItems_item (isGap : Gap gap) (here : ReadAs depth v text) (opens : Opens text)
    (ends : Ends rest) (hf : 2 * text.length ≤ fuel) :
    readItems (fuel + 1) depth (gap ++ (text ++ rest)) =
      match skipLines false rest with
      | ',' :: rest => (readItems fuel depth rest).bind fun (items, rest) => some (v :: items, rest)
      | ']' :: rest => some ([v], rest)
      | _ => none := by
  have read := here fuel rest ends hf
  obtain ⟨c, more, rfl, opening⟩ := opens
  rw [List.cons_append] at read ⊢
  rw [readItems, skipLines_gap_cons isGap opening]
  split
  · rename_i same
    exact absurd (List.cons.inj same).1 opening.2.2.2.2.1
  · rw [read]
    rfl

theorem readItems_parts (parts : Parts ']' texts inner) (same : items.length = texts.length)
    (each : ∀ pair ∈ items.zip texts, ReadAs depth pair.1 pair.2) (opens : ∀ t ∈ texts, Opens t)
    (rest : List Char) (hf : 2 * inner.length ≤ fuel) :
    readItems fuel depth (inner ++ rest) = some (items, rest) := by
  induction parts generalizing items fuel with
  | none isGap =>
    obtain ⟨fuel, rfl⟩ : ∃ n, fuel = n + 1 :=
      Nat.exists_eq_succ_of_ne_zero (by simp at hf; omega)
    have none : items = [] := List.eq_nil_of_length_eq_zero same
    rw [List.append_assoc, List.singleton_append, readItems,
      skipLines_gap_closing isGap (.inl rfl), none]
    rfl
  | @last _ text _ isGap isGap' =>
    simp only [List.append_assoc, List.singleton_append, List.length_append, List.length_cons] at hf ⊢
    obtain ⟨fuel, rfl⟩ : ∃ n, fuel = n + 1 := Nat.exists_eq_succ_of_ne_zero (by omega)
    obtain ⟨v, rfl⟩ := List.length_eq_one_iff.mp same
    have here : ReadAs depth v text := each (v, text) List.mem_cons_self
    have ends := ends_gap isGap' (ends_cons (c := ']') (by decide) rest)
    rw [readItems_item isGap here (opens text List.mem_cons_self) ends (by omega),
      skipLines_gap_closing isGap' (.inl rfl)]
    rfl
  | @more _ text _ inner _ isGap isGap' _ ih =>
    simp only [List.append_assoc, List.cons_append, List.length_append, List.length_cons] at hf ⊢
    obtain ⟨fuel, rfl⟩ : ∃ n, fuel = n + 1 := Nat.exists_eq_succ_of_ne_zero (by omega)
    obtain ⟨v, items, rfl⟩ : ∃ item more, items = item :: more :=
      List.exists_cons_of_length_eq_add_one same
    have here : ReadAs depth v text := each (v, text) List.mem_cons_self
    have ends := ends_gap isGap' (ends_cons (c := ',') (by decide) (inner ++ rest))
    have enough : 2 * inner.length ≤ fuel := by omega
    have others := ih (Nat.succ.inj same) (fun pair mem => each pair (List.mem_cons_of_mem _ mem))
      (fun t ht => opens t (List.mem_cons_of_mem _ ht)) enough
    rw [readItems_item isGap here (opens text List.mem_cons_self) ends (by omega),
      skipLines_gap_comma isGap']
    simp only [others, Option.bind_some]

theorem readAs_list (parts : Parts ']' texts inner) (same : items.length = texts.length)
    (each : ∀ pair ∈ items.zip texts, ReadAs depth pair.1 pair.2) (opens : ∀ t ∈ texts, Opens t) :
    ReadAs (depth + 1) (.list items) ('[' :: inner) := by
  intro fuel rest _ hf
  rw [List.length_cons] at hf
  obtain ⟨fuel, rfl⟩ : ∃ n, fuel = n + 1 := Nat.exists_eq_succ_of_ne_zero (by omega)
  have enough : 2 * inner.length ≤ fuel := by omega
  have read := readItems_parts parts same each opens rest enough
  rw [List.cons_append, readValue]
  simp only [Nat.add_one_ne_zero, beq_iff_eq, if_false, Nat.add_sub_cancel, read, Option.map_some]

theorem readMembers_member {keys value pair : List Char} (isGap : Gap gap)
    (spelled : SpellsPath path keys) (here : ReadAs depth v value)
    (opens : Opens value) (isMember : IsMember (keys, value) pair)
    (ends : Ends rest) (hf : 2 * value.length ≤ fuel) :
    readMembers (fuel + 1) depth entries (gap ++ (pair ++ rest)) =
      (addMembers [(path, v)] entries).bind fun entries =>
        match skipLines false rest with
        | ',' :: rest => readMembers fuel depth entries rest
        | '\x7d' :: rest => some (entries, rest)
        | _ => none := by
  cases isMember with
  | @pair _ _ blank blanks =>
    obtain ⟨before, c, more, rfl, blanks', start, spelled⟩ := path_cons spelled
    have read := here fuel rest ends hf
    obtain ⟨d, behind, rfl, opening⟩ := opens
    obtain ⟨opening', -⟩ := opens_key start
    have key := readKey_path spelled (.inl rfl) (blank ++ (d :: behind ++ rest))
    simp only [List.append_assoc, List.cons_append] at key read ⊢
    rw [readMembers, skipLines_gap isGap, skipLines_blanks blanks', skipLines_opening opening']
    split
    · rename_i same
      exact absurd (List.cons.inj same).1 opening'.2.2.2.2.2
    · simp only [Option.bind_eq_bind, key, Option.bind_some, expect, beq_self_eq_true, if_true,
        skipBlanks_append blanks, skipBlanks_cons opening.1, read, addMembers]
      cases splitLast path with
      | none => rfl
      | some split =>
        simp only [Option.bind_some]
        cases entries.addValue split.2 v split.1 <;> rfl

theorem addMembers_cons (member : List String × Value) (members : List (List String × Value))
    (entries : Entries) : addMembers (member :: members) entries =
      (addMembers [member] entries).bind (addMembers members) := by
  obtain ⟨path, v⟩ := member
  simp only [addMembers, Option.bind_eq_bind]
  cases splitLast path with
  | none => rfl
  | some split =>
    simp only [Option.bind_some]
    cases entries.addValue split.2 v split.1 <;> rfl

theorem member_length {m : Member} (h : IsMember m text) : m.2.length < text.length := by
  cases h
  simp only [List.length_append, List.length_cons]
  omega

theorem readMembers_parts (parts : Parts '\x7d' texts inner) (each : List.Forall₂ IsMember told texts)
    (paths : List.Forall₂ (fun member m => SpellsPath member.1 m.1) members told)
    (values : ∀ pair ∈ members.zip told, ReadAs depth pair.1.2 pair.2.2)
    (opens : ∀ m ∈ told, Opens m.2)
    (made : addMembers members entries = some final) (rest : List Char)
    (hf : 2 * inner.length ≤ fuel) :
    readMembers fuel depth entries (inner ++ rest) = some (final, rest) := by
  -- on the parts, with `entries` free: each member is added to what the table has so far
  induction parts generalizing told members entries fuel with
  | none isGap =>
    obtain ⟨fuel, rfl⟩ : ∃ n, fuel = n + 1 :=
      Nat.exists_eq_succ_of_ne_zero (by simp at hf; omega)
    cases each
    cases paths
    cases made
    rw [List.append_assoc, List.singleton_append, readMembers,
      skipLines_gap_closing isGap (.inr rfl)]
    rfl
  | last isGap isGap' =>
    simp only [List.append_assoc, List.singleton_append, List.length_append, List.length_cons] at hf ⊢
    obtain ⟨fuel, rfl⟩ : ∃ n, fuel = n + 1 := Nat.exists_eq_succ_of_ne_zero (by omega)
    obtain ⟨m, _, isMember, none, rfl⟩ := List.forall₂_cons_right_iff.mp each
    cases none
    obtain ⟨member, _, spelled, none, rfl⟩ := List.forall₂_cons_right_iff.mp paths
    cases none
    have shorter := member_length isMember
    have here : ReadAs depth member.2 m.2 := values (member, m) List.mem_cons_self
    have ends := ends_gap isGap' (ends_cons (c := '\x7d') (by decide) rest)
    rw [readMembers_member isGap spelled here (opens m List.mem_cons_self) isMember ends (by omega),
      made, Option.bind_some, skipLines_gap_closing isGap' (.inr rfl)]
    rfl
  | @more _ _ _ inner _ isGap isGap' _ ih =>
    simp only [List.append_assoc, List.cons_append, List.length_append, List.length_cons] at hf ⊢
    obtain ⟨fuel, rfl⟩ : ∃ n, fuel = n + 1 := Nat.exists_eq_succ_of_ne_zero (by omega)
    obtain ⟨m, told, isMember, others, rfl⟩ := List.forall₂_cons_right_iff.mp each
    obtain ⟨member, members, spelled, spelled', rfl⟩ := List.forall₂_cons_right_iff.mp paths
    rw [addMembers_cons, Option.bind_eq_some_iff] at made
    obtain ⟨between, first, made⟩ := made
    have shorter := member_length isMember
    have here : ReadAs depth member.2 m.2 := values (member, m) List.mem_cons_self
    have ends := ends_gap isGap' (ends_cons (c := ',') (by decide) (inner ++ rest))
    rw [readMembers_member isGap spelled here (opens m List.mem_cons_self) isMember ends (by omega),
      first, Option.bind_some, skipLines_gap_comma isGap']
    exact ih others spelled' (fun pair mem => values pair (List.mem_cons_of_mem _ mem))
      (fun m hm => opens m (List.mem_cons_of_mem _ hm)) made (by omega)

theorem readAs_table (parts : Parts '\x7d' texts inner) (each : List.Forall₂ IsMember told texts)
    (paths : List.Forall₂ (fun member m => SpellsPath member.1 m.1) members told)
    (values : ∀ pair ∈ members.zip told, ReadAs depth pair.1.2 pair.2.2)
    (opens : ∀ m ∈ told, Opens m.2)
    (made : addMembers members [] = some entries) :
    ReadAs (depth + 1) (.table (finishEntries entries)) ('\x7b' :: inner) := by
  intro fuel rest _ hf
  rw [List.length_cons] at hf
  obtain ⟨fuel, rfl⟩ : ∃ n, fuel = n + 1 := Nat.exists_eq_succ_of_ne_zero (by omega)
  have enough : 2 * inner.length ≤ fuel := by omega
  have read := readMembers_parts parts each paths values opens made rest enough
  rw [List.cons_append, readValue]
  simp only [Nat.add_one_ne_zero, beq_iff_eq, if_false, Nat.add_sub_cancel, read, Option.map_some]

theorem readAs_meant (h : Means depth v text) : ReadAs depth v text := by
  induction h with
  | scalar isWord => exact readAs_word isWord
  | string spelled => exact readAs_string spelled
  | list same each parts ih =>
    apply readAs_list parts same ih
    intro t ht
    rw [← List.map_snd_zip (Nat.le_of_eq same.symm)] at ht
    obtain ⟨pair, mem, rfl⟩ := List.mem_map.mp ht
    exact opens_meant (each pair mem)
  | table paths values each parts made ih =>
    apply readAs_table parts each paths ih _ made
    intro m hm
    rw [← List.map_snd_zip (Nat.le_of_eq paths.length_eq.symm)] at hm
    obtain ⟨pair, mem, rfl⟩ := List.mem_map.mp hm
    exact opens_meant (values pair mem)

end Scaffold.Toml
