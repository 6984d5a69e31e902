import Scaffold.Proofs.Pattern.Scanner
import Scaffold.Proofs.Text.CaseFold
import Scaffold.Proofs.Text.Runs
import Scaffold.Source.Table

/-!
# Reading statements that create tables

The statements that create tables, read directly: two words in any case, a clause of three more that
may be left out, an opening quote that may be left out, and a name. Where no name follows the
clause, the clause is not taken for one, and its first word is the name.
-/

namespace Scaffold.Table

open Pattern Attempt

/-! ## Reading -/

def wordAt? : List Char → List Char → Option (List Char)
  | [], text => some text
  | _ :: _, [] => none
  | k :: word, c :: text => if Text.fold c = Text.fold k then wordAt? word text else none

def blanksAt? (text : List Char) : Option (List Char) :=
  (takeRun? Text.isBlank text).map Prod.snd

def wordsAt? : List String → List Char → Option (List Char)
  | [], text => some text
  | word :: words, text =>
    ((wordAt? word.toList text).bind blanksAt?).bind (wordsAt? words)

def isQuote (c : Char) : Bool := "`\"".toList.contains c

def skipQuote : List Char → List Char
  | [] => []
  | c :: text => if isQuote c then text else c :: text

def identifierAt? (text : List Char) : Option (List Char × List Char) :=
  takeRun? Text.isWord (skipQuote text)

def opening : List String := ["CREATE", "TABLE"]

def clause : List String := ["IF", "NOT", "EXISTS"]

def nameAt? (text : List Char) : Option (List Char × List Char) :=
  ((wordsAt? clause text).bind identifierAt?).or (identifierAt? text)

def statementAt? (text : List Char) : Option (List Char × List Char) :=
  (wordsAt? opening text).bind nameAt?

/-- A name that is reported, with the text from its statement on. -/
structure Report where
  statement : List Char
  name : List Char

variable {α : Type} {c : Char} {word text rest taken : List Char} {words : List String}
  {place : Place} {groups : Groups} {accept : Place → Groups → Option α}

theorem wordAt?_eq_some_iff : wordAt? word text = some rest ↔
    ∃ spelled, text = spelled ++ rest ∧ spelled.map Text.fold = word.map Text.fold := by
  induction word generalizing text with
  | nil => simp [wordAt?, eq_comm]
  | cons k word ih =>
    cases text with
    | nil => simp [wordAt?]
    | cons c text =>
      rw [wordAt?, Option.ite_none_right_eq_some, ih]
      constructor
      · rintro ⟨same, spelled, rfl, rest⟩
        exact ⟨c :: spelled, rfl, by rw [List.map_cons, List.map_cons, same, rest]⟩
      · rintro ⟨spelled, text, folds⟩
        cases spelled with
        | nil => cases folds
        | cons d spelled =>
          obtain ⟨rfl, rfl⟩ := List.cons.inj text
          obtain ⟨same, folds⟩ := List.cons.inj folds
          exact ⟨same, spelled, rfl, folds⟩

theorem suffix_of_wordAt? (h : wordAt? word text = some rest) : rest <:+ text := by
  obtain ⟨spelled, rfl, -⟩ := wordAt?_eq_some_iff.mp h
  exact List.suffix_append spelled rest

theorem suffix_of_takeRun? {kind : Char → Bool} (h : takeRun? kind text = some (taken, rest)) :
    rest <:+ text :=
  ⟨taken, takeRun?_parts h⟩

theorem suffix_of_blanksAt? (h : blanksAt? text = some rest) : rest <:+ text := by
  obtain ⟨⟨gap, behind⟩, run, rfl⟩ := Option.map_eq_some_iff.mp h
  exact suffix_of_takeRun? run

theorem suffix_of_wordsAt? (h : wordsAt? words text = some rest) : rest <:+ text := by
  induction words generalizing text with
  | nil =>
    cases h
    exact List.suffix_refl rest
  | cons word words ih =>
    obtain ⟨more, first, later⟩ := Option.bind_eq_some_iff.mp h
    obtain ⟨behind, spelled, blanks⟩ := Option.bind_eq_some_iff.mp first
    exact (ih later).trans ((suffix_of_blanksAt? blanks).trans (suffix_of_wordAt? spelled))

theorem suffix_skipQuote (text : List Char) : skipQuote text <:+ text := by
  cases text with
  | nil => exact List.suffix_refl []
  | cons c text =>
    rw [skipQuote]
    split
    · exact List.suffix_cons c text
    · exact List.suffix_refl (c :: text)

theorem suffix_of_identifierAt? (h : identifierAt? text = some (taken, rest)) : rest <:+ text :=
  (suffix_of_takeRun? h).trans (suffix_skipQuote text)

theorem suffix_of_nameAt? (h : nameAt? text = some (taken, rest)) : rest <:+ text := by
  obtain h | ⟨-, h⟩ := Option.or_eq_some_iff.mp h
  · obtain ⟨behind, words, name⟩ := Option.bind_eq_some_iff.mp h
    exact (suffix_of_identifierAt? name).trans (suffix_of_wordsAt? words)
  · exact suffix_of_identifierAt? h

/-- A statement takes at least its first word. -/
theorem statementAt?_parts (h : statementAt? text = some (taken, rest)) :
    rest <:+ text ∧ rest.length < text.length := by
  obtain ⟨behind, words, name⟩ := Option.bind_eq_some_iff.mp h
  obtain ⟨more, first, later⟩ := Option.bind_eq_some_iff.mp words
  obtain ⟨gap, spelled, blanks⟩ := Option.bind_eq_some_iff.mp first
  obtain ⟨create, rfl, folds⟩ := wordAt?_eq_some_iff.mp spelled
  have inside : rest <:+ gap := (suffix_of_nameAt? name).trans
    ((suffix_of_wordsAt? later).trans (suffix_of_blanksAt? blanks))
  have taken : create.length = 6 := by
    rw [← List.length_map, folds]
    rfl
  constructor
  · exact inside.trans (List.suffix_append create gap)
  · have short := inside.length_le
    rw [List.length_append]
    omega

def scanner : Scanner Report where
  step text := (statementAt? text).map fun read => (⟨text, read.1⟩, read.2)
  shrinks h := by
    obtain ⟨⟨name, rest⟩, read, same⟩ := Option.map_eq_some_iff.mp h
    cases same
    exact (statementAt?_parts read).2

theorem step_eq (text : List Char) :
    scanner.step text = (statementAt? text).map fun read => (⟨text, read.1⟩, read.2) := rfl

theorem statementAt?_of_step {report : Report} (h : scanner.step text = some (report, rest)) :
    report.statement = text ∧ statementAt? text = some (report.name, rest) := by
  obtain ⟨⟨name, behind⟩, read, same⟩ := Option.map_eq_some_iff.mp h
  cases same
  exact ⟨rfl, read⟩

def reports (text : List Char) : List Report := scanner.run text

theorem statementAt?_of_mem_reports {report : Report} (mem : report ∈ reports text) :
    report.statement <:+ text ∧
      ∃ rest, statementAt? report.statement = some (report.name, rest) := by
  obtain ⟨start, rest, isSuffix, step⟩ := Scanner.exists_step_of_mem_run
    (fun step => (statementAt?_parts (statementAt?_of_step step).2).1) mem
  obtain ⟨rfl, read⟩ := statementAt?_of_step step
  exact ⟨isSuffix, rest, read⟩

/-! ## The pattern -/

theorem goesOn_caseless (capital : ∀ k ∈ word, k.isUpper = true) (h : place.IsAt text) :
    GoesOn accept ((wordAt? word text).map fun rest => (groups, rest))
      ((sequence (word.map fun k => one (.caseless (.single k)))).attempt place groups accept) := by
  induction word generalizing place text with
  | nil => exact .stops groups h
  | cons k word ih =>
    obtain ⟨first, later⟩ := List.forall_mem_cons.mp capital
    rw [List.map_cons, attempt_sequence_cons]
    cases text with
    | nil =>
      rw [attempt_one_of_not_mem h (by simp)]
      exact .fails
    | cons c text =>
      rw [wordAt?]
      split
      · rename_i same
        rw [attempt_one_of_mem h ((Text.contains_caseless_iff first).mpr same)]
        exact ih later h.past
      · rename_i differs
        rw [attempt_one_of_not_mem h]
        · exact .fails
        · rintro d ⟨⟩
          rw [← Bool.not_eq_true, Text.contains_caseless_iff first]
          exact differs

/-- What is accepted does not begin with a blank. -/
def Solid (accept : Place → Groups → Option α) : Prop :=
  ∀ ⦃stop c rest groups⦄, stop.IsAt (c :: rest) → Text.isBlank c = true → accept stop groups = none

theorem goesOn_blanks (solid : Solid accept) (h : place.IsAt text) :
    GoesOn accept ((blanksAt? text).map fun rest => (groups, rest))
      (blankPlus.attempt place groups accept) := by
  rw [blanksAt?, Option.map_map]
  exact goesOn_someRun_of_blocks (s := .blank) h fun stop c rest isAt blank => solid isAt blank

def spaced (words : List String) : List Pattern :=
  words.flatMap fun word => [caselessLiteral word, blankPlus]

def AreCapitals (words : List String) : Prop :=
  ∀ word ∈ words, word.toList ≠ [] ∧ ∀ k ∈ word.toList, k.isUpper = true

instance (words : List String) : Decidable (AreCapitals words) :=
  decidable_of_iff (words.all fun word => !word.toList.isEmpty && word.toList.all Char.isUpper)
    (by simp [AreCapitals])

variable {ps : List Pattern}

theorem wordAt?_blank (nonempty : word ≠ []) (capital : ∀ k ∈ word, k.isUpper = true)
    (blank : Text.isBlank c = true) : wordAt? word (c :: text) = none := by
  obtain ⟨k, word, rfl⟩ := List.exists_cons_of_ne_nil nonempty
  rw [wordAt?, if_neg]
  intro same
  have isWord := Text.isWord_of_fold_eq (capital k List.mem_cons_self) same
  rw [Text.isBlank_of_isWord isWord] at blank
  cases blank

/-! ## Words with blanks behind them -/

/-- What is behind words that each have blanks behind them, in whichever way a word is read. -/
def spacedAt? (read : String → List Char → Option (List Char)) :
    List String → List Char → Option (List Char)
  | [], text => some text
  | word :: words, text => ((read word text).bind blanksAt?).bind (spacedAt? read words)

theorem wordsAt?_eq (words : List String) (text : List Char) :
    wordsAt? words text = spacedAt? (fun word => wordAt? word.toList) words text := by
  induction words generalizing text with
  | nil => rfl
  | cons word words ih =>
    rw [wordsAt?, spacedAt?]
    exact congrArg _ (funext ih)

/-- The pattern for a word matches what is read of it, and no blank is its beginning. -/
structure Spells (read : String → List Char → Option (List Char)) (pattern : String → Pattern)
    (word : String) : Prop where
  goesOn : ∀ {α : Type} {place : Place} {text : List Char} (groups : Groups)
    (accept : Place → Groups → Option α), place.IsAt text →
      GoesOn accept ((read word text).map fun rest => (groups, rest))
        ((pattern word).attempt place groups accept)
  blank : ∀ {c : Char} {text : List Char}, Text.isBlank c = true → read word (c :: text) = none

variable {read : String → List Char → Option (List Char)} {pattern : String → Pattern}

theorem spells_caseless {word : String} (nonempty : word.toList ≠ [])
    (capital : ∀ k ∈ word.toList, k.isUpper = true) :
    Spells (fun word => wordAt? word.toList) caselessLiteral word :=
  ⟨fun _ _ => goesOn_caseless capital, wordAt?_blank nonempty capital⟩

theorem Spells.solid {word : String} (spells : Spells read pattern word)
    (next : Place → Groups → Option α) :
    Solid fun stop groups => (pattern word).attempt stop groups next := by
  intro stop c rest groups isAt blank
  have goesOn := spells.goesOn groups next isAt
  rw [spells.blank blank] at goesOn
  exact goesOn.eq_none

theorem solid_spacedBy (spells : ∀ word ∈ words, Spells read pattern word)
    (solid : Solid fun stop groups => (sequence ps).attempt stop groups accept) :
    Solid fun stop groups => (sequence (words.flatMap (fun word => [pattern word, blankPlus]) ++
      ps)).attempt stop groups accept := by
  cases words with
  | nil => exact solid
  | cons word words =>
    intro stop c rest groups isAt blank
    change (sequence (pattern word :: blankPlus :: (words.flatMap _ ++ ps))).attempt _ _ _ = none
    rw [attempt_sequence_cons]
    exact (spells word List.mem_cons_self).solid _ isAt blank

theorem goesOn_spacedBy (spells : ∀ word ∈ words, Spells read pattern word)
    (solid : Solid fun stop groups => (sequence ps).attempt stop groups accept)
    (h : place.IsAt text) :
    GoesOn (fun stop groups => (sequence ps).attempt stop groups accept)
      ((spacedAt? read words text).map fun rest => (groups, rest))
      ((sequence (words.flatMap (fun word => [pattern word, blankPlus]) ++ ps)).attempt
        place groups accept) := by
  induction words generalizing place text with
  | nil => exact .stops groups h
  | cons word words ih =>
    obtain ⟨first, later⟩ := List.forall_mem_cons.mp spells
    rw [spacedAt?, Option.bind_assoc, Option.map_bind, List.flatMap_cons, List.append_assoc,
      List.cons_append, attempt_sequence_cons]
    refine (first.goesOn groups _ h).andThen fun behind stop _ isAt => ?_
    rw [List.cons_append, List.nil_append, attempt_sequence_cons, Function.comp_apply,
      Option.map_bind]
    refine (goesOn_blanks (solid_spacedBy later solid) isAt).andThen fun more stop _ isAt => ?_
    exact ih later isAt

theorem goesOn_spaced (capital : AreCapitals words)
    (solid : Solid fun stop groups => (sequence ps).attempt stop groups accept)
    (h : place.IsAt text) :
    GoesOn (fun stop groups => (sequence ps).attempt stop groups accept)
      ((wordsAt? words text).map fun rest => (groups, rest))
      ((sequence (spaced words ++ ps)).attempt place groups accept) := by
  rw [wordsAt?_eq]
  exact goesOn_spacedBy (fun word mem => spells_caseless (capital word mem).1 (capital word mem).2)
    solid h

theorem attempt_optional (p : Pattern) : (optional p).attempt place groups accept =
    (p.attempt place groups accept).or (accept place groups) :=
  prefer_apply true (andThen p.attempt skip)

/-! ## Names -/

theorem isQuote_iff (c : Char) : (CharSet.oneOf "`\"".toList).contains c = isQuote c := by
  rw [Bool.eq_iff_iff, CharSet.contains_oneOf_iff, isQuote, List.contains_iff_mem]

theorem eq_of_isQuote (h : isQuote c = true) : c = '`' ∨ c = '"' := by
  have mem : c ∈ ['`', '"'] := List.contains_iff_mem.mp h
  rwa [List.mem_cons, List.mem_singleton] at mem

theorem not_isWord_of_isQuote (h : isQuote c = true) : Text.isWord c = false := by
  obtain rfl | rfl := eq_of_isQuote h
  · decide
  · decide

theorem takeRun?_quote (h : isQuote c = true) : takeRun? Text.isWord (c :: text) = none := by
  apply takeRun?_of_neg
  rintro d ⟨⟩
  exact not_isWord_of_isQuote h

theorem skipQuote_of_isWord (h : Text.isWord c = true) : skipQuote (c :: text) = c :: text := by
  rw [skipQuote, if_neg]
  intro quote
  rw [not_isWord_of_isQuote quote] at h
  cases h

theorem goesOn_name (h : place.IsAt text)
    (accepts : ∀ stop groups, (accept stop groups).isSome = true) :
    GoesOn accept ((takeRun? Text.isWord text).map fun read => ((1, read.1) :: groups, read.2))
      ((sequence [group 1 wordPlus]).attempt place groups accept) :=
  GoesOn.group h (goesOn_word h fun _ _ => accepts _ _) fun _ _ => takeRun?_parts

/-- The quote before a name is tried first, but no name begins with one. -/
theorem goesOn_identifier (h : place.IsAt text)
    (accepts : ∀ stop groups, (accept stop groups).isSome = true) :
    GoesOn accept ((identifierAt? text).map fun read => ((1, read.1) :: groups, read.2))
      ((sequence [optional (one (.oneOf "`\"".toList)), group 1 wordPlus]).attempt
        place groups accept) := by
  rw [attempt_sequence_cons, attempt_optional, identifierAt?]
  cases text with
  | nil =>
    rw [attempt_one_of_not_mem h (by simp), Option.none_or]
    exact goesOn_name h accepts
  | cons c text =>
    rw [skipQuote]
    split
    · rename_i quote
      -- A quote is no part of a name, so it cannot be left to the name.
      have bare := @goesOn_name α _ _ groups accept h accepts
      rw [takeRun?_quote quote] at bare
      rw [attempt_one_of_mem h ((isQuote_iff c).trans quote), bare.eq_none, Option.or_none]
      exact goesOn_name h.past accepts
    · rename_i other
      rw [attempt_one_of_not_mem h, Option.none_or]
      · exact goesOn_name h accepts
      · rintro d ⟨⟩
        rw [isQuote_iff, ← Bool.not_eq_true]
        exact other

theorem identifierAt?_blank (blank : Text.isBlank c = true) : identifierAt? (c :: text) = none := by
  have noQuote : ¬ isQuote c = true := by
    intro quote
    obtain rfl | rfl := eq_of_isQuote quote
    · exact absurd blank (by decide)
    · exact absurd blank (by decide)
  rw [identifierAt?, skipQuote, if_neg noQuote]
  apply takeRun?_of_neg
  rintro d ⟨⟩
  exact Text.isWord_of_isBlank blank

theorem solid_identifier (accepts : ∀ stop groups, (accept stop groups).isSome = true) :
    Solid fun stop groups =>
      (sequence [optional (one (.oneOf "`\"".toList)), group 1 wordPlus]).attempt
        stop groups accept := by
  intro stop c rest groups isAt blank
  have goesOn := @goesOn_identifier α _ _ groups accept isAt accepts
  rw [identifierAt?_blank blank] at goesOn
  exact goesOn.eq_none

/-! ## Statements -/

/-- What stands behind the opening words: the clause, a quote and a name. -/
def namePattern : List Pattern :=
  [optional (sequence (spaced clause)), optional (one (.oneOf "`\"".toList)), group 1 wordPlus]

theorem createStatement_eq : createStatement = sequence (spaced opening ++ namePattern) := rfl

theorem areCapitals_opening : AreCapitals opening := by decide

theorem areCapitals_clause : AreCapitals clause := by decide

/-- The clause is tried first, and given up where no name follows it. -/
theorem goesOn_namePattern (h : place.IsAt text)
    (accepts : ∀ stop groups, (accept stop groups).isSome = true) :
    GoesOn accept ((nameAt? text).map fun read => ((1, read.1) :: groups, read.2))
      ((sequence namePattern).attempt place groups accept) := by
  rw [namePattern, attempt_sequence_cons, attempt_optional, nameAt?, Option.map_or]
  have claused : GoesOn accept
      (((wordsAt? clause text).bind identifierAt?).map fun read => ((1, read.1) :: groups, read.2))
      ((sequence (spaced clause)).attempt place groups fun stop groups =>
        (sequence [optional (one (.oneOf "`\"".toList)), group 1 wordPlus]).attempt
          stop groups accept) := by
    rw [Option.map_bind, ← List.append_nil (spaced clause)]
    refine (@goesOn_spaced α _ _ _ groups _ [] areCapitals_clause
      (solid_identifier accepts) h).andThen fun behind stop _ isAt => ?_
    exact goesOn_identifier isAt accepts
  exact claused.or_of_accepts (goesOn_identifier h accepts) accepts

theorem nameAt?_blank (blank : Text.isBlank c = true) : nameAt? (c :: text) = none := by
  obtain ⟨nonempty, letters⟩ := areCapitals_clause "IF" List.mem_cons_self
  have words : wordsAt? clause (c :: text) = none := by
    rw [clause, wordsAt?, wordAt?_blank nonempty letters blank]
    rfl
  rw [nameAt?, words, identifierAt?_blank blank]
  rfl

theorem solid_namePattern (accepts : ∀ stop groups, (accept stop groups).isSome = true) :
    Solid fun stop groups => (sequence namePattern).attempt stop groups accept := by
  intro stop c rest groups isAt blank
  have goesOn := @goesOn_namePattern α _ _ groups accept isAt accepts
  rw [nameAt?_blank blank] at goesOn
  exact goesOn.eq_none

theorem describes_statement : scanner.Describes createStatement fun report => [(1, report.name)] := by
  refine ⟨fun {place text} isAt => ?_⟩
  change GoesOn _ (((statementAt? text).map _).map _) _
  have solid := @solid_namePattern Found (fun stop groups => some ⟨place, stop, groups⟩)
    fun _ _ => rfl
  rw [statementAt?, Option.map_map, Option.map_bind, matchAt?, createStatement_eq]
  refine (goesOn_spaced areCapitals_opening solid isAt).andThen fun behind stop _ isAt => ?_
  exact goesOn_namePattern isAt fun _ _ => rfl

theorem namesOf_eq (text : List Char) :
    namesOf text = (reports text).map fun report => String.ofList report.name :=
  describes_statement.findAll (fun _ _ _ => rfl) text

end Scaffold.Table
