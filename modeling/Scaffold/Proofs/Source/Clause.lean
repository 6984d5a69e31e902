import Scaffold.Proofs.Source.Creation

/-!
# The clause before the name of a table

A statement may ask for a table only where there is none of its name. The clause that says so is
passed over if a name follows it, bare or behind an opening quote. If something else follows it, the
first word of the clause is reported.
-/

namespace Scaffold.Table

open Pattern

/-- The word in any mixture of capital and small letters. -/
def SpellsWord (word : String) (text : List Char) : Prop :=
  text.map Text.fold = word.toList.map Text.fold

instance (word : String) (text : List Char) : Decidable (SpellsWord word text) :=
  inferInstanceAs (Decidable (_ = _))

def IsGap (gap : List Char) : Prop := gap ≠ [] ∧ ∀ c ∈ gap, Text.isBlank c = true

instance (gap : List Char) : Decidable (IsGap gap) :=
  decidable_of_iff (!gap.isEmpty && gap.all Text.isBlank) (by simp [IsGap])

inductive Phrase : List String → List Char → Prop
  | word {word : String} {text : List Char} (spells : SpellsWord word text) : Phrase [word] text
  | more {word : String} {words : List String} {text gap rest : List Char}
    (spells : SpellsWord word text) (isGap : IsGap gap) (later : Phrase words rest) :
    Phrase (word :: words) (text ++ gap ++ rest)

/-- The beginning of a statement with the clause. -/
structure Claused where
  opening : List Char
  gap : List Char
  /-- The first word of the clause. -/
  condition : List Char
  middle : List Char
  ending : List Char
  isOpening : Phrase ["CREATE", "TABLE"] opening
  isGap : IsGap gap
  isCondition : SpellsWord "IF" condition
  isMiddle : IsGap middle
  isEnding : Phrase ["NOT", "EXISTS"] ending

namespace Claused

def clause (head : Claused) : List Char := head.condition ++ head.middle ++ head.ending

def written (head : Claused) : List Char := head.opening ++ head.gap ++ head.clause

theorem isClause (head : Claused) : Phrase ["IF", "NOT", "EXISTS"] head.clause :=
  .more head.isCondition head.isMiddle head.isEnding

end Claused

def identifierBehind? (text : List Char) : Option (List Char × List Char) :=
  (blanksAt? text).bind identifierAt?

variable {word : String} {words : List String} {text gap rest : List Char} {c : Char}

theorem wordAt?_spelled (spells : SpellsWord word text) (rest : List Char) :
    wordAt? word.toList (text ++ rest) = some rest :=
  wordAt?_eq_some_iff.mpr ⟨text, rfl, spells⟩

theorem isWord_of_spelled (capital : ∀ k ∈ word.toList, k.isUpper = true)
    (spells : SpellsWord word text) (mem : c ∈ text) : Text.isWord c = true := by
  have folded : Text.fold c ∈ word.toList.map Text.fold := spells ▸ List.mem_map_of_mem mem
  obtain ⟨k, letter, same⟩ := List.mem_map.mp folded
  exact Text.isWord_of_fold_eq (capital k letter) same.symm

theorem blanksAt?_gap (isGap : IsGap gap) (solid : ∀ c ∈ rest.head?, Text.isBlank c = false) :
    blanksAt? (gap ++ rest) = some rest := by
  rw [blanksAt?, takeRun?_append isGap.1 isGap.2 solid]
  rfl

theorem spelled_ne_nil (nonempty : word.toList ≠ []) (spells : SpellsWord word text) :
    text ≠ [] := by
  rintro rfl
  exact nonempty (List.map_eq_nil_iff.mp spells.symm)

theorem head_of_phrase (capital : AreCapitals words) (phrase : Phrase words text)
    (rest : List Char) : ∀ c ∈ (text ++ rest).head?, Text.isBlank c = false := by
  have first : ∀ {word : String} {spelled : List Char}, word ∈ words → SpellsWord word spelled →
      ∀ more, ∀ c ∈ (spelled ++ more).head?, Text.isBlank c = false := by
    intro word spelled mem spells more c head
    obtain ⟨nonempty, letters⟩ := capital word mem
    obtain ⟨d, spelled, rfl⟩ := List.exists_cons_of_ne_nil (spelled_ne_nil nonempty spells)
    cases head
    exact Text.isBlank_of_isWord (isWord_of_spelled letters spells List.mem_cons_self)
  cases phrase with
  | word spells => exact first List.mem_cons_self spells rest
  | more spells isGap later =>
    rw [List.append_assoc, List.append_assoc]
    exact first List.mem_cons_self spells _

theorem wordsAt?_phrase (capital : AreCapitals words) (phrase : Phrase words text)
    (rest : List Char) : wordsAt? words (text ++ rest) = blanksAt? rest := by
  induction phrase with
  | word spells =>
    rw [wordsAt?, wordAt?_spelled spells, Option.bind_some]
    exact Option.bind_fun_some _
  | more spells isGap later ih =>
    obtain ⟨-, capital⟩ := List.forall_mem_cons.mp capital
    rw [wordsAt?, List.append_assoc, List.append_assoc, wordAt?_spelled spells, Option.bind_some,
      blanksAt?_gap isGap (head_of_phrase capital later rest), Option.bind_some, ih capital]

theorem identifierAt?_word {name : List Char} (nonempty : name ≠ [])
    (all : ∀ c ∈ name, Text.isWord c = true) (ends : ∀ c ∈ rest.head?, Text.isWord c = false) :
    identifierAt? (name ++ rest) = some (name, rest) := by
  have bare : skipQuote (name ++ rest) = name ++ rest := by
    obtain ⟨c, name, rfl⟩ := List.exists_cons_of_ne_nil nonempty
    exact skipQuote_of_isWord (all c List.mem_cons_self)
  rw [identifierAt?, bare, takeRun?_append nonempty all ends]

theorem head_written (head : Claused) (rest : List Char) :
    ∀ c ∈ (head.clause ++ rest).head?, Text.isBlank c = false :=
  head_of_phrase areCapitals_clause head.isClause rest

/-- Without the clause, its first word is the name. -/
theorem identifierAt?_clause (head : Claused) (rest : List Char) :
    identifierAt? (head.clause ++ rest) =
      some (head.condition, head.middle ++ head.ending ++ rest) := by
  have letters : ∀ k ∈ "IF".toList, k.isUpper = true :=
    (areCapitals_clause "IF" List.mem_cons_self).2
  rw [Claused.clause, List.append_assoc, List.append_assoc, ← List.append_assoc head.middle]
  apply identifierAt?_word (spelled_ne_nil (by decide) head.isCondition)
  · exact fun c mem => isWord_of_spelled letters head.isCondition mem
  · obtain ⟨d, middle, same⟩ := List.exists_cons_of_ne_nil head.isMiddle.1
    rw [same]
    rintro c ⟨⟩
    exact Text.isWord_of_isBlank (head.isMiddle.2 d (same ▸ List.mem_cons_self))

theorem statementAt?_written (head : Claused) (rest : List Char) :
    statementAt? (head.written ++ rest) =
      (identifierBehind? rest).or (some (head.condition, head.middle ++ head.ending ++ rest)) := by
  have opened : wordsAt? opening (head.written ++ rest) = some (head.clause ++ rest) := by
    rw [Claused.written, List.append_assoc, List.append_assoc,
      wordsAt?_phrase areCapitals_opening head.isOpening,
      blanksAt?_gap head.isGap (head_written head rest)]
  rw [statementAt?, opened, Option.bind_some, nameAt?, identifierAt?_clause,
    wordsAt?_phrase areCapitals_clause head.isClause, identifierBehind?]

/-- What is reported for a statement with the clause. -/
theorem namesOf_clause (text : List Char) :
    namesOf text = (reports text).map (fun report => String.ofList report.name) ∧
      ∀ report ∈ reports text, report.statement <:+ text ∧
        ∀ (head : Claused) (rest : List Char), report.statement = head.written ++ rest →
          report.name = ((identifierBehind? rest).map Prod.fst).getD head.condition := by
  refine ⟨namesOf_eq text, fun report mem => ?_⟩
  obtain ⟨isSuffix, rest, read⟩ := statementAt?_of_mem_reports mem
  refine ⟨isSuffix, fun head behind same => ?_⟩
  rw [same, statementAt?_written] at read
  cases named : identifierBehind? behind with
  | none =>
    rw [named] at read
    exact (congrArg Prod.fst (Option.some.inj read)).symm
  | some found =>
    rw [named] at read
    exact (congrArg Prod.fst (Option.some.inj read)).symm

def plain : Claused where
  opening := "CREATE".toList ++ [' '] ++ "TABLE".toList
  gap := [' ']
  condition := "IF".toList
  middle := [' ']
  ending := "NOT".toList ++ [' '] ++ "EXISTS".toList
  isOpening := .more (by decide) (by decide) (.word (by decide))
  isGap := by decide
  isCondition := by decide
  isMiddle := by decide
  isEnding := .more (by decide) (by decide) (.word (by decide))

/-- A name that is put in later is none, so the first word of the clause is reported. -/
theorem namesOf_interpolated :
    "CREATE TABLE IF NOT EXISTS $\x7bname\x7d".toList =
        plain.written ++ " $\x7bname\x7d".toList ∧
      identifierBehind? " $\x7bname\x7d".toList = none ∧
        namesOf "CREATE TABLE IF NOT EXISTS $\x7bname\x7d".toList = ["IF"] :=
  ⟨by decide +kernel, by decide, by decide +kernel⟩

def mixed : Claused where
  opening := "create".toList ++ ['\t'] ++ "Table".toList
  gap := ['\n', ' ']
  condition := "iF".toList
  middle := ['\n']
  ending := "not".toList ++ [' ', ' '] ++ "exiſts".toList
  isOpening := .more (by decide) (by decide) (.word (by decide))
  isGap := by decide
  isCondition := by decide
  isMiddle := by decide
  isEnding := .more (by decide) (by decide) (.word (by decide))

theorem namesOf_clause_mixed : ∃ report ∈ reports (mixed.written ++ " `users` (id)".toList),
    report.statement = mixed.written ++ " `users` (id)".toList ∧
      report.name = "users".toList := by
  have step : scanner.step (mixed.written ++ " `users` (id)".toList) =
      some (⟨mixed.written ++ " `users` (id)".toList, "users".toList⟩, "` (id)".toList) := by
    have named : identifierBehind? " `users` (id)".toList =
        some ("users".toList, "` (id)".toList) := by decide
    rw [step_eq, statementAt?_written, named]
    rfl
  have mem := List.mem_of_mem_head? (congrArg List.head? (Scanner.run_of_some step))
  obtain ⟨-, named⟩ := (namesOf_clause _).2 _ mem
  exact ⟨_, mem, rfl, (named mixed _ rfl).trans (by decide)⟩

end Scaffold.Table
