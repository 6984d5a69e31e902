import Scaffold.Proofs.Source.Clause
import Scaffold.Proofs.Source.Calls
import Scaffold.Proofs.Source.Entries

/-!
# Tables that are created

From statements that create tables the names are read, one for each statement and in their order,
whatever the names are: the words of the statement are names like any others. A survey has the
tables of all migrations that can be read and of the setup file, each once.
-/

namespace Scaffold

namespace Table

open Pattern

inductive Quotes
  | none
  | backticks
  | doubleQuotes
  deriving DecidableEq

def Quotes.mark : Quotes → List Char
  | none => []
  | backticks => ['`']
  | doubleQuotes => ['"']

/-- The words between the opening of a statement and the name, with the blanks behind them. -/
inductive IsCondition : List Char → Prop
  | none : IsCondition []
  | clause {text gap : List Char} (phrase : Phrase ["IF", "NOT", "EXISTS"] text)
    (isGap : IsGap gap) : IsCondition (text ++ gap)

/-- A statement that creates a table, up to the end of its line. -/
structure Creation where
  opening : List Char
  gap : List Char
  condition : List Char
  quotes : Quotes
  name : List Char
  lineBreak : List Char
  isOpening : Phrase ["CREATE", "TABLE"] opening
  isGap : IsGap gap
  isCondition : IsCondition condition
  isWord : IsWord name
  isBreak : lineBreak ∈ [['\n'], ['\r'], ['\r', '\n']]

theorem isBlank_of_blanksAt? {text rest : List Char} (h : blanksAt? text = some rest) :
    ∀ c ∈ text.head?, Text.isBlank c = true := by
  intro c head
  obtain ⟨more, rfl⟩ := List.head?_eq_some_iff.mp head
  by_contra other
  have nothing : takeRun? Text.isBlank (c :: more) = none := by
    apply takeRun?_of_neg
    rintro _ ⟨⟩
    exact Bool.eq_false_iff.mpr other
  rw [blanksAt?, nothing] at h
  cases h

namespace Creation

def closing (s : Creation) : List Char := s.quotes.mark ++ " (id INTEGER);".toList ++ s.lineBreak

def target (s : Creation) : List Char := s.quotes.mark ++ (s.name ++ s.closing)

def written (s : Creation) : List Char := s.opening ++ s.gap ++ s.condition ++ s.target

def created (s : Creation) : String := String.ofList s.name

variable (s : Creation) {rest : List Char}

theorem closing_noWord : ∀ c ∈ (s.closing ++ rest).head?, Text.isWord c = false := by
  rw [closing]
  cases s.quotes <;>
    · rintro c ⟨⟩
      decide

theorem identifierAt?_target :
    identifierAt? (s.target ++ rest) = some (s.name, s.closing ++ rest) := by
  have ends := @closing_noWord s rest
  have bare : takeRun? Text.isWord (s.name ++ (s.closing ++ rest)) =
      some (s.name, s.closing ++ rest) :=
    takeRun?_append s.isWord.1 s.isWord.2 ends
  rw [target, List.append_assoc, List.append_assoc]
  cases s.quotes with
  | none => exact identifierAt?_word s.isWord.1 s.isWord.2 ends
  | backticks => exact bare
  | doubleQuotes => exact bare

/-- No clause can be read where the name stands, also if the name is the first word of one. -/
theorem wordsAt?_target : wordsAt? clause (s.target ++ rest) = none := by
  rw [clause, wordsAt?, Option.bind_eq_none_iff]
  intro more first
  obtain ⟨behind, spelled, blanks⟩ := Option.bind_eq_some_iff.mp first
  obtain ⟨word, text, spells⟩ := wordAt?_eq_some_iff.mp spelled
  have read : takeRun? Text.isWord (s.target ++ rest) = some (word, behind) := by
    have letters : ∀ k ∈ "IF".toList, k.isUpper = true :=
      (areCapitals_clause "IF" List.mem_cons_self).2
    rw [text]
    refine takeRun?_append (spelled_ne_nil (by decide) spells) ?_ fun c head => ?_
    · exact fun c mem => isWord_of_spelled letters spells mem
    · exact Text.isWord_of_isBlank (isBlank_of_blanksAt? blanks c head)
  have ends := @closing_noWord s rest
  rw [target, List.append_assoc, List.append_assoc] at read
  cases quotes : s.quotes with
  | none =>
    -- the word is the name, and a bracket stands behind the blank that follows it
    rw [quotes] at read
    cases (takeRun?_append s.isWord.1 s.isWord.2 ends).symm.trans read
    rw [closing, quotes] at blanks
    have oneBlank : IsGap [' '] := by decide
    cases (blanksAt?_gap oneBlank (by
      rintro c ⟨⟩
      decide)).symm.trans blanks
    rfl
  | backticks =>
    rw [quotes] at read
    cases (takeRun?_quote (by decide)).symm.trans read
  | doubleQuotes =>
    rw [quotes] at read
    cases (takeRun?_quote (by decide)).symm.trans read

theorem nameAt?_target : nameAt? (s.target ++ rest) = some (s.name, s.closing ++ rest) := by
  rw [nameAt?, s.wordsAt?_target, s.identifierAt?_target]
  rfl

theorem target_solid : ∀ c ∈ (s.target ++ rest).head?, Text.isBlank c = false := by
  obtain ⟨c, name, same⟩ := List.exists_cons_of_ne_nil s.isWord.1
  rw [target, same]
  cases s.quotes with
  | none =>
    rintro _ ⟨⟩
    exact Text.isBlank_of_isWord (s.isWord.2 c (same ▸ List.mem_cons_self))
  | backticks =>
    rintro _ ⟨⟩
    decide
  | doubleQuotes =>
    rintro _ ⟨⟩
    decide

/-- With or without a condition before it, the name is read. -/
theorem nameAt?_condition :
    nameAt? (s.condition ++ (s.target ++ rest)) = some (s.name, s.closing ++ rest) := by
  have isCondition := s.isCondition
  generalize s.condition = condition at isCondition
  cases isCondition with
  | none => exact s.nameAt?_target
  | clause phrase isGap =>
    rw [nameAt?, List.append_assoc, wordsAt?_phrase areCapitals_clause phrase,
      blanksAt?_gap isGap s.target_solid, Option.bind_some, s.identifierAt?_target]
    rfl

theorem condition_solid :
    ∀ c ∈ (s.condition ++ (s.target ++ rest)).head?, Text.isBlank c = false := by
  have isCondition := s.isCondition
  generalize s.condition = condition at isCondition
  cases isCondition with
  | none => exact s.target_solid
  | clause phrase isGap =>
    rw [List.append_assoc]
    exact head_of_phrase areCapitals_clause phrase _

theorem statementAt?_written :
    statementAt? (s.written ++ rest) = some (s.name, s.closing ++ rest) := by
  rw [written, List.append_assoc, List.append_assoc, List.append_assoc, statementAt?,
    wordsAt?_phrase areCapitals_opening s.isOpening, blanksAt?_gap s.isGap s.condition_solid,
    Option.bind_some, s.nameAt?_condition]

/-- Nothing behind the name is a letter that a statement may begin with. -/
theorem closing_free : (s.closing.all fun c => Text.fold c != Text.fold 'C') = true := by
  have isBreak := s.isBreak
  simp only [List.mem_cons, List.not_mem_nil, or_false] at isBreak
  rw [closing, List.all_append, List.all_append, Bool.and_eq_true, Bool.and_eq_true]
  refine ⟨⟨?_, by decide +kernel⟩, ?_⟩
  · cases s.quotes <;> decide +kernel
  · rcases isBreak with same | same | same <;>
      · rw [same]
        decide +kernel

end Creation

theorem statementAt?_of_other {c : Char} {text : List Char} (other : Text.fold c ≠ Text.fold 'C') :
    statementAt? (c :: text) = none := by
  have first : wordAt? "CREATE".toList (c :: text) = none := if_neg other
  rw [statementAt?, opening, wordsAt?, first]
  rfl

theorem run_past {chunk rest : List Char}
    (free : (chunk.all fun c => Text.fold c != Text.fold 'C') = true) :
    scanner.run (chunk ++ rest) = scanner.run rest := by
  apply Scanner.run_append
  intro suffix isSuffix nonempty
  obtain ⟨c, suffix, rfl⟩ := List.exists_cons_of_ne_nil nonempty
  have other := List.all_eq_true.mp free c (isSuffix.mem List.mem_cons_self)
  rw [List.cons_append, step_eq, statementAt?_of_other (bne_iff_ne.mp other)]
  rfl

/-- One statement reports its table, and the next one is read behind it. -/
theorem run_written (s : Creation) (rest : List Char) :
    scanner.run (s.written ++ rest) = ⟨s.written ++ rest, s.name⟩ :: scanner.run rest := by
  have step : scanner.step (s.written ++ rest) =
      some (⟨s.written ++ rest, s.name⟩, s.closing ++ rest) := by
    rw [step_eq, s.statementAt?_written]
    rfl
  rw [Scanner.run_of_some step, run_past s.closing_free]

theorem namesOf_written (statements : List Creation) :
    namesOf (statements.flatMap Creation.written) = statements.map Creation.created := by
  rw [namesOf_eq, reports]
  induction statements with
  | nil =>
    rw [List.flatMap_nil, Scanner.run_nil (by rfl)]
    rfl
  | cons s statements ih =>
    rw [List.flatMap_cons, run_written, List.map_cons, List.map_cons, ih]
    rfl

end Table

namespace Survey

variable {disk : Disk}

/-- A table of a survey is created in a migration or in the setup file. -/
theorem mem_tables_iff (disk : Disk) (root : Path) (layout : SourceLayout)
    (table : String) : table ∈ tables disk root layout ↔
      (∃ source, IsSource disk (root.join (.ofString layout.migrations))
        layout.migrationExtensions source ∧ table ∈ Table.namesOf source.text.toList) ∨
      ∃ text, disk.HasText (root.join (.ofString layout.schemaSetup)) text ∧
        table ∈ Table.namesOf text.toList := by
  rw [tables, NameSet.mem_ofList_iff, schemaSources, List.flatMap_append, List.mem_append]
  refine or_congr ?_ ?_
  · have sources := areSources_textsIn disk (root.join (.ofString layout.migrations))
      layout.migrationExtensions
    rw [sourcesIn_eq, List.mem_flatMap]
    constructor
    · rintro ⟨file, mem, created⟩
      obtain ⟨known, listed, rfl⟩ := List.mem_map.mp mem
      exact ⟨sourceOf known, (sources.mem _).mp (List.mem_map_of_mem listed), created⟩
    · rintro ⟨source, isSource, created⟩
      obtain ⟨known, listed, rfl⟩ := List.mem_map.mp ((sources.mem source).mpr isSource)
      exact ⟨_, List.mem_map_of_mem listed, created⟩
  · rw [read?_eq_textAt?, List.mem_flatMap]
    constructor
    · rintro ⟨file, mem, created⟩
      obtain ⟨text, read, rfl⟩ := Option.map_eq_some_iff.mp (Option.mem_toList.mp mem)
      exact ⟨text, textAt?_eq_some_iff.mp read, created⟩
    · rintro ⟨text, hasText, created⟩
      have read := textAt?_eq_some_iff.mpr hasText
      exact ⟨_, Option.mem_toList.mpr (Option.map_eq_some_iff.mpr ⟨text, read, rfl⟩), created⟩

/-- From a text of statements the names of all created tables are read, and a survey has just the
tables of its migrations and of its setup file. -/
theorem tables_of_statements :
    (∀ statements : List Table.Creation, Table.namesOf (statements.flatMap Table.Creation.written) =
      statements.map Table.Creation.created) ∧
    ∀ (disk : Disk) (root : Path) (layout : SourceLayout) (table : String),
      table ∈ tables disk root layout ↔
        (∃ source, IsSource disk (root.join (.ofString layout.migrations))
          layout.migrationExtensions source ∧ table ∈ Table.namesOf source.text.toList) ∨
        ∃ text, disk.HasText (root.join (.ofString layout.schemaSetup)) text ∧
          table ∈ Table.namesOf text.toList :=
  ⟨Table.namesOf_written, mem_tables_iff⟩

theorem phrase_capital : Table.Phrase ["CREATE", "TABLE"]
    ("CREATE".toList ++ [' '] ++ "TABLE".toList) :=
  .more rfl (by decide) (.word rfl)

theorem phrase_small : Table.Phrase ["CREATE", "TABLE"]
    ("create".toList ++ ['\n', '\t'] ++ "Table".toList) :=
  .more (by decide +kernel) (by decide) (.word (by decide +kernel))

theorem phrase_mixed : Table.Phrase ["CREATE", "TABLE"]
    ("Create".toList ++ [' '] ++ "tABLE".toList) :=
  .more (by decide +kernel) (by decide) (.word (by decide +kernel))

theorem phrase_clause : Table.Phrase ["IF", "NOT", "EXISTS"]
    ("if".toList ++ [' '] ++ ("Not".toList ++ ['\n'] ++ "EXISTS".toList)) :=
  .more (by decide +kernel) (by decide) (.more (by decide +kernel) (by decide) (.word rfl))

/-- Statements whose names are words of statements. -/
def keywordTables : List Table.Creation := [
  { opening := _, gap := ['\t', ' '], condition := [], quotes := .none, name := "IF".toList
    lineBreak := ['\n']
    isOpening := phrase_capital
    isGap := by decide
    isCondition := .none
    isWord := ⟨by decide, List.all_eq_true.mp (by decide)⟩
    isBreak := by decide },
  { opening := _, gap := ['\t'], condition := _, quotes := .doubleQuotes, name := "CREATE".toList
    lineBreak := ['\r', '\n']
    isOpening := phrase_small
    isGap := by decide
    isCondition := .clause phrase_clause (show Table.IsGap [' ', ' '] by decide)
    isWord := ⟨by decide, List.all_eq_true.mp (by decide)⟩
    isBreak := by decide },
  { opening := _, gap := [' ', ' '], condition := [], quotes := .backticks, name := "été".toList
    lineBreak := ['\n']
    isOpening := phrase_mixed
    isGap := by decide
    isCondition := .none
    isWord := ⟨by decide, List.all_eq_true.mp (by decide)⟩
    isBreak := by decide }]

def keywordTablesText : String :=
  "CREATE TABLE\t IF (id INTEGER);\ncreate\n\tTable\tif Not\nEXISTS  \"CREATE\" (id INTEGER);\r\n" ++
    "Create tABLE  `été` (id INTEGER);\n"

/-- Two migrations with the same tables, one that is no text, and a setup file. -/
def migrated : Disk where
  entries := [
    (["srv"], .directory),
    (["srv", "database"], .directory),
    (["srv", "database", "migrations"], .directory),
    (["srv", "database", "migrations", "2.sql"], .file keywordTablesText.toUTF8),
    (["srv", "database", "migrations", "1.js"], .file keywordTablesText.toUTF8),
    (["srv", "database", "migrations", "0.sql"], .file ⟨#[0xff]⟩),
    (["srv", "database", "setup.js"], .file "create table IF (id INTEGER);".toUTF8)]

theorem tables_of_statements_keywords :
    Table.namesOf keywordTablesText.toList = ["IF", "CREATE", "été"] ∧
    ∀ table ∈ ["IF", "CREATE", "été"], table ∈ tables migrated ⟨["", "srv"]⟩ {} := by
  obtain ⟨names, union⟩ := tables_of_statements
  have text : keywordTablesText.toList = keywordTables.flatMap Table.Creation.written := by
    decide +kernel
  have read : Table.namesOf keywordTablesText.toList = ["IF", "CREATE", "été"] := by
    rw [text, names]
    rfl
  have isSource : IsSource migrated (.join ⟨["", "srv"]⟩ (.ofString "database/migrations"))
      ["js", "sql"] ⟨"2.sql", "2", keywordTablesText⟩ :=
    ⟨by decide, ⟨["srv", "database", "migrations"], by rfl, by rfl⟩, by decide,
      ⟨"sql", by decide, by decide, by decide⟩, ⟨_, by rfl⟩⟩
  refine ⟨read, fun table mem => (union migrated _ {} table).mpr ?_⟩
  exact .inl ⟨_, isSource, read ▸ mem⟩

end Survey

end Scaffold
