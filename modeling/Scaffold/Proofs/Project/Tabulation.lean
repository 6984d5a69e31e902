import Scaffold.Proofs.Project.Listing

/-!
# The table of packages

The migration notes end with a table of the packages, one row for each. Bars in a name or a version
are put behind a backslash, so that they are not taken for the border of a cell. Line breaks are
kept and break the row. A bar that already is behind a backslash gets a second one, and where the
first one escapes the second, the bar is a border again.
-/

namespace Scaffold

/-! ## Borders of cells -/

/-- Which backslashes escape what is behind them. -/
inductive Escaping
  | all
  /-- Only those that are not escaped themselves. -/
  | unescaped
  deriving DecidableEq

def Escaping.next (rule : Escaping) (escaped : Bool) (c : Char) : Bool :=
  c == '\\' && (rule == .all || !escaped)

def freeBars (rule : Escaping) : (escaped : Bool) → List Char → Nat
  | _, [] => 0
  | escaped, c :: cs =>
    (if c == '|' && !escaped then 1 else 0) + freeBars rule (rule.next escaped c) cs

/-- A text that stays within a cell. It breaks no line, and no bar of it is escaped if a second
backslash undoes that. -/
structure FitsCell (rule : Escaping) (s : String) : Prop where
  isLine : IsLine s
  bars : rule = .unescaped → freeBars rule false s.toList = s.toList.count '|'

variable {rule : Escaping} {cs : List Char} {c : Char}

theorem freeBars_cons_bar (escaped : Bool) (cs : List Char) :
    freeBars rule escaped ('|' :: cs) = (if escaped then 0 else 1) + freeBars rule false cs := by
  cases escaped <;> rfl

theorem freeBars_cons_of_ne (other : c ≠ '|') (escaped : Bool) (cs : List Char) :
    freeBars rule escaped (c :: cs) = freeBars rule (rule.next escaped c) cs := by
  simp [freeBars, other]

theorem freeBars_eq_zero (free : '|' ∉ cs) (escaped : Bool) : freeBars rule escaped cs = 0 := by
  induction cs generalizing escaped with
  | nil => rfl
  | cons c cs ih =>
    obtain ⟨differs, free⟩ := List.ne_and_not_mem_of_not_mem_cons free
    rw [freeBars_cons_of_ne differs.symm, ih free]

/-- Behind a space nothing is escaped. -/
theorem freeBars_space (escaped : Bool) (cs ds : List Char) :
    freeBars rule escaped (cs ++ ' ' :: ds) =
      freeBars rule escaped cs + freeBars rule false ds := by
  induction cs generalizing escaped with
  | nil => exact (freeBars_cons_of_ne (by decide) escaped ds).trans (Nat.zero_add _).symm
  | cons c cs ih => rw [List.cons_append, freeBars, freeBars, ih, Nat.add_assoc]

/-! ## Cells -/

def cellOf (cs : List Char) : List Char :=
  cs.flatMap fun c => if c == '|' then ['\\', '|'] else [c]

theorem toList_tableCell (s : String) : (tableCell s).toList = cellOf s.toList :=
  String.toList_ofList

theorem cellOf_cons_bar (cs : List Char) : cellOf ('|' :: cs) = '\\' :: '|' :: cellOf cs := rfl

theorem cellOf_cons_of_ne (other : c ≠ '|') (cs : List Char) :
    cellOf (c :: cs) = c :: cellOf cs := by
  simp [cellOf, other]

theorem isLine_tableCell_iff (s : String) : IsLine (tableCell s) ↔ IsLine s := by
  rw [IsLine, IsLine, toList_tableCell]
  induction s.toList with
  | nil => rfl
  | cons c cs ih =>
    by_cases bar : c = '|'
    · rw [bar, cellOf_cons_bar]
      simpa using ih
    · rw [cellOf_cons_of_ne bar, List.mem_cons, List.mem_cons, not_or, not_or, ih]

theorem freeBars_cellOf_all (cs : List Char) (escaped : Bool) :
    freeBars .all escaped (cellOf cs) = 0 := by
  induction cs generalizing escaped with
  | nil => rfl
  | cons c cs ih =>
    by_cases bar : c = '|'
    · rw [bar, cellOf_cons_bar, freeBars_cons_of_ne (by decide), freeBars_cons_bar, ih]
      rfl
    · rw [cellOf_cons_of_ne bar, freeBars_cons_of_ne bar, ih]

/-- Free bars are escaped in a cell, and escaped bars are free there. -/
theorem freeBars_cellOf_unescaped (cs : List Char) (escaped : Bool) :
    freeBars .unescaped escaped (cellOf cs) + freeBars .unescaped escaped cs = cs.count '|' := by
  induction cs generalizing escaped with
  | nil => rfl
  | cons c cs ih =>
    by_cases bar : c = '|'
    · -- The backslash escapes the bar just if it is not escaped itself.
      have flipped : Escaping.unescaped.next escaped '\\' = !escaped := by cases escaped <;> rfl
      rw [bar, cellOf_cons_bar, freeBars_cons_of_ne (by decide), freeBars_cons_bar,
        freeBars_cons_bar, List.count_cons_self, ← ih false, flipped]
      cases escaped
      · change 0 + _ + (1 + _) = _
        omega
      · change 1 + _ + (0 + _) = _
        omega
    · rw [cellOf_cons_of_ne bar, freeBars_cons_of_ne bar, freeBars_cons_of_ne bar, ih,
        List.count_cons_of_ne bar]

theorem freeBars_tableCell_iff (s : String) : freeBars rule false (tableCell s).toList = 0 ↔
    (rule = .unescaped → freeBars rule false s.toList = s.toList.count '|') := by
  rw [toList_tableCell]
  cases rule with
  | all => simp [freeBars_cellOf_all]
  | unescaped =>
    have flipped := freeBars_cellOf_unescaped s.toList false
    rw [forall_prop_of_true rfl]
    omega

/-! ## Rows -/

theorem replacementOf_mem (package : String) :
    replacementOf package ∈ "manual review" :: knownReplacements.map Prod.snd := by
  rw [replacementOf]
  cases known : knownReplacements.lookup package with
  | none => exact List.mem_cons_self
  | some replacement =>
    obtain ⟨start, rest, found, -⟩ := List.lookup_eq_some_iff.mp known
    have mem : (package, replacement) ∈ knownReplacements :=
      found ▸ List.mem_append_right start List.mem_cons_self
    exact List.mem_cons_of_mem _ (List.mem_map_of_mem mem)

theorem isLine_replacementOf (package : String) : IsLine (replacementOf package) := by
  have all : ∀ r ∈ "manual review" :: knownReplacements.map Prod.snd, IsLine r := by
    decide
  exact all _ (replacementOf_mem package)

theorem lacks_replacementOf (package : String) : Lacks '|' (replacementOf package) := by
  have all : ∀ r ∈ "manual review" :: knownReplacements.map Prod.snd, Lacks '|' r := by
    decide
  exact all _ (replacementOf_mem package)

namespace ProjectText.Notes

def rowOf (entry : String × String) : String :=
  dependencyLine ⟨tableCell entry.1, tableCell entry.2, replacementOf entry.1⟩

theorem map_dependencyLine (m : Model) :
    m.dependencyRows.map dependencyLine = m.dependencies.entries.map rowOf := by
  rw [Model.dependencyRows, List.map_map]
  rfl

theorem isLine_rowOf_iff (entry : String × String) :
    IsLine (rowOf entry) ↔ IsLine entry.1 ∧ IsLine entry.2 := by
  have border : IsLine "| " ∧ IsLine " | " ∧ IsLine " |" := by decide
  simp only [rowOf, dependencyLine, isLine_append_iff, isLine_tableCell_iff,
    isLine_replacementOf, border, true_and, and_true]

theorem freeBars_rowOf (rule : Escaping) (entry : String × String) :
    freeBars rule false (rowOf entry).toList =
      freeBars rule false (tableCell entry.1).toList +
        freeBars rule false (tableCell entry.2).toList + 4 := by
  have chars : (rowOf entry).toList = '|' :: ' ' :: ((tableCell entry.1).toList ++
      ' ' :: '|' :: ' ' :: ((tableCell entry.2).toList ++
        ' ' :: '|' :: ' ' :: ((replacementOf entry.1).toList ++ [' ', '|']))) := by
    simp [rowOf, dependencyLine]
  have border : ∀ cs, freeBars rule false ('|' :: ' ' :: cs) = 1 + freeBars rule false cs := by
    intro cs
    rw [freeBars_cons_bar, freeBars_cons_of_ne (by decide)]
    rfl
  rw [chars, border, freeBars_space, border, freeBars_space, border, freeBars_space,
    freeBars_eq_zero (lacks_replacementOf entry.1), show freeBars rule false ['|'] = 1 from rfl]
  omega

/-! ## The table -/

def head : String := "| package | version | Go replacement |"

def separator : String := "|---------|---------|----------------|"

/-- A line for each package, each with the borders of three cells. -/
structure IsTable (rule : Escaping) (m : Model) (table : String) : Prop where
  oneEach : (linesOf table).length = m.dependencies.entries.length
  fourBars : ∀ l ∈ linesOf table, freeBars rule false l.toList = 4

def table (m : Model) : String := endLines (m.dependencies.entries.map rowOf)

/-- The notes without packages end with the head of their table. -/
theorem exists_above (m : Model) : ∃ above : List String,
    migrationNotes m = endLines (above ++ [separator]) ++ table m ∧
      migrationNotes { m with dependencies := ∅ } = endLines (above ++ [separator]) := by
  have split : ∀ start rows : List String,
      endLines (start ++ ["", "## Dependencies", "", head, separator] ++ rows) =
        endLines (start ++ ["", "## Dependencies", "", head] ++ [separator]) ++ endLines rows := by
    intro start rows
    simp only [endLines_append, endLines_cons, endLines_nil, String.append_assoc,
      String.append_empty]
  rw [table, ← map_dependencyLine]
  exact ⟨_, split _ _, (split _ []).trans (by rw [endLines_nil, String.append_empty]; rfl)⟩

theorem linesOf_table_iff (m : Model) :
    (linesOf (table m)).length = m.dependencies.entries.length ↔
      ∀ entry ∈ m.dependencies.entries, IsLine entry.1 ∧ IsLine entry.2 := by
  have lines := linesOf_endLines_flatMap (m.dependencies.entries.map rowOf) ""
  rw [String.append_empty, show linesOf "" = [] from rfl, List.append_nil] at lines
  rw [table, lines, ← List.length_map (f := rowOf), length_flatMap_linesWithin_iff,
    List.forall_mem_map]
  simp only [isLine_rowOf_iff]

theorem linesOf_table {m : Model}
    (fits : ∀ entry ∈ m.dependencies.entries, IsLine entry.1 ∧ IsLine entry.2) :
    linesOf (table m) = m.dependencies.entries.map rowOf := by
  apply linesOf_endLines
  intro l mem
  obtain ⟨entry, listed, rfl⟩ := List.mem_map.mp mem
  exact (isLine_rowOf_iff entry).mpr (fits entry listed)

theorem freeBars_rowOf_iff (rule : Escaping) (entry : String × String) :
    freeBars rule false (rowOf entry).toList = 4 ↔
      freeBars rule false (tableCell entry.1).toList = 0 ∧
        freeBars rule false (tableCell entry.2).toList = 0 := by
  rw [freeBars_rowOf]
  omega

theorem isTable_iff (rule : Escaping) (m : Model) : IsTable rule m (table m) ↔
    ∀ entry ∈ m.dependencies.entries, FitsCell rule entry.1 ∧ FitsCell rule entry.2 := by
  constructor
  · intro isTable entry mem
    -- With as many lines as packages no row is broken, so the lines are the rows.
    have unbroken := (linesOf_table_iff m).mp isTable.oneEach
    have bars := isTable.fourBars
    rw [linesOf_table unbroken, List.forall_mem_map] at bars
    obtain ⟨name, version⟩ := (freeBars_rowOf_iff rule entry).mp (bars entry mem)
    exact ⟨⟨(unbroken entry mem).1, (freeBars_tableCell_iff entry.1).mp name⟩,
      ⟨(unbroken entry mem).2, (freeBars_tableCell_iff entry.2).mp version⟩⟩
  · intro fits
    have unbroken : ∀ entry ∈ m.dependencies.entries, IsLine entry.1 ∧ IsLine entry.2 :=
      fun entry mem => ⟨(fits entry mem).1.isLine, (fits entry mem).2.isLine⟩
    refine ⟨(linesOf_table_iff m).mpr unbroken, ?_⟩
    rw [linesOf_table unbroken, List.forall_mem_map]
    intro entry mem
    apply (freeBars_rowOf_iff rule entry).mpr
    obtain ⟨name, version⟩ := fits entry mem
    exact ⟨(freeBars_tableCell_iff entry.1).mpr name.bars,
      (freeBars_tableCell_iff entry.2).mpr version.bars⟩

end ProjectText.Notes

open ProjectText (endLines migrationNotes)
open ProjectText.Notes
  (IsTable exists_above isTable_iff linesOf_table linesOf_table_iff rowOf separator)

/-- The notes end with a table that has a row for each package, unless a name or a version does not
fit its cell. That is so whichever backslashes escape a bar. -/
theorem Model.render_dependencies (m : Model) (name : ModuleName) :
    ∃ artifacts above table, m.render name.text = .ok artifacts ∧
      contents? "MIGRATION.md" artifacts = some (endLines (above ++ [separator]) ++ table) ∧
      migrationNotes { m with dependencies := ∅ } = endLines (above ++ [separator]) ∧
      ∀ rule,
        (IsTable rule m table ↔
          ∀ entry ∈ m.dependencies.entries, FitsCell rule entry.1 ∧ FitsCell rule entry.2) ∧
        (IsTable rule m table → linesOf table = m.dependencies.entries.map rowOf) := by
  obtain ⟨above, notes, without⟩ := exists_above m
  refine ⟨_, above, ProjectText.Notes.table m, m.render_text name, ?_, without, ?_⟩
  · rw [(contents?_artifacts m name).2, notes]
  · intro rule
    constructor
    · exact isTable_iff rule m
    · intro isTable
      exact linesOf_table ((linesOf_table_iff m).mp isTable.oneEach)

def withBrokenPackage : Model where
  dependencies := NameMap.ofList [("a\nb", "1")]

/-- A line break makes two lines of a row, and a bar that is escaped already becomes a border where
a backslash may be escaped. -/
theorem Model.render_dependencies_broken :
    (∃ artifacts above table, withBrokenPackage.render "x" = .ok artifacts ∧
      contents? "MIGRATION.md" artifacts = some (endLines (above ++ [separator]) ++ table) ∧
      linesOf table = ["| a", "b | 1 | manual review |"] ∧
      ∀ rule, ¬ IsTable rule withBrokenPackage table) ∧
    freeBars .unescaped false (rowOf ("a", "1 \\| 2")).toList = 5 := by
  obtain ⟨above, notes, -⟩ := exists_above withBrokenPackage
  have lines : linesOf (ProjectText.Notes.table withBrokenPackage) =
      ["| a", "b | 1 | manual review |"] := by decide
  refine ⟨⟨_, above, _, withBrokenPackage.render_text ⟨"x", by decide⟩, ?_, lines, ?_⟩, ?_⟩
  · rw [(contents?_artifacts _ _).2, notes]
  · intro rule isTable
    have one := isTable.oneEach
    rw [lines] at one
    exact absurd one (by decide)
  · decide

end Scaffold
