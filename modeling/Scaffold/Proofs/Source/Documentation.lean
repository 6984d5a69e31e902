import Scaffold.Proofs.Pattern.Scanner
import Scaffold.Source.Description

/-!
# The first line of a block of documentation

What is described by a text whose first block of documentation opens on a line of its own and has a
star in front of each of its lines. Blanks behind a star go on over line breaks. If nothing else is
behind the first star, the star of the next line is described, and of a block without lines the
slash that closes it.
-/

namespace Scaffold.Description

open Pattern Attempt

/-! ## Written blocks -/

/-- The lines of a block, each behind its star, and the line that closes it. -/
def rows : List (List Char) → List Char
  | [] => " */\n".toList
  | line :: lines => " * ".toList ++ line ++ '\n' :: rows lines

/-- A text with a first block of documentation. -/
structure Documented where
  front : List Char
  lines : List (List Char)
  behind : List Char
  isFirst : ¬ "/**".toList <:+: front
  unbroken : ∀ line ∈ lines, '\n' ∉ line

def Documented.written (text : Documented) : List Char :=
  text.front ++ ("/**\n".toList ++ rows text.lines ++ text.behind)

/-- The next line with its star, behind the blank in front of it. -/
def starred : List (List Char) → List Char
  | [] => "*/".toList
  | line :: _ => "* ".toList ++ line

def behindStar : List (List Char) → List Char
  | [] => ['/']
  | line :: lines => if Text.trim line = [] then Text.trim (starred lines) else Text.trim line

/-! ## The pattern at a block -/

variable {α : Type} {front gap line back text rest : List Char} {lines : List (List Char)}
  {place : Place} {groups : Groups} {accept : Place → Groups → Option α}

theorem goesOn_line (h : place.IsAt text)
    (accepts : ∀ stop groups, (accept stop groups).isSome = true) :
    GoesOn (fun stop groups => (literal "\n").attempt stop groups accept)
      ((takeRun? (· != '\n') text).map fun read => ((1, read.1) :: groups, read.2))
      ((group 1 (lazyPlus dot)).attempt place groups fun stop groups =>
        (literal "\n").attempt stop groups accept) := by
  have line : ∀ c, (!(c == '\n') && (CharSet.compl (.single '\n')).contains c) =
      (CharSet.compl (.single '\n')).contains c := by
    intro c
    rw [contains_dot]
    exact Bool.and_self _
  simp only [← contains_dot]
  refine GoesOn.group h (goesOn_someRun h fun c rest same _ => ?_) fun _ _ => takeRun?_parts
  subst same
  rw [← funext line]
  apply goesOn_lazyRun h.past
  · intro stop text isAt other
    apply attempt_literal_eq_none "\n" isAt
    apply isPrefixOf?_of_other
    intro breaks
    exact absurd (other '\n' breaks) (by decide)
  · intro stop c rest isAt breaks
    obtain rfl := beq_iff_eq.mp breaks
    exact (goesOn_literal "\n" isAt).isSome_eq accepts

theorem goesOn_line_append (h : place.IsAt (line ++ '\n' :: rest)) (nonempty : line ≠ [])
    (unbroken : '\n' ∉ line) (accepts : ∀ stop groups, (accept stop groups).isSome = true) :
    GoesOn accept (some ((1, line) :: groups, rest))
      ((sequence [group 1 (lazyPlus dot), literal "\n"]).attempt place groups accept) := by
  have read : takeRun? (· != '\n') (line ++ '\n' :: rest) = some (line, '\n' :: rest) := by
    apply takeRun?_append nonempty
    · intro c mem
      apply bne_iff_ne.mpr
      rintro rfl
      exact unbroken mem
    · rintro c ⟨⟩
      exact bne_self_eq_false '\n'
  have captured := @goesOn_line α _ _ groups accept h accepts
  rw [read] at captured
  obtain ⟨stop, isAt, captured⟩ := captured.exists_stop
  rw [attempt_sequence_cons]
  exact .of_eq captured (goesOn_of_literal "\n" rest isAt fun stop isAt => .stops _ isAt)

/-- Of blanks in front of a line break, what is behind the line break is given back. -/
theorem attempt_blanks_break {ps : List Pattern} (h : place.IsAt ('\n' :: (back ++ rest)))
    (blank : ∀ c ∈ back, Text.isBlank c = true) (unbroken : '\n' ∉ back)
    (solid : ∀ c ∈ rest.head?, Text.isBlank c = false) :
    (blankStar.attempt place groups fun stop groups =>
        (sequence (literal "\n" :: ps)).attempt stop groups accept) =
      (sequence (literal "\n" :: ps)).attempt place groups accept := by
  have later : (run .blank true).attempt (place.past '\n') groups (fun stop groups =>
      (sequence (literal "\n" :: ps)).attempt stop groups accept) = none := by
    -- The only line break is in front of all these places.
    apply attempt_run_eq_none (s := .blank) h.past blank solid
    intro suffix stop isSuffix isAt
    rw [attempt_sequence_cons]
    apply attempt_literal_eq_none "\n" isAt
    apply isPrefixOf?_of_other
    intro breaks
    cases suffix with
    | nil => exact absurd (solid '\n' breaks) (by decide)
    | cons c suffix =>
      cases breaks
      exact unbroken (isSuffix.mem List.mem_cons_self)
  exact (attempt_run_of_mem h (by decide)).trans (by rw [if_pos rfl, later, Option.none_or])

structure Captured (gap line : List Char) : Prop where
  blank : ∀ c ∈ gap, Text.isBlank c = true
  solid : ∀ c ∈ line.head?, Text.isBlank c = false
  nonempty : line ≠ []
  unbroken : '\n' ∉ line

theorem goesOn_captured (captured : Captured gap line)
    (h : place.IsAt (gap ++ (line ++ '\n' :: rest)))
    (accepts : ∀ stop groups, (accept stop groups).isSome = true) :
    GoesOn accept (some ((1, line) :: groups, rest))
      ((sequence [blankStar, group 1 (lazyPlus dot), literal "\n"]).attempt place groups
        accept) := by
  have ends : ∀ c ∈ (line ++ '\n' :: rest).head?, Text.isBlank c = false := by
    obtain ⟨c, more, same⟩ := List.exists_cons_of_ne_nil captured.nonempty
    have solid := captured.solid
    rw [same] at solid ⊢
    exact solid
  have behind : (gap ++ (line ++ '\n' :: rest)).dropWhile CharSet.blank.contains =
      line ++ '\n' :: rest := Text.dropWhile_run captured.blank ends
  have captures : ∀ stop : Place, stop.IsAt (line ++ '\n' :: rest) →
      GoesOn accept (some ((1, line) :: groups, rest))
        ((sequence [group 1 (lazyPlus dot), literal "\n"]).attempt stop groups accept) :=
    fun stop isAt => goesOn_line_append isAt captured.nonempty captured.unbroken accepts
  -- The blanks need not be given back, since the line is captured from their end.
  have skipped := @goesOn_run_of_accepts α _ place groups (fun stop groups =>
    (sequence [group 1 (lazyPlus dot), literal "\n"]).attempt stop groups accept) .blank h
  rw [behind] at skipped
  obtain ⟨stop, isAt, skipped⟩ :=
    (skipped fun stop isAt => (captures stop isAt).isSome_eq accepts).exists_stop
  exact .of_eq skipped (captures stop isAt)

theorem goesOn_block (captured : Captured gap line)
    (h : place.IsAt ("/**\n *".toList ++ (gap ++ (line ++ '\n' :: rest))))
    (accepts : ∀ stop groups, (accept stop groups).isSome = true) :
    GoesOn accept (some ((1, line) :: groups, rest))
      (firstLine.attempt place groups accept) := by
  rw [firstLine, attempt_sequence_cons]
  refine goesOn_of_literal "/**" ("\n *".toList ++ _) h fun stop isAt => ?_
  have given := @attempt_blanks_break α [' '] ("*".toList ++ (gap ++ (line ++ '\n' :: rest))) stop
    groups accept [blankStar, literal "*", blankStar, group 1 (lazyPlus dot), literal "\n"] isAt
    (List.forall_mem_singleton.mpr rfl) (by decide) (by rintro c ⟨⟩; decide)
  rw [attempt_sequence_cons, given, attempt_sequence_cons]
  refine goesOn_of_literal "\n" (" *".toList ++ _) isAt fun stop isAt => ?_
  obtain ⟨stop, isAt, indented⟩ := (@goesOn_blanks α _ stop groups accept "*"
    [blankStar, group 1 (lazyPlus dot), literal "\n"] isAt (by decide)).exists_stop
  rw [attempt_sequence_cons]
  refine .of_eq indented ?_
  rw [attempt_sequence_cons]
  exact goesOn_of_literal "*" _ isAt fun stop isAt => goesOn_captured captured isAt accepts

/-! ## Search -/

theorem opening_in_front (isFirst : ¬ "/**".toList <:+: front) (isSuffix : text <:+ front)
    (nonempty : text ≠ []) (rest : List Char) :
    "/**".toList.isPrefixOf? (text ++ '/' :: rest) = none := by
  rw [Option.eq_none_iff_forall_ne_some]
  intro behind found
  have same := List.isPrefixOf?_eq_some_iff_append_eq.mp found
  -- An opening across the border would have the slash of the block in place of a star.
  match text with
  | [] => exact nonempty rfl
  | [a] => cases same
  | [a, b] => cases same
  | a :: b :: c :: text =>
    cases same
    exact isFirst ((List.prefix_append "/**".toList text).isInfix.trans isSuffix.isInfix)

theorem find?_block (isFirst : ¬ "/**".toList <:+: front) (captured : Captured gap line)
    (rest : List Char) : ∃ start stop,
      firstLine.find? (front ++ ("/**\n *".toList ++ (gap ++ (line ++ '\n' :: rest)))) =
        some ⟨start, stop, [(1, line)]⟩ := by
  obtain ⟨start, isAt, search⟩ := @searchFrom_append firstLine _ _ _
    (Place.isAt_start (front ++ ("/**\n *".toList ++ (gap ++ (line ++ '\n' :: rest)))))
    fun suffix place isSuffix some isAt => by
      rw [matchAt?, firstLine, attempt_sequence_cons]
      exact attempt_literal_eq_none "/**" isAt (opening_in_front isFirst isSuffix some _)
  have found := @goesOn_block _ _ _ _ _ [] (fun stop groups => some (⟨start, stop, groups⟩ : Found))
    captured isAt fun _ _ => rfl
  obtain ⟨stop, -, found⟩ := found.exists_stop
  exact ⟨start, stop, search.trans (searchFrom_of_some found)⟩

theorem ofText_block {block : List Char} (isFirst : ¬ "/**".toList <:+: front)
    (captured : Captured gap line)
    (opens : "/**\n *".toList ++ (gap ++ (line ++ '\n' :: rest)) = block) :
    ofText (front ++ block) = String.ofList (Text.trim line) := by
  obtain ⟨start, stop, found⟩ := find?_block isFirst captured rest
  rw [ofText, ← opens, found]
  rfl

/-! ## The lines of a block -/

theorem exists_rows (lines : List (List Char)) :
    ∃ more, rows lines = ' ' :: (starred lines ++ '\n' :: more) := by
  cases lines with
  | nil => exact ⟨[], rfl⟩
  | cons line lines => exact ⟨rows lines, rfl⟩

theorem starred_head (lines : List (List Char)) : ∃ more, starred lines = '*' :: more := by
  cases lines with
  | nil => exact ⟨['/'], rfl⟩
  | cons line lines => exact ⟨' ' :: line, rfl⟩

theorem trim_starred (lines : List (List Char)) : Text.trim (starred lines) ≠ [] := by
  obtain ⟨more, star⟩ := starred_head lines
  intro blank
  have isBlank := Text.isBlank_of_trim_eq_nil blank '*' (star ▸ List.mem_cons_self)
  exact absurd isBlank (by decide)

theorem unbroken_starred (unbroken : ∀ line ∈ lines, '\n' ∉ line) : '\n' ∉ starred lines := by
  cases lines with
  | nil => decide
  | cons line lines =>
    rw [starred, List.mem_append]
    rintro (mem | mem)
    · exact absurd mem (by decide)
    · exact unbroken line List.mem_cons_self mem

/-- Behind a blank line the next line is captured, with its star. -/
theorem captured_starred (blank : Text.trim line = []) (unbroken : ∀ line ∈ lines, '\n' ∉ line) :
    Captured (' ' :: line ++ "\n ".toList) (starred lines) := by
  obtain ⟨rest, star⟩ := starred_head lines
  constructor
  · intro c mem
    rw [List.mem_append, List.mem_cons] at mem
    obtain (rfl | mem) | mem := mem
    · decide
    · exact Text.isBlank_of_trim_eq_nil blank c mem
    · exact List.all_eq_true.mp (show "\n ".toList.all Text.isBlank = true by decide) c mem
  · rw [star]
    rintro c ⟨⟩
    decide
  · rw [star]
    exact List.cons_ne_nil '*' rest
  · exact unbroken_starred unbroken

theorem captured_trimStart (filled : Text.trim line ≠ []) (unbroken : '\n' ∉ line) :
    Captured (' ' :: line.takeWhile Text.isBlank) (Text.trimStart line) := by
  constructor
  · intro c mem
    obtain rfl | mem := List.mem_cons.mp mem
    · decide
    · exact List.mem_takeWhile_imp mem
  · intro c head
    have next := List.head?_dropWhile_not Text.isBlank line
    rw [show (line.dropWhile Text.isBlank).head? = some c from head] at next
    simpa using next
  · intro nothing
    rw [← Text.trim_trimStart, nothing] at filled
    exact filled rfl
  · exact fun mem => unbroken ((List.dropWhile_suffix Text.isBlank).mem mem)

theorem ofText_written (text : Documented) :
    ofText text.written = String.ofList (behindStar text.lines) := by
  obtain ⟨front, lines, behind, isFirst, unbroken⟩ := text
  cases lines with
  | nil =>
    have slash : Captured [] ['/'] :=
      ⟨List.forall_mem_nil _, by rintro c ⟨⟩; decide, List.cons_ne_nil _ _, by decide⟩
    exact @ofText_block front [] ['/'] behind _ isFirst slash rfl
  | cons line lines =>
    obtain ⟨first, later⟩ := List.forall_mem_cons.mp unbroken
    rw [behindStar]
    split
    · rename_i blank
      obtain ⟨more, next⟩ := exists_rows lines
      apply @ofText_block _ _ _ (more ++ behind) _ isFirst (captured_starred blank later)
      simp [rows, next]
    · rename_i filled
      have parts : ∀ rest, line.takeWhile Text.isBlank ++ (Text.trimStart line ++ rest) =
          line ++ rest := by
        intro rest
        rw [← List.append_assoc, Text.trimStart, List.takeWhile_append_dropWhile]
      rw [← Text.trim_trimStart]
      apply @ofText_block _ _ _ (rows lines ++ behind) _ isFirst (captured_trimStart filled first)
      simp [rows, parts]

/-- What a documented text is described by. It is the first line of the block just if that line is
not blank. -/
theorem ofText_documented (text : Documented) :
    ofText text.written = String.ofList (behindStar text.lines) ∧
      (ofText text.written = String.ofList (Text.trim (text.lines.headD [])) ↔
        ∃ line ∈ text.lines.head?, Text.trim line ≠ []) := by
  refine ⟨ofText_written text, ?_⟩
  rw [ofText_written, String.ofList_inj]
  cases text.lines with
  | nil => simp [behindStar]
  | cons line lines =>
    rw [behindStar]
    split
    · rename_i blank
      simp [blank, trim_starred]
    · rename_i some
      simp [some]

def withoutLines : Documented where
  front := []
  lines := []
  behind := []
  isFirst := by decide
  unbroken := by decide

def withBlankLine : Documented where
  front := []
  lines := [[], "Second line".toList]
  behind := []
  isFirst := by decide
  unbroken := by decide

theorem ofText_withBlankLine :
    withoutLines.written = "/**\n */\n".toList ∧ ofText withoutLines.written = "/" ∧
      withBlankLine.written = "/**\n * \n * Second line\n */\n".toList ∧
        Text.trim (withBlankLine.lines.headD []) = [] ∧
          ofText withBlankLine.written = "* Second line" := by
  refine ⟨rfl, by decide +kernel, rfl, rfl, by decide +kernel⟩

end Scaffold.Description
