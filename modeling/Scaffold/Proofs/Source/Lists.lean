import Scaffold.Proofs.Source.Calls
import Scaffold.Proofs.Text.Lines

/-!
# Writing lists of middleware

Lists of names behind the marker, with blanks wherever there may be some and other text between the
lists. Those that have no line feed between their brackets are read, name by name. The others are
passed over as a whole, although the marker and the opening bracket may be on different lines.
-/

namespace Scaffold

/-- A name in a list with the blanks on both sides. -/
structure ListedName where
  before : List Char
  name : List Char
  after : List Char
  isWord : IsWord name
  blank : ∀ c ∈ before ++ after, Text.isBlank c = true

structure MiddlewareList where
  /-- The blanks between the marker and the opening bracket. -/
  gap : List Char
  items : List ListedName
  gap_blank : ∀ c ∈ gap, Text.isBlank c = true
  items_ne_nil : items ≠ []

def ListedName.written (item : ListedName) : List Char := item.before ++ item.name ++ item.after

namespace MiddlewareList

def inside (list : MiddlewareList) : List Char :=
  Text.joinWith [','] (list.items.map ListedName.written)

def label : List Char := "preHandler:".toList

def written (list : MiddlewareList) : List Char :=
  label ++ list.gap ++ '[' :: (list.inside ++ [']'])

def names (list : MiddlewareList) : List String :=
  list.items.map fun item => String.ofList item.name

/-- Whether both brackets are on the same line. -/
def IsOnOneLine (list : MiddlewareList) : Prop := '\n' ∉ list.inside

instance (list : MiddlewareList) : Decidable list.IsOnOneLine :=
  inferInstanceAs (Decidable ('\n' ∉ list.inside))

/-- Text that has nothing to do with lists. -/
structure IsFiller (filler : List Char) : Prop where
  noMarker : ¬ Route.middlewareMarker.toList <:+: filler
  noBracket : '[' ∉ filler

/-- The lists stand in the text in this order, with other text around them. -/
inductive StandIn : List MiddlewareList → List Char → Prop
  | none {filler : List Char} (isFiller : IsFiller filler) : StandIn [] filler
  | list {filler rest : List Char} {lists : List MiddlewareList} (isFiller : IsFiller filler)
    (list : MiddlewareList) (others : StandIn lists rest) :
    StandIn (list :: lists) (filler ++ list.written ++ rest)

variable {text rest chunk : List Char} {list : MiddlewareList} {c : Char}

/-! ## What is between the brackets -/

theorem mem_written {item : ListedName} (mem : c ∈ item.written) :
    Text.isBlank c = true ∨ Text.isWord c = true := by
  rcases List.mem_append.mp mem with mem | mem
  · rcases List.mem_append.mp mem with mem | mem
    · exact .inl (item.blank c (List.mem_append_left _ mem))
    · exact .inr (item.isWord.2 c mem)
  · exact .inl (item.blank c (List.mem_append_right _ mem))

theorem not_mem_inside (other : c ≠ ',') (notBlank : Text.isBlank c = false)
    (noWord : Text.isWord c = false) : c ∉ list.inside := by
  intro mem
  rcases Text.mem_joinWith mem with mem | ⟨piece, isPiece, mem⟩
  · exact other (List.mem_singleton.mp mem)
  · obtain ⟨item, -, rfl⟩ := List.mem_map.mp isPiece
    rcases mem_written mem with blank | word
    · rw [notBlank] at blank
      cases blank
    · rw [noWord] at word
      cases word

theorem isInside_of_mem (mem : c ∈ list.inside) (notLine : c ≠ '\n') : isInside c = true := by
  rw [isInside, Bool.and_eq_true, bne_iff_ne, bne_iff_ne]
  refine ⟨?_, notLine⟩
  rintro rfl
  exact not_mem_inside (by decide) (by decide) (by decide) mem

theorem trim_written (item : ListedName) : Text.trim item.written = item.name :=
  Text.trim_of_blanks item.blank fun c mem =>
    Text.isBlank_of_isWord (item.isWord.2 c mem)

theorem listedNames_inside (list : MiddlewareList) :
    Route.listedNames list.inside = list.names := by
  have pieces : Text.splitAt (· == ',') list.inside = list.items.map ListedName.written := by
    refine Text.splitAt_joinWith (by decide) (by simpa using list.items_ne_nil) ?_
    intro piece isPiece c mem
    obtain ⟨item, -, rfl⟩ := List.mem_map.mp isPiece
    rw [beq_eq_false_iff_ne]
    rintro rfl
    rcases mem_written mem with h | h <;> exact absurd h (by decide)
  have trimmed : (list.items.map ListedName.written).map Text.trim = list.items.map (·.name) := by
    rw [List.map_map]
    exact List.map_congr_left fun item _ => trim_written item
  have kept : (list.items.map (·.name)).filter (!·.isEmpty) = list.items.map (·.name) := by
    refine List.filter_eq_self.mpr fun name mem => ?_
    obtain ⟨item, -, rfl⟩ := List.mem_map.mp mem
    simpa using item.isWord.1
  rw [Route.listedNames, pieces, trimmed, kept, List.map_map]
  rfl

/-! ## Where no list begins -/

theorem step_eq_none (h : ¬ label <+: text) : scanner.step text = none := by
  change listAt? text = none
  apply Option.bind_eq_none_iff.mpr
  intro behind marker
  exact absurd ⟨behind, List.isPrefixOf?_eq_some_iff_append_eq.mp marker⟩ h

theorem label_eq : label = Route.middlewareMarker.toList ++ [':'] := by decide

theorem label_cons : label = 'p' :: label.tail := by decide

theorem run_past_other (free : 'p' ∉ chunk) :
    scanner.run (chunk ++ rest) = scanner.run rest := by
  apply Scanner.run_append
  intro suffix isSuffix nonempty
  apply step_eq_none
  obtain ⟨c, suffix, rfl⟩ := List.exists_cons_of_ne_nil nonempty
  intro begins
  rw [label_cons, List.cons_append, List.cons_prefix_cons] at begins
  exact free (begins.1 ▸ isSuffix.mem List.mem_cons_self)

/-- No label begins in a text without one, if what comes behind it is not inside a label. -/
theorem run_past (free : ¬ label <:+: chunk) (ends : ∀ c ∈ rest.head?, c ∉ label.tail) :
    scanner.run (chunk ++ rest) = scanner.run rest := by
  apply Scanner.run_append
  intro suffix isSuffix nonempty
  apply step_eq_none
  intro begins
  have apart : ¬ label <+: suffix := fun inside => free (inside.isInfix.trans isSuffix.isInfix)
  rcases List.prefix_or_prefix_of_prefix begins (List.prefix_append suffix rest) with h | ⟨t, whole⟩
  · exact apart h
  · -- the label goes on behind the suffix
    rw [← whole, List.prefix_append_right_inj] at begins
    obtain ⟨d, suffix, rfl⟩ := List.exists_cons_of_ne_nil nonempty
    cases t with
    | nil => exact apart ⟨[], by rw [List.append_nil, ← whole, List.append_nil]⟩
    | cons c t =>
      obtain ⟨behind, rfl⟩ := begins
      refine ends c rfl ?_
      rw [← whole, List.cons_append, List.tail_cons]
      exact List.mem_append_right _ List.mem_cons_self

theorem run_filler (isFiller : IsFiller chunk) (ends : ∀ c ∈ rest.head?, c ∉ label.tail) :
    scanner.run (chunk ++ rest) = scanner.run rest := by
  refine run_past (fun inside => isFiller.noMarker ?_) ends
  rw [label_eq] at inside
  exact (List.prefix_append _ _).isInfix.trans inside

/-! ## Reading a list at its label -/

/-- Behind the opening bracket everything up to a closing one on the same line is read. -/
theorem step_opening {gap : List Char} (blank : ∀ c ∈ gap, Text.isBlank c = true)
    (behind : List Char) :
    scanner.step (label ++ gap ++ '[' :: behind) =
      ("]".toList.isPrefixOf? (behind.dropWhile isInside)).map fun rest =>
        (behind.takeWhile isInside, rest) := by
  have marker : label.isPrefixOf? (label ++ gap ++ '[' :: behind) = some (gap ++ '[' :: behind) :=
    List.isPrefixOf?_eq_some_iff_append_eq.mpr (List.append_assoc _ _ _).symm
  have opening : (gap ++ '[' :: behind).dropWhile Text.isBlank = '[' :: behind := by
    refine Text.dropWhile_run blank ?_
    rintro _ ⟨⟩
    decide
  change listAt? (label ++ gap ++ '[' :: behind) = _
  rw [listAt?, show "preHandler:".toList = label from rfl, marker, Option.bind_some, opening]
  rfl

theorem step_label (list : MiddlewareList) (rest : List Char) :
    scanner.step (list.written ++ rest) =
      ("]".toList.isPrefixOf? ((list.inside ++ ']' :: rest).dropWhile isInside)).map fun behind =>
        ((list.inside ++ ']' :: rest).takeWhile isInside, behind) := by
  rw [← step_opening list.gap_blank, written]
  simp

theorem step_of_isOnOneLine (h : list.IsOnOneLine) (rest : List Char) :
    scanner.step (list.written ++ rest) = some (list.inside, rest) := by
  have all : ∀ c ∈ list.inside, isInside c = true := fun c mem =>
    isInside_of_mem mem fun line => h (line ▸ mem)
  have stop : ∀ c ∈ (']' :: rest).head?, isInside c = false := by
    rintro _ ⟨⟩
    decide
  rw [step_label, Text.takeWhile_run all stop, Text.dropWhile_run all stop]
  rfl

theorem step_of_not_isOnOneLine (h : ¬ list.IsOnOneLine) (rest : List Char) :
    scanner.step (list.written ++ rest) = none := by
  obtain ⟨line, others, broken, first⟩ := List.eq_append_cons_of_mem (Decidable.not_not.mp h)
  have all : ∀ c ∈ line, isInside c = true := fun c mem =>
    isInside_of_mem (broken ▸ List.mem_append_left _ mem) fun feed => first (feed ▸ mem)
  have feed : (list.inside ++ ']' :: rest).dropWhile isInside = '\n' :: (others ++ ']' :: rest) := by
    rw [broken, List.append_assoc]
    refine Text.dropWhile_run all ?_
    rintro _ ⟨⟩
    decide
  rw [step_label, feed]
  rfl

/-- A list is read if it is on one line, and passed over otherwise. -/
theorem run_written (list : MiddlewareList) (rest : List Char) :
    scanner.run (list.written ++ rest) =
      (if list.IsOnOneLine then [list.inside] else []) ++ scanner.run rest := by
  split
  · rename_i onOneLine
    rw [Scanner.run_of_some (step_of_isOnOneLine onOneLine rest)]
    rfl
  · rename_i broken
    have whole : list.written ++ rest = 'p' :: (label.tail ++ list.gap ++ ['['] ++
        (list.inside ++ ']' :: rest)) := by
      rw [written, label_cons]
      simp only [List.cons_append, List.append_assoc, List.nil_append, List.tail_cons]
    have nothing := step_of_not_isOnOneLine broken rest
    rw [whole] at nothing ⊢
    have colon : ':' ∉ list.inside := not_mem_inside (by decide) (by decide) (by decide)
    -- up to the opening bracket nothing begins like a label, behind it nothing has a colon
    rw [Scanner.run_cons nothing, run_past_other, run_past]
    · rw [← List.singleton_append, run_past_other (by decide), List.nil_append]
    · have known : ':' ∈ label := by decide
      exact fun inside => colon (inside.mem known)
    · rintro _ ⟨⟩
      decide
    · intro mem
      rcases List.mem_append.mp mem with mem | mem
      · rcases List.mem_append.mp mem with mem | mem
        · exact absurd mem (by decide)
        · exact absurd (list.gap_blank _ mem) (by decide)
      · exact absurd mem (by decide)

/-! ## All lists of a text -/

theorem run_lists {lists : List MiddlewareList} (h : StandIn lists text) :
    scanner.run text = (lists.filter (·.IsOnOneLine)).map inside := by
  induction h with
  | @none filler isFiller =>
    have nothing : scanner.run [] = [] := run_eq_nil List.not_mem_nil
    rw [← List.append_nil filler, run_filler isFiller (by rintro _ ⟨⟩), nothing]
    rfl
  | list isFiller list _ ih =>
    rw [List.append_assoc, run_filler isFiller, run_written, ih]
    · split <;> simp [*]
    · rintro _ ⟨⟩
      decide

theorem run_eq_nil_of_noMarker (h : ¬ Route.middlewareMarker.toList <:+: text) :
    scanner.run text = [] := by
  have noLabel : ¬ label <:+: text := by
    rw [label_eq]
    exact fun inside => h ((List.prefix_append _ _).isInfix.trans inside)
  have nothing : scanner.run [] = [] := run_eq_nil List.not_mem_nil
  rw [← List.append_nil text, run_past noLabel (by rintro _ ⟨⟩), nothing]

theorem occursIn_iff {part : List Char} : Route.occursIn part text = true ↔ part <:+: text := by
  induction text with
  | nil => simp [Route.occursIn]
  | cons c text ih =>
    rw [Route.occursIn, Bool.or_eq_true, List.isPrefixOf_iff_prefix, ih, List.infix_cons_iff]

theorem middlewareOf_eq_flatMap (text : List Char) :
    Route.middlewareOf text = (scanner.run text).flatMap Route.listedNames := by
  rw [middlewareOf_eq]
  split
  · rfl
  · rename_i absent
    rw [run_eq_nil_of_noMarker fun inside => absent (occursIn_iff.mpr inside)]
    rfl

/-- The middleware of a text is what its lists name, of those that are not broken over lines. -/
theorem middlewareOf_lists {lists : List MiddlewareList} (h : StandIn lists text) :
    Route.middlewareOf text = (lists.filter (·.IsOnOneLine)).flatMap names := by
  rw [middlewareOf_eq_flatMap, run_lists h, List.flatMap_map]
  refine congrArg (List.flatMap · _) (funext fun list => ?_)
  exact listedNames_inside list

def broken : MiddlewareList where
  gap := [' ']
  items := [
    ⟨[], "authenticate".toList, [], ⟨by decide, List.all_eq_true.mp (by decide)⟩, by simp⟩,
    ⟨"\n  ".toList, "requireAdmin".toList, [], ⟨by decide, List.all_eq_true.mp (by decide)⟩,
      List.all_eq_true.mp (by decide)⟩]
  gap_blank := List.all_eq_true.mp (by decide)
  items_ne_nil := List.cons_ne_nil _ _

theorem standIn_broken : StandIn [broken] "preHandler: [authenticate,\n  requireAdmin]".toList := by
  have text : "preHandler: [authenticate,\n  requireAdmin]".toList = [] ++ broken.written ++ [] := by
    decide
  have nothing : IsFiller [] := ⟨by decide, by decide⟩
  rw [text]
  exact .list nothing broken (.none nothing)

/-- The names of a list that is broken over lines are lost. -/
theorem middlewareOf_broken :
    StandIn [broken] "preHandler: [authenticate,\n  requireAdmin]".toList ∧
      broken.names = ["authenticate", "requireAdmin"] ∧
        Route.middlewareOf "preHandler: [authenticate,\n  requireAdmin]".toList = [] :=
  ⟨standIn_broken, by decide, by decide +kernel⟩

/-- Two names on one line. The opening bracket is on the line behind the marker. -/
def whole : MiddlewareList where
  gap := ['\n', '\t']
  items := [
    ⟨[' '], "login".toList, ['\t'], ⟨by decide, List.all_eq_true.mp (by decide)⟩,
      List.all_eq_true.mp (by decide)⟩,
    ⟨[], "audit".toList, [' '], ⟨by decide, List.all_eq_true.mp (by decide)⟩,
      List.all_eq_true.mp (by decide)⟩]
  gap_blank := List.all_eq_true.mp (by decide)
  items_ne_nil := List.cons_ne_nil _ _

def severalText : String :=
  "// pre: preHandler:\n\t[ login\t,audit ] ; preHandler: [authenticate,\n  requireAdmin]]\n"

theorem middlewareOf_lists_several :
    StandIn [whole, broken] severalText.toList ∧
      Route.middlewareOf severalText.toList = ["login", "audit"] := by
  have text : severalText.toList =
      "// pre: ".toList ++ whole.written ++ (" ; ".toList ++ broken.written ++ "]\n".toList) := by
    decide
  have stand : StandIn [whole, broken] severalText.toList := by
    rw [text]
    exact .list ⟨by decide +kernel, by decide⟩ whole
      (.list ⟨by decide, by decide⟩ broken (.none ⟨by decide, by decide⟩))
  exact ⟨stand, (middlewareOf_lists stand).trans (by decide)⟩

end MiddlewareList

end Scaffold
