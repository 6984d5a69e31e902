import Mathlib.Data.List.Basic
import Scaffold.Project.Pending
import Scaffold.Project.Text.Settings

/-!
# Texts line by line

Texts of which every line is ended fall apart into these lines again, if no line has a line break
of its own. Text that was put on a single line has none, whatever it was before.
-/

namespace Scaffold

namespace Text

/-! ## Pieces -/

theorem not_separator_of_mem_splitAt {p : Char → Bool} {cs piece : List Char} {c : Char}
    (hpiece : piece ∈ splitAt p cs) (hc : c ∈ piece) : p c = false := by
  induction cs generalizing piece with
  | nil =>
    rw [splitAt, List.mem_singleton] at hpiece
    subst hpiece
    cases hc
  | cons d cs ih =>
    rw [splitAt] at hpiece
    by_cases separator : p d = true
    · rw [if_pos separator] at hpiece
      rcases List.mem_cons.mp hpiece with rfl | hpiece
      · cases hc
      · exact ih hpiece hc
    · rw [if_neg separator] at hpiece
      split at hpiece
      · rename_i empty
        exact absurd empty (splitAt_ne_nil p cs)
      · rename_i first pieces eq
        rcases List.mem_cons.mp hpiece with rfl | hpiece
        · rcases List.mem_cons.mp hc with rfl | hc
          · simpa using separator
          · exact ih (eq ▸ List.mem_cons_self) hc
        · exact ih (eq ▸ List.mem_cons_of_mem first hpiece) hc

theorem mem_of_mem_trim {cs : List Char} {c : Char} (h : c ∈ trim cs) : c ∈ cs := by
  rw [trim, trimEnd, List.mem_reverse] at h
  have h := (List.dropWhile_sublist isBlank).mem h
  rw [List.mem_reverse] at h
  exact (List.dropWhile_sublist isBlank).mem h

theorem mem_joinWith {separator : List Char} {pieces : List (List Char)} {c : Char}
    (h : c ∈ joinWith separator pieces) : c ∈ separator ∨ ∃ piece ∈ pieces, c ∈ piece := by
  induction pieces with
  | nil => cases h
  | cons first pieces ih =>
    cases pieces with
    | nil => exact .inr ⟨first, List.mem_cons_self, h⟩
    | cons second pieces =>
      rw [joinWith, List.mem_append, List.mem_append] at h
      · rcases h with (h | h) | h
        · exact .inr ⟨first, List.mem_cons_self, h⟩
        · exact .inl h
        · rcases ih h with h | ⟨piece, hpiece, h⟩
          · exact .inl h
          · exact .inr ⟨piece, List.mem_cons_of_mem first hpiece, h⟩
      · simp

end Text

/-! ## Lines -/

/-- The lines of a text. What stands behind the last line break is none. -/
def linesOf (text : String) : List String :=
  (text.toList.splitOn '\n').dropLast.map String.ofList

def IsLine (s : String) : Prop := '\n' ∉ s.toList

instance (s : String) : Decidable (IsLine s) := inferInstanceAs (Decidable ('\n' ∉ s.toList))

/-- The lines that a text takes up, of which there is at least one. -/
def linesWithin (s : String) : List String := (s.toList.splitOn '\n').map String.ofList

theorem linesWithin_eq {s : String} (h : IsLine s) : linesWithin s = [s] := by
  rw [linesWithin, List.splitOn_eq_singleton h, List.map_singleton, String.ofList_toList]

theorem length_linesWithin (s : String) :
    (linesWithin s).length = s.toList.count '\n' + 1 := by
  rw [linesWithin, List.length_map]
  induction s.toList with
  | nil => rfl
  | cons c cs ih =>
    rw [List.splitOn_cons_eq_if_modifyHead, List.count_cons]
    split
    · rw [List.length_cons, ih]
    · rw [List.length_modifyHead, ih, Nat.add_zero]

theorem length_le_flatMap_linesWithin (ls : List String) :
    ls.length ≤ (ls.flatMap linesWithin).length := by
  induction ls with
  | nil => exact Nat.le_refl 0
  | cons l ls ih =>
    rw [List.flatMap_cons, List.length_append, length_linesWithin, List.length_cons]
    omega

/-- Texts take up a line each just if they are lines. -/
theorem length_flatMap_linesWithin_iff (ls : List String) :
    (ls.flatMap linesWithin).length = ls.length ↔ ∀ l ∈ ls, IsLine l := by
  induction ls with
  | nil => simp
  | cons l ls ih =>
    have least := length_le_flatMap_linesWithin ls
    rw [List.flatMap_cons, List.length_append, length_linesWithin, List.length_cons,
      List.forall_mem_cons, ← ih, IsLine, ← List.count_eq_zero]
    omega

/-- The characters of a literal are at hand this way, without decoding it. -/
theorem isLine_ofList {cs : List Char} (h : '\n' ∉ cs) : IsLine (String.ofList cs) := by
  rwa [IsLine, String.toList_ofList]

def Lacks (c : Char) (s : String) : Prop := c ∉ s.toList

instance (c : Char) (s : String) : Decidable (Lacks c s) :=
  inferInstanceAs (Decidable (c ∉ s.toList))

section Lacks

variable {c : Char}

theorem lacks_append_iff (s t : String) : Lacks c (s ++ t) ↔ Lacks c s ∧ Lacks c t := by
  rw [Lacks, String.toList_append, List.mem_append, not_or]
  rfl

theorem Lacks.append {s t : String} (hs : Lacks c s) (ht : Lacks c t) : Lacks c (s ++ t) :=
  (lacks_append_iff s t).mpr ⟨hs, ht⟩

theorem lacks_empty (c : Char) : Lacks c "" := List.not_mem_nil

theorem lacks_intercalate {separator : String} {ls : List String} (hs : Lacks c separator)
    (hl : ∀ l ∈ ls, Lacks c l) : Lacks c (separator.intercalate ls) := by
  induction ls with
  | nil => exact lacks_empty c
  | cons first ls ih =>
    have hfirst := hl first List.mem_cons_self
    cases ls with
    | nil =>
      rw [String.intercalate_singleton]
      exact hfirst
    | cons second ls =>
      rw [String.intercalate_cons_cons]
      exact (hfirst.append hs).append (ih fun l h => hl l (List.mem_cons_of_mem first h))

/-- There are two characters that break a line. -/
theorem lacks_of_isLineBreak (hc : isLineBreak c = true) {s : String}
    (h : Lacks '\r' s ∧ Lacks '\n' s) : Lacks c s := by
  rw [isLineBreak, Bool.or_eq_true, beq_iff_eq, beq_iff_eq] at hc
  rcases hc with rfl | rfl
  · exact h.1
  · exact h.2

theorem lacks_singleLine (hc : isLineBreak c = true) (s : String) : Lacks c (singleLine s) := by
  intro h
  rw [singleLine, String.toList_ofList] at h
  rcases Text.mem_joinWith h with h | ⟨piece, hpiece, h⟩
  · rw [List.mem_singleton.mp h] at hc
    exact absurd hc (by decide)
  · obtain ⟨part, hpart, rfl⟩ := List.mem_map.mp (List.mem_filter.mp hpiece).1
    have unbroken := Text.not_separator_of_mem_splitAt hpart (Text.mem_of_mem_trim h)
    exact Bool.false_ne_true (unbroken.symm.trans hc)

end Lacks

theorem isLine_append_iff (s t : String) : IsLine (s ++ t) ↔ IsLine s ∧ IsLine t :=
  lacks_append_iff s t

theorem IsLine.append {s t : String} (hs : IsLine s) (ht : IsLine t) : IsLine (s ++ t) :=
  Lacks.append hs ht

namespace ProjectText

theorem linesOf_endLines_flatMap (ls : List String) (rest : String) :
    linesOf (endLines ls ++ rest) = ls.flatMap linesWithin ++ linesOf rest := by
  induction ls with
  | nil => simp
  | cons l ls ih =>
    have chars : (endLines (l :: ls) ++ rest).toList
        = l.toList ++ '\n' :: (endLines ls ++ rest).toList := by
      simp
    rw [linesOf, chars, List.splitOn_append_cons_self,
      List.dropLast_append_of_ne_nil (List.splitOn_ne_nil _ _), List.map_append,
      List.flatMap_cons, List.append_assoc]
    exact congrArg (linesWithin l ++ ·) ih

theorem linesOf_endLines_append {ls : List String} (h : ∀ l ∈ ls, IsLine l) (rest : String) :
    linesOf (endLines ls ++ rest) = ls ++ linesOf rest := by
  have lines : ls.flatMap linesWithin = ls := by
    rw [List.flatMap_congr fun l mem => linesWithin_eq (h l mem)]
    exact List.flatMap_singleton' ls
  rw [linesOf_endLines_flatMap, lines]

theorem linesOf_endLines {ls : List String} (h : ∀ l ∈ ls, IsLine l) :
    linesOf (endLines ls) = ls := by
  have split := linesOf_endLines_append h ""
  rwa [String.append_empty, show linesOf "" = [] from rfl, List.append_nil] at split

end ProjectText

/-! ## Reading lines -/

def behind? (start s : String) : Option String :=
  (start.toList.isPrefixOf? s.toList).map String.ofList

theorem behind?_append (start s : String) : behind? start (start ++ s) = some s := by
  rw [behind?, List.isPrefixOf?_eq_some_iff_append_eq.mpr (String.toList_append ..).symm]
  exact congrArg some String.ofList_toList

/-- The lines behind the first place where a mark stands. -/
def behindMark? (mark : List String) : List String → Option (List String)
  | [] => none
  | l :: ls =>
    match mark.isPrefixOf? (l :: ls) with
    | some rest => some rest
    | none => behindMark? mark ls

theorem behindMark?_append {first : String} {mark before : List String} (rest : List String)
    (h : first ∉ before) :
    behindMark? (first :: mark) (before ++ (first :: mark) ++ rest) = some rest := by
  induction before with
  | nil =>
    have found : (first :: mark).isPrefixOf? (first :: (mark ++ rest)) = some rest :=
      List.isPrefixOf?_eq_some_iff_append_eq.mpr (List.cons_append ..)
    rw [List.nil_append, List.cons_append, behindMark?, found]
  | cons l before ih =>
    obtain ⟨differ, later⟩ := List.ne_and_not_mem_of_not_mem_cons h
    rw [List.cons_append, List.cons_append, behindMark?, List.isPrefixOf?,
      if_neg (by simpa using differ)]
    exact ih later

theorem mapM_map_of_inverse {α β : Type} {f : α → β} {g : β → Option α} {xs : List α}
    (h : ∀ x ∈ xs, g (f x) = some x) : (xs.map f).mapM g = some xs := by
  induction xs with
  | nil => rfl
  | cons x xs ih =>
    rw [List.map_cons, List.mapM_cons, h x List.mem_cons_self,
      ih fun x' hx' => h x' (List.mem_cons_of_mem x hx')]
    rfl

/-- Blocks that are each opened by a line fall apart at these lines. -/
theorem splitOn_blocks {opening : String} {block : List String} {blocks : List (List String)}
    (h : opening ∉ block) (hs : ∀ b ∈ blocks, opening ∉ b) :
    (block ++ blocks.flatMap (opening :: ·)).splitOn opening = block :: blocks := by
  induction blocks generalizing block with
  | nil =>
    rw [List.flatMap_nil, List.append_nil, List.splitOn_eq_singleton h]
  | cons b blocks ih =>
    rw [List.flatMap_cons, List.cons_append, List.splitOn_append_cons_self_of_not_mem h,
      ih (hs b List.mem_cons_self) fun b' hb' => hs b' (List.mem_cons_of_mem b hb')]

end Scaffold
