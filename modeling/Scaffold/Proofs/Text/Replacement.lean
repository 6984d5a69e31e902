import Mathlib.Data.List.Infix
import Scaffold.Text.Blank

/-!
# Replacing a mark

Every occurrence of a mark in a text is replaced in one pass. A stretch of text in which no
occurrence begins stays as it is, whatever stands behind it.
-/

namespace Scaffold.Text

/-- Replaces every occurrence of a mark, from the start of the text on. What has come in for a mark
is not read again. -/
def replaceAll (mark new : List Char) : List Char → List Char
  | [] => []
  | c :: cs =>
    if mark <+: c :: cs then new ++ replaceAll mark new (cs.drop (mark.length - 1))
    else c :: replaceAll mark new cs
termination_by cs => cs.length

variable {mark : List Char}

theorem replaceAll_mark (some : mark ≠ []) (new rest : List Char) :
    replaceAll mark new (mark ++ rest) = new ++ replaceAll mark new rest := by
  obtain ⟨c, cs, rfl⟩ := List.exists_cons_of_ne_nil some
  have here : c :: cs <+: c :: (cs ++ rest) := List.prefix_append (c :: cs) rest
  rw [List.cons_append, replaceAll, if_pos here, List.length_cons, Nat.add_sub_cancel,
    List.drop_left]

/-- Whether an occurrence of a mark begins in a text, when something stands behind the text. -/
def BeginsIn (mark text behind : List Char) : Prop :=
  ∃ start, start ≠ [] ∧ start <:+ text ∧ mark <+: start ++ behind

theorem replaceAll_past (new : List Char) {text rest : List Char}
    (free : ¬BeginsIn mark text rest) :
    replaceAll mark new (text ++ rest) = text ++ replaceAll mark new rest := by
  induction text with
  | nil => rfl
  | cons c text ih =>
    have here : ¬mark <+: c :: (text ++ rest) := fun starts =>
      free ⟨c :: text, List.cons_ne_nil c text, List.suffix_rfl, starts⟩
    have later : ¬BeginsIn mark text rest := by
      rintro ⟨start, some, inText, starts⟩
      exact free ⟨start, some, inText.trans (List.suffix_cons c text), starts⟩
    rw [List.cons_append, replaceAll, if_neg here, ih later, List.cons_append]

end Scaffold.Text
