import Scaffold.Proofs.Text.Lines
import Scaffold.Proofs.Text.Runs

/-!
# Texts on a single line

What is left of a text on a single line are its solid pieces with a space between them. Such a text
is flat, and a flat text stays as it is, so putting it on a single line again changes nothing. The
characters that are lost or added on the way are blanks.
-/

namespace Scaffold

namespace Text

/-- A text on one line without blanks around it. -/
structure IsFlat (cs : List Char) : Prop where
  unbroken : ∀ c ∈ cs, isLineBreak c = false
  first : cs.head?.any isBlank = false
  last : cs.getLast?.any isBlank = false

def solidChars (cs : List Char) : List Char := cs.filter (!isBlank ·)

/-- The lines of a text without the blanks around them, those of which nothing is left aside. -/
def solidPieces (cs : List Char) : List (List Char) :=
  ((splitAt isLineBreak cs).map trim).filter (!·.isEmpty)

theorem toList_singleLine (s : String) :
    (singleLine s).toList = joinWith [' '] (solidPieces s.toList) :=
  String.toList_ofList

variable {cs piece : List Char} {pieces : List (List Char)}

/-! ## Flat texts -/

theorem ne_nil_of_mem_solidPieces (h : piece ∈ solidPieces cs) : piece ≠ [] := by
  rintro rfl
  cases (List.mem_filter.mp h).2

theorem isFlat_of_mem_solidPieces (h : piece ∈ solidPieces cs) : IsFlat piece := by
  obtain ⟨line, isLine, rfl⟩ := List.mem_map.mp (List.mem_filter.mp h).1
  constructor
  · intro c mem
    exact not_separator_of_mem_splitAt isLine (mem_of_mem_trim mem)
  · exact (Option.any_eq_false _ _).mpr (head?_trim line)
  · exact (Option.any_eq_false _ _).mpr (getLast?_trim line)

theorem isFlat_nil : IsFlat [] where
  unbroken _ mem := by cases mem
  first := rfl
  last := rfl

/-- The ends of two flat texts that are put together are the outer ones. -/
theorem IsFlat.join {cs ds : List Char} (front : IsFlat cs) (back : IsFlat ds) (some : cs ≠ [])
    (some' : ds ≠ []) : IsFlat (cs ++ [' '] ++ ds) := by
  constructor
  · intro c mem
    rw [List.mem_append, List.mem_append, List.mem_singleton] at mem
    rcases mem with (mem | rfl) | mem
    · exact front.unbroken c mem
    · rfl
    · exact back.unbroken c mem
  · rw [List.append_assoc, List.head?_append_of_ne_nil _ some]
    exact front.first
  · rw [List.getLast?_append_of_ne_nil _ some']
    exact back.last

theorem joinWith_ne_nil (some : pieces ≠ []) (filled : ∀ piece ∈ pieces, piece ≠ []) :
    joinWith [' '] pieces ≠ [] := by
  cases pieces with
  | nil => exact absurd rfl some
  | cons first pieces =>
    have firstFilled := filled first List.mem_cons_self
    cases pieces with
    | nil => exact firstFilled
    | cons second pieces =>
      rw [joinWith, List.append_assoc]
      · exact List.append_ne_nil_of_left_ne_nil firstFilled _
      · exact List.cons_ne_nil second pieces

theorem isFlat_joinWith (flat : ∀ piece ∈ pieces, IsFlat piece)
    (filled : ∀ piece ∈ pieces, piece ≠ []) : IsFlat (joinWith [' '] pieces) := by
  induction pieces with
  | nil => exact isFlat_nil
  | cons first pieces ih =>
    have firstFlat := flat first List.mem_cons_self
    cases pieces with
    | nil => exact firstFlat
    | cons second pieces =>
      have later := ih (fun piece mem => flat piece (List.mem_cons_of_mem first mem))
        fun piece mem => filled piece (List.mem_cons_of_mem first mem)
      have laterFilled := joinWith_ne_nil (List.cons_ne_nil second pieces)
        fun piece mem => filled piece (List.mem_cons_of_mem first mem)
      rw [joinWith]
      · exact firstFlat.join later (filled first List.mem_cons_self) laterFilled
      · exact List.cons_ne_nil second pieces

theorem isFlat_singleLine (s : String) : IsFlat (singleLine s).toList := by
  rw [toList_singleLine]
  exact isFlat_joinWith (fun _ => isFlat_of_mem_solidPieces) fun _ => ne_nil_of_mem_solidPieces

theorem trim_of_isFlat (flat : IsFlat cs) : trim cs = cs := by
  have untouched : trim ([] ++ cs ++ []) = cs :=
    trim_of_ends (List.forall_mem_nil _) ((Option.any_eq_false _ _).mp flat.first)
      ((Option.any_eq_false _ _).mp flat.last)
  rwa [List.nil_append, List.append_nil] at untouched

theorem singleLine_of_isFlat {s : String} (flat : IsFlat s.toList) : singleLine s = s := by
  have line : (splitAt isLineBreak s.toList).map trim = [s.toList] := by
    rw [splitAt_eq_singleton flat.unbroken, List.map_singleton, trim_of_isFlat flat]
  have same : joinWith [' '] (solidPieces s.toList) = s.toList := by
    rw [solidPieces, line]
    cases s.toList with
    | nil => rfl
    | cons c cs => rfl
  rw [singleLine, ← solidPieces, same, String.ofList_toList]

/-! ## The characters that are no blanks -/

theorem isBlank_of_isLineBreak {c : Char} (h : isLineBreak c = true) : isBlank c = true := by
  rw [isLineBreak, Bool.or_eq_true, beq_iff_eq, beq_iff_eq] at h
  rcases h with rfl | rfl <;> rfl

theorem solidChars_append (cs ds : List Char) :
    solidChars (cs ++ ds) = solidChars cs ++ solidChars ds :=
  List.filter_append cs ds

theorem solidChars_of_blank (blank : ∀ c ∈ cs, isBlank c = true) : solidChars cs = [] :=
  List.filter_eq_nil_iff.mpr fun c mem => by simp [blank c mem]

theorem solidChars_trim (cs : List Char) : solidChars (trim cs) = solidChars cs := by
  obtain ⟨front, back, whole, blank⟩ := trim_parts cs
  have front_blank := solidChars_of_blank fun c mem => blank c (List.mem_append_left back mem)
  have back_blank := solidChars_of_blank fun c mem => blank c (List.mem_append_right front mem)
  conv_rhs => rw [whole]
  rw [solidChars_append, solidChars_append, front_blank, back_blank, List.nil_append,
    List.append_nil]

theorem solidChars_joinWith (pieces : List (List Char)) :
    solidChars (joinWith [' '] pieces) = pieces.flatMap solidChars := by
  induction pieces with
  | nil => rfl
  | cons first pieces ih =>
    cases pieces with
    | nil => rw [List.flatMap_singleton, joinWith]
    | cons second pieces =>
      rw [joinWith, solidChars_append, solidChars_append, ih,
        show solidChars [' '] = [] from rfl, List.append_nil, List.flatMap_cons (x := first)]
      exact List.cons_ne_nil second pieces

/-- Whatever a text is split at, its pieces have all characters that are no blanks. -/
theorem flatMap_splitAt {p : Char → Bool} (blank : ∀ c, p c = true → isBlank c = true)
    (cs : List Char) : (splitAt p cs).flatMap solidChars = solidChars cs := by
  induction cs with
  | nil => rfl
  | cons c cs ih =>
    rw [splitAt]
    split
    · rename_i separator
      have lost : solidChars (c :: cs) = solidChars cs :=
        List.filter_cons_of_neg (by simp [blank c separator])
      rw [List.flatMap_cons, ih, lost]
      rfl
    · obtain ⟨piece, pieces, same⟩ := List.exists_cons_of_ne_nil (splitAt_ne_nil p cs)
      rw [same, List.flatMap_cons] at ih
      rw [same, List.flatMap_cons, ← List.singleton_append, solidChars_append, List.append_assoc,
        ih, ← solidChars_append, List.singleton_append]

theorem flatMap_filter_filled (pieces : List (List Char)) :
    (pieces.filter (!·.isEmpty)).flatMap solidChars = pieces.flatMap solidChars := by
  induction pieces with
  | nil => rfl
  | cons piece pieces ih =>
    cases piece with
    | nil => exact ih
    | cons c cs => rw [List.filter_cons_of_pos rfl, List.flatMap_cons, List.flatMap_cons, ih]

theorem solidChars_singleLine (s : String) :
    solidChars (singleLine s).toList = solidChars s.toList :=
  calc
    solidChars (singleLine s).toList
      = (solidPieces s.toList).flatMap solidChars := by rw [toList_singleLine, solidChars_joinWith]
    _ = ((splitAt isLineBreak s.toList).map trim).flatMap solidChars := flatMap_filter_filled _
    _ = (splitAt isLineBreak s.toList).flatMap solidChars := by
      rw [List.flatMap_map]
      exact List.flatMap_congr fun line _ => solidChars_trim line
    _ = solidChars s.toList := flatMap_splitAt (fun _ => isBlank_of_isLineBreak) _

end Text

/-- A text on a single line has no line break, no blank at either end and no other characters than
the text, blanks aside. It does not change when it is put on a single line again. -/
theorem singleLine_flattens (s : String) :
    ('\r' ∉ (singleLine s).toList ∧ '\n' ∉ (singleLine s).toList) ∧
      ((singleLine s).toList.head?.any Text.isBlank = false ∧
        (singleLine s).toList.getLast?.any Text.isBlank = false) ∧
      singleLine (singleLine s) = singleLine s ∧
      (singleLine s).toList.filter (!Text.isBlank ·) = s.toList.filter (!Text.isBlank ·) := by
  have flat := Text.isFlat_singleLine s
  refine ⟨⟨lacks_singleLine rfl s, lacks_singleLine rfl s⟩, ⟨flat.first, flat.last⟩, ?_, ?_⟩
  · exact Text.singleLine_of_isFlat flat
  · exact Text.solidChars_singleLine s

end Scaffold
