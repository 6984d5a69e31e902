/-!
# Blanks

The blank characters are those with the white space property. Trimming takes them off both ends
of a text and keeps everything in between.
-/

namespace Scaffold.Text

def isBlank (c : Char) : Bool :=
  let n := c.toNat
  (9 ≤ n && n ≤ 13) || n == 0x20 || n == 0x85 || n == 0xA0 || n == 0x1680
    || (0x2000 ≤ n && n ≤ 0x200A) || n == 0x2028 || n == 0x2029 || n == 0x202F || n == 0x205F
    || n == 0x3000

def trimStart (cs : List Char) : List Char := cs.dropWhile isBlank

def trimEnd (cs : List Char) : List Char := (cs.reverse.dropWhile isBlank).reverse

def trim (cs : List Char) : List Char := trimEnd (trimStart cs)

@[simp] theorem trim_nil : trim [] = [] := rfl

/-- Splits at every separator; `n` separators leave `n + 1` pieces. -/
def splitAt (isSeparator : Char → Bool) : List Char → List (List Char)
  | [] => [[]]
  | c :: rest =>
    if isSeparator c then [] :: splitAt isSeparator rest
    else match splitAt isSeparator rest with
      | [] => [[c]]
      | piece :: pieces => (c :: piece) :: pieces

theorem splitAt_ne_nil (p : Char → Bool) (cs : List Char) : splitAt p cs ≠ [] := by
  cases cs with
  | nil => simp [splitAt]
  | cons c rest =>
    rw [splitAt]
    split
    · simp
    · split <;> simp

theorem subset_of_mem_splitAt {p : Char → Bool} {cs piece : List Char} (h : piece ∈ splitAt p cs) :
    piece ⊆ cs := by
  induction cs generalizing piece with
  | nil =>
    rw [splitAt, List.mem_singleton] at h
    exact h ▸ List.Subset.refl []
  | cons c rest ih =>
    obtain ⟨first, others, same⟩ := List.exists_cons_of_ne_nil (splitAt_ne_nil p rest)
    rw [splitAt, same] at h
    rw [same] at ih
    split at h
    · rcases List.mem_cons.mp h with rfl | h
      · exact List.nil_subset _
      · exact List.subset_cons_of_subset c (ih h)
    · rcases List.mem_cons.mp h with rfl | h
      · exact List.cons_subset_cons c (ih List.mem_cons_self)
      · exact List.subset_cons_of_subset c (ih (List.mem_cons_of_mem first h))

def joinWith (separator : List Char) : List (List Char) → List Char
  | [] => []
  | [piece] => piece
  | piece :: pieces => piece ++ separator ++ joinWith separator pieces

/-- ASCII letters compare without case, all else exactly. -/
def sameIgnoringCase (xs ys : List Char) : Bool :=
  xs.map Char.toLower == ys.map Char.toLower

theorem sameIgnoringCase_iff (xs ys : List Char) :
    sameIgnoringCase xs ys = true ↔ xs.map Char.toLower = ys.map Char.toLower := by
  simp [sameIgnoringCase]

end Scaffold.Text

namespace String

def trimmed (s : String) : String := ofList (Scaffold.Text.trim s.toList)

def sameIgnoringCase (s t : String) : Bool :=
  Scaffold.Text.sameIgnoringCase s.toList t.toList

end String
