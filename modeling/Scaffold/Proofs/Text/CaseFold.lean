import Scaffold.Pattern.CharSet

/-!
# Words in any case

A set that takes a capital letter in either case takes the characters with the fold of the letter.
There are few of them, and all are word characters.
-/

namespace Scaffold.Text

variable {n : Nat} {k c : Char} {row : FoldRow}

/-! ## The table -/

theorem FoldRow.image?_eq_some_iff {m : Nat} : row.image? n = some m ↔
    row.span.contains n = true ∧ (n + row.distance).toNat = m := by
  rw [image?, Option.ite_none_right_eq_some, Option.some.injEq]

theorem FoldRow.preimage?_eq_some_iff {target : Nat} : row.preimage? target = some n ↔
    row.span.contains n = true ∧ (target - row.distance).toNat = n := by
  rw [preimage?, Option.ite_none_right_eq_some, Option.some.injEq]
  constructor
  · rintro ⟨inside, rfl⟩
    exact ⟨inside, rfl⟩
  · rintro ⟨inside, rfl⟩
    exact ⟨inside, rfl⟩

theorem Span.le_of_contains {span : Span} (h : span.contains n = true) :
    span.first ≤ n ∧ n ≤ span.last := by
  simp only [Span.contains, Bool.and_eq_true, decide_eq_true_eq] at h
  exact h.1

/-- No row moves a character to a capital, and one row moves the capitals. -/
theorem foldRows_capitals : ∀ row ∈ foldRows, 0 < row.span.first ∧
    0x5A < row.span.first + row.distance ∧ (row.span.first ≤ 0x5A → row.distance = 32) := by
  decide +kernel

/-- What is moved to a small letter is a word character. -/
theorem foldRows_letters : ∀ row ∈ foldRows, row.span.first + row.distance ≤ 0x7A →
    row.span.last < row.span.first + 26 ∧
      ∀ i < 26, row.span.contains (row.span.first + i) = true →
        isWord (Char.ofNat (row.span.first + i)) = true := by
  decide +kernel

/-- The code points that may have the fold. -/
def unfoldCode (target : Nat) : List Nat := target :: foldRows.filterMap (·.preimage? target)

theorem caseVariants_eq (c : Char) :
    caseVariants c = c :: (unfoldCode (foldCode c.toNat)).map Char.ofNat := by
  rw [caseVariants, unfoldCode, List.map_cons]

theorem mem_unfoldCode_iff {target : Nat} : n ∈ unfoldCode target ↔ n = target ∨
    ∃ row ∈ foldRows, row.span.contains n = true ∧ (target - row.distance).toNat = n := by
  simp only [unfoldCode, List.mem_cons, List.mem_filterMap, FoldRow.preimage?_eq_some_iff]

theorem mem_unfoldCode_foldCode (n : Nat) : n ∈ unfoldCode (foldCode n) := by
  rw [mem_unfoldCode_iff, foldCode]
  cases moved : foldRows.findSome? (·.image? n) with
  | none => exact .inl rfl
  | some m =>
    obtain ⟨row, mem, image⟩ := List.exists_of_findSome?_eq_some moved
    obtain ⟨inside, rfl⟩ := FoldRow.image?_eq_some_iff.mp image
    have above := (foldRows_capitals row mem).2.1
    have first := (Span.le_of_contains inside).1
    refine .inr ⟨row, mem, inside, ?_⟩
    rw [Option.getD_some]
    omega

/-! ## Capitals -/

theorem isUpper_iff : k.isUpper = true ↔ 0x41 ≤ k.toNat ∧ k.toNat ≤ 0x5A := decide_eq_true_iff

theorem foldCode_capital (h : k.isUpper = true) : foldCode k.toNat = k.toNat + 32 := by
  have inside : (⟨0x41, 0x5A, 1⟩ : Span).contains k.toNat = true :=
    (Span.contains_interval_iff _ _ _).mpr (isUpper_iff.mp h)
  rw [foldCode, foldRows, List.findSome?_cons, FoldRow.image?, inside, if_pos rfl]
  rfl

theorem eq_toNat_of_ofNat (h : Char.ofNat n = k) (nonzero : k.toNat ≠ 0) : n = k.toNat := by
  unfold Char.ofNat at h
  by_cases valid : n.isValidChar
  · rw [dif_pos valid] at h
    rw [← h]
    rfl
  · rw [dif_neg valid] at h
    rw [← h] at nonzero
    exact absurd rfl nonzero

theorem foldCode_of_fold_eq (h : k.isUpper = true) (same : fold c = fold k) :
    foldCode c.toNat = k.toNat + 32 := by
  obtain ⟨first, last⟩ := isUpper_iff.mp h
  have valid : (k.toNat + 32).isValidChar := .inl (by omega)
  have small : (fold k).toNat = k.toNat + 32 := by
    rw [fold, foldCode_capital h, Char.ofNat, dif_pos valid]
    rfl
  rw [← small]
  exact eq_toNat_of_ofNat same (by omega)

/-- A capital has the fold of a character that it is a variant of. -/
theorem mem_unfoldCode_capital (h : k.isUpper = true) (mem : k.toNat ∈ unfoldCode (foldCode n)) :
    n = k.toNat ∨ foldCode n = k.toNat + 32 := by
  obtain ⟨first, last⟩ := isUpper_iff.mp h
  obtain same | ⟨row, inTable, inside, back⟩ := mem_unfoldCode_iff.mp mem
  · have known := mem_unfoldCode_foldCode n
    rw [← same, mem_unfoldCode_iff] at known
    obtain same | ⟨row, inTable, inside, back⟩ := known
    · exact .inl same
    · obtain ⟨positive, above, -⟩ := foldRows_capitals row inTable
      have low := (Span.le_of_contains inside).1
      omega
  · obtain ⟨-, -, shift⟩ := foldRows_capitals row inTable
    have low := (Span.le_of_contains inside).1
    have distance := shift (by omega)
    omega

theorem mem_caseVariants_iff (h : k.isUpper = true) : k ∈ caseVariants c ↔ fold c = fold k := by
  have nonzero : k.toNat ≠ 0 := by
    have first := (isUpper_iff.mp h).1
    omega
  rw [caseVariants_eq, List.mem_cons, List.mem_map]
  constructor
  · rintro (rfl | ⟨n, mem, same⟩)
    · rfl
    · obtain rfl := eq_toNat_of_ofNat same nonzero
      obtain same | moves := mem_unfoldCode_capital h mem
      · rw [Char.toNat_inj.mp same]
      · rw [fold, fold, moves, foldCode_capital h]
  · intro same
    refine .inr ⟨k.toNat, ?_, Char.ofNat_toNat k⟩
    rw [foldCode_of_fold_eq h same, ← foldCode_capital h]
    exact mem_unfoldCode_foldCode k.toNat

theorem contains_caseless_iff (h : k.isUpper = true) :
    (CharSet.caseless (.single k)).contains c = true ↔ fold c = fold k := by
  rw [CharSet.contains, List.any_eq_true, ← mem_caseVariants_iff h]
  constructor
  · rintro ⟨d, mem, same⟩
    exact (CharSet.contains_single_iff k d).mp same ▸ mem
  · intro mem
    exact ⟨k, mem, (CharSet.contains_single_iff k k).mpr rfl⟩

theorem isWord_of_fold_eq (h : k.isUpper = true) (same : fold c = fold k) : isWord c = true := by
  obtain ⟨first, last⟩ := isUpper_iff.mp h
  have known := mem_unfoldCode_foldCode c.toNat
  rw [foldCode_of_fold_eq h same, mem_unfoldCode_iff] at known
  obtain small | ⟨row, inTable, inside, back⟩ := known
  · have lower : c.isLower = true := Bool.and_eq_true_iff.mpr
      ⟨decide_eq_true (show 0x61 ≤ c.toNat by omega),
        decide_eq_true (show c.toNat ≤ 0x7A by omega)⟩
    rw [isWord_eq_isAsciiWord (by omega)]
    change (((c.isUpper || c.isLower) || c.isDigit) || c == '_') = true
    rw [lower, Bool.or_true]
    rfl
  · obtain ⟨low, high⟩ := Span.le_of_contains inside
    have positive := (foldRows_capitals row inTable).1
    obtain ⟨short, words⟩ := foldRows_letters row inTable (by omega)
    have word := words (c.toNat - row.span.first) (by omega)
    rw [Nat.add_sub_cancel' low, Char.ofNat_toNat] at word
    exact word inside

end Scaffold.Text
