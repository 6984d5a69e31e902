import Scaffold.Proofs.Toml.Values

/-!
# Texts that mean a TOML document

A document is made of lines: headers of tables, keys with their values, and gaps. Each line changes
the tables that were made before it in the way that the tables allow. Every document is read from
its lines.
-/

namespace Scaffold.Toml

/-- The rest of a line, with what comes behind it. The last line of a document need not end. -/
inductive EndsLine (more : List Char) : List Char → Prop
  | line {blank note stop : List Char} (blanks : Blanks blank) (isNote : IsNote note)
    (isEnd : IsLineEnd stop) : EndsLine more (blank ++ (note ++ (stop ++ more)))
  | last {blank note : List Char} (nothing : more = []) (blanks : Blanks blank)
    (isNote : IsNote note) : EndsLine more (blank ++ note)

/-- The lines of a document below some header, from some tables to others. -/
inductive Lines : List String → Entries → List Char → Entries → Prop
  | done {current : List String} {entries : Entries} {gap note : List Char} (isGap : Gap gap)
    (isNote : IsNote note) : Lines current entries (gap ++ note) entries
  | header {current path above : List String} {key : String} {entries next final : Entries}
    {gap keys tail more : List Char} (isGap : Gap gap) (spelled : SpellsPath path keys)
    (parted : splitLast path = some (above, key)) (made : entries.makeTable above key = some next)
    (ends : EndsLine more tail) (later : Lines (above ++ [key]) next more final) :
    Lines current entries (gap ++ '[' :: (keys ++ ']' :: tail)) final
  | element {current path above : List String} {key : String} {entries next final : Entries}
    {gap keys tail more : List Char} (isGap : Gap gap) (spelled : SpellsPath path keys)
    (parted : splitLast path = some (above, key)) (made : entries.addTable above key = some next)
    (ends : EndsLine more tail) (later : Lines (above ++ [key]) next more final) :
    Lines current entries (gap ++ '[' :: '[' :: (keys ++ ']' :: ']' :: tail)) final
  | value {current path above : List String} {key : String} {v : Value}
    {entries next final : Entries} {gap keys blank text tail more : List Char} (isGap : Gap gap)
    (spelled : SpellsPath path keys) (blanks : Blanks blank) (means : Means depthLimit v text)
    (parted : splitLast path = some (above, key))
    (made : entries.under current (Entries.addValue key v above) = some next)
    (ends : EndsLine more tail) (later : Lines current next more final) :
    Lines current entries (gap ++ (keys ++ '=' :: (blank ++ (text ++ tail)))) final

variable {fuel : Nat} {gap note keys text tail more : List Char} {path current above : List String}
  {key : String} {v : Value} {entries next final : Entries}

/-! ## The ends of lines -/

theorem length_le_of_endsLine (h : EndsLine more tail) : more.length ≤ tail.length := by
  cases h with
  | line =>
    simp only [List.length_append]
    omega
  | last nothing =>
    rw [nothing]
    exact Nat.zero_le _

theorem ends_of_endsLine (h : EndsLine more tail) : Ends tail := by
  cases h with
  | line blanks isNote isEnd =>
    apply ends_blanks blanks
    cases isNote with
    | none => cases isEnd <;> exact ends_cons (by decide) _
    | comment => exact ends_cons (by decide) _
  | last _ blanks isNote =>
    apply ends_blanks blanks
    cases isNote with
    | none => exact fun c hc => nomatch hc
    | comment => exact ends_cons (by decide) _

theorem endLine_endsLine (h : EndsLine more tail) : endLine tail = some more := by
  cases h with
  | line blanks isNote isEnd =>
    rw [endLine, skipBlanks_append blanks]
    cases isNote with
    | none => cases isEnd <;> rfl
    | comment isText =>
      rw [List.cons_append, skipBlanks_cons rfl]
      cases isEnd with
      | feed =>
        simp only [@Text.dropWhile_run _ _ (['\n'] ++ more) isText (by rintro c ⟨⟩; rfl)]
        rfl
      | both =>
        simp only [@Text.dropWhile_run _ _ (['\r', '\n'] ++ more) isText (by rintro c ⟨⟩; rfl)]
        rfl
  | last nothing blanks isNote =>
    rw [nothing, endLine, skipBlanks_append blanks]
    cases isNote with
    | none => rfl
    | comment isText =>
      have dropped := @Text.dropWhile_run _ _ [] isText (fun c hc => nomatch hc)
      rw [List.append_nil] at dropped
      rw [skipBlanks_cons rfl]
      simp only [dropped]

theorem skipLines_last (isGap : Gap gap) (isNote : IsNote note) :
    skipLines false (gap ++ note) = [] := by
  rw [skipLines_gap isGap]
  cases isNote with
  | none => rfl
  | @comment text isText =>
    have skipped := skipLines_comment isText []
    rw [List.append_nil] at skipped
    exact skipped

/-! ## Reading lines -/

theorem readHeader_path (spelled : SpellsPath path keys)
    (parted : splitLast path = some (above, key)) (closing rest : List Char) :
    readHeader (']' :: closing) (keys ++ ']' :: (closing ++ rest)) = some ((above, key), rest) := by
  rw [readHeader, readKey_path spelled (.inr rfl)]
  simp [parted]

theorem path_ne_bracket (spelled : SpellsPath path keys) (rest behind : List Char) :
    keys ++ rest ≠ '[' :: behind := by
  obtain ⟨before, c, more, rfl, blanks, start, -⟩ := path_cons spelled
  intro same
  cases before with
  | nil => exact (opens_key start).2 (List.cons.inj same).1
  | cons d before =>
    have blank := blanks d List.mem_cons_self
    rw [(List.cons.inj same).1] at blank
    cases blank

theorem skipLines_gap_bracket (isGap : Gap gap) (rest : List Char) :
    skipLines false (gap ++ '[' :: rest) = '[' :: rest :=
  skipLines_gap_cons isGap ⟨rfl, by decide, by decide, by decide, by decide, by decide⟩ rest

theorem readLines_header (isGap : Gap gap) (spelled : SpellsPath path keys)
    (parted : splitLast path = some (above, key)) (made : entries.makeTable above key = some next)
    (ends : EndsLine more tail) :
    readLines (fuel + 1) current entries (gap ++ '[' :: (keys ++ ']' :: tail)) =
      readLines fuel (above ++ [key]) next more := by
  have header := readHeader_path spelled parted [] tail
  rw [List.nil_append] at header
  rw [readLines, skipLines_gap_bracket isGap]
  split
  · rename_i same
    cases same
  · rename_i same
    exact absurd (List.cons.inj same).2 (path_ne_bracket spelled _ _)
  · rename_i same
    cases same
    simp only [header, Option.bind_eq_bind, Option.bind_some, made, endLine_endsLine ends]
  · rename_i other
    exact absurd rfl (other _)

theorem readLines_element (isGap : Gap gap) (spelled : SpellsPath path keys)
    (parted : splitLast path = some (above, key)) (made : entries.addTable above key = some next)
    (ends : EndsLine more tail) :
    readLines (fuel + 1) current entries (gap ++ '[' :: '[' :: (keys ++ ']' :: ']' :: tail)) =
      readLines fuel (above ++ [key]) next more := by
  have header := readHeader_path spelled parted [']'] tail
  rw [List.singleton_append] at header
  rw [readLines, skipLines_gap_bracket isGap]
  simp only [header, Option.bind_eq_bind, Option.bind_some, made, endLine_endsLine ends]

theorem readLines_value {blank : List Char} (isGap : Gap gap) (spelled : SpellsPath path keys)
    (blanks : Blanks blank) (means : Means depthLimit v text)
    (parted : splitLast path = some (above, key))
    (made : entries.under current (Entries.addValue key v above) = some next)
    (ends : EndsLine more tail) :
    readLines (fuel + 1) current entries (gap ++ (keys ++ '=' :: (blank ++ (text ++ tail)))) =
      readLines fuel current next more := by
  have read := readAs_meant means (2 * (blank ++ (text ++ tail)).length + 2) tail
    (ends_of_endsLine ends) (by simp only [List.length_append]; omega)
  -- The key opens the line, and no key opens as a header or a line end does.
  obtain ⟨before, c, behind, rfl, blanks', start, spelled⟩ := path_cons spelled
  have keys := readKey_path spelled (.inl rfl) (blank ++ (text ++ tail))
  obtain ⟨opening, notBracket⟩ := opens_key start
  obtain ⟨d, inner, rfl, opening'⟩ := opens_meant means
  simp only [List.append_assoc, List.cons_append] at keys read ⊢
  rw [readLines, skipLines_gap isGap, skipLines_blanks blanks', skipLines_opening opening]
  split
  · rename_i same
    cases same
  · rename_i same
    exact absurd (List.cons.inj same).1 notBracket
  · rename_i same
    exact absurd (List.cons.inj same).1 notBracket
  · simp only [Option.bind_eq_bind, keys, Option.bind_some, expect, beq_self_eq_true, if_true,
      skipBlanks_append blanks, skipBlanks_cons opening'.1, read, parted, made, endLine_endsLine ends]

theorem readLines_lines (h : Lines current entries text final) (hf : text.length < fuel) :
    readLines fuel current entries text = some final := by
  induction h generalizing fuel with
  | done isGap isNote =>
    obtain ⟨fuel, rfl⟩ := Nat.exists_eq_succ_of_ne_zero (Nat.ne_zero_of_lt hf)
    rw [readLines, skipLines_last isGap isNote]
  | header isGap spelled parted made ends _ ih =>
    obtain ⟨fuel, rfl⟩ := Nat.exists_eq_succ_of_ne_zero (Nat.ne_zero_of_lt hf)
    have shorter := length_le_of_endsLine ends
    simp only [List.length_append, List.length_cons] at hf
    rw [readLines_header isGap spelled parted made ends, ih (by omega)]
  | element isGap spelled parted made ends _ ih =>
    obtain ⟨fuel, rfl⟩ := Nat.exists_eq_succ_of_ne_zero (Nat.ne_zero_of_lt hf)
    have shorter := length_le_of_endsLine ends
    simp only [List.length_append, List.length_cons] at hf
    rw [readLines_element isGap spelled parted made ends, ih (by omega)]
  | value isGap spelled blanks means parted made ends _ ih =>
    obtain ⟨fuel, rfl⟩ := Nat.exists_eq_succ_of_ne_zero (Nat.ne_zero_of_lt hf)
    have shorter := length_le_of_endsLine ends
    simp only [List.length_append, List.length_cons] at hf
    rw [readLines_value isGap spelled blanks means parted made ends, ih (by omega)]

/-- No line begins with a mark of the byte order. -/
theorem dropByteOrderMark_lines (h : Lines current entries text final) :
    dropByteOrderMark text = text := by
  have read := readLines_lines h (Nat.lt_succ_self text.length)
  cases text with
  | nil => rfl
  | cons c text =>
    rw [dropByteOrderMark, if_neg]
    intro mark
    have isMark : c = '\uFEFF' := Char.toNat_inj.mp (beq_iff_eq.mp mark)
    subst isMark
    have opening : Opening '\uFEFF' := ⟨rfl, by decide, by decide, by decide, by decide, by decide⟩
    rw [readLines, skipLines_opening opening] at read
    cases read

theorem readDocument_lines (h : Lines [] [] text final) :
    readDocument text = some (finishEntries final) := by
  rw [readDocument, dropByteOrderMark_lines h]
  simp only [readLines_lines h (Nat.lt_succ_self text.length), Option.map_some]

end Scaffold.Toml
