import Scaffold.Json.Printer
import Scaffold.Proofs.Json.Telling

/-!
# Printed texts tell what was printed

Strings are spelled with their escapes, and lists and records have their parts on lines of their
own. A record that is printed with all its entries is told by what is printed.
-/

namespace Scaffold.Json

/-! ## Strings -/

theorem hexValue?_hexDigitOf {n : Nat} (h : n < 16) : hexValue? (Text.hexDigitOf n) = some n := by
  have all : ∀ d < 16, hexValue? (Text.hexDigitOf d) = some d := by decide
  exact all n h

theorem codeUnit_control {c : Char} (h : c.toNat < 0x20) :
    CodeUnit c.toNat
      ['0', '0', Text.hexDigitOf (c.toNat / 16), Text.hexDigitOf (c.toNat % 16)] := by
  have zero : hexValue? '0' = some 0 := by decide
  have high := hexValue?_hexDigitOf (n := c.toNat / 16) (by omega)
  have low := hexValue?_hexDigitOf (n := c.toNat % 16) (by omega)
  have sum : 4096 * 0 + 256 * 0 + 16 * (c.toNat / 16) + c.toNat % 16 = c.toNat := by omega
  have unit := CodeUnit.digits zero zero high low
  rwa [sum] at unit

theorem spellsChar_escapeChar (c : Char) : SpellsChar c (Printed.escapeChar c) := by
  unfold Printed.escapeChar
  split
  · exact .letter (by simp_all [simpleEscape?])
  split
  · exact .letter (by simp_all [simpleEscape?])
  split
  · exact .letter (by simp_all [simpleEscape?])
  split
  · exact .letter (by simp_all [simpleEscape?])
  split
  · exact .letter (by simp_all [simpleEscape?])
  split
  · exact .letter (by simp_all [simpleEscape?])
  split
  · exact .letter (by simp_all [simpleEscape?])
  rename_i notQuote notBackslash _ _ _ _ _
  split
  · rename_i control
    exact .unit (codeUnit_control control)
  · rename_i printed
    exact .plain ⟨Nat.not_lt.mp printed, by simpa using notQuote, by simpa using notBackslash⟩

theorem spellsChars_escaped (chars : List Char) :
    SpellsChars chars (chars.flatMap Printed.escapeChar) := by
  induction chars with
  | nil => exact .nil
  | cons c chars ih =>
    rw [List.flatMap_cons]
    exact .cons (spellsChar_escapeChar c) ih

theorem spells_quoted (s : String) : Spells s (Printed.quoted s) :=
  .quoted (spellsChars_escaped s.toList)

/-! ## Lists and records -/

theorem parts_following (gap last : List Char) (hg : Blanks gap) (hl : Blanks last)
    (texts : List (List Char)) :
    Parts false texts (texts.flatMap (fun text => ',' :: (gap ++ text)) ++ last) := by
  induction texts with
  | nil => exact .none hl
  | cons text texts ih =>
    have part : Parts false (text :: texts) (([] ++ ',' :: gap) ++ (text ++ _)) :=
      .part (.next blanks_nil hg) ih
    simpa using part

theorem enclosed_printed (opening closing : Char) (parts : List Printed) (depth : Nat) :
    Enclosed opening closing (parts.map (· (depth + 1)))
      (Printed.enclosed opening closing parts depth) := by
  cases parts with
  | nil => exact .brackets (.none blanks_nil)
  | cons part parts =>
    have later := parts_following _ _ (blanks_lineAt (depth + 1)) (blanks_lineAt depth)
      (parts.map (· (depth + 1)))
    have inner : Parts true (part (depth + 1) :: _) (Printed.lineAt (depth + 1) ++ _) :=
      .part (.first (blanks_lineAt (depth + 1))) later
    have whole := @Enclosed.brackets opening closing _ _ inner
    simpa [Printed.enclosed, List.flatMap_map] using whole

theorem blanks_space : Blanks [' '] := by
  intro c hc
  rw [List.mem_singleton.mp hc]
  rfl

theorem tells_list {α : Type} {Tells : α → List Char → Prop} {items : List α} {print : α → Printed}
    (depth : Nat) (each : ∀ a ∈ items, Tells a (print a (depth + 1))) :
    TellsList Tells items (Printed.list (items.map print) depth) := by
  have enclosed := enclosed_printed '[' ']' (items.map print) depth
  rw [List.map_map] at enclosed
  refine ⟨_, ?_, enclosed⟩
  rw [List.forall₂_map_right_iff, List.forall₂_same]
  exact each

theorem tells_texts (texts : List String) (depth : Nat) :
    TellsList Spells texts (Printed.list (texts.map Printed.text) depth) :=
  tells_list depth fun s _ => spells_quoted s

theorem isObject_record (members : List (String × Printed)) (depth : Nat) :
    IsObject (members.map fun m => (Printed.quoted m.1, m.2 (depth + 1)))
      (Printed.record members depth) := by
  refine .braces ?_ (enclosed_printed _ _ _ depth)
  induction members with
  | nil => exact .nil
  | cons m members ih =>
    refine .cons ?_ ih
    have pair := @IsMember.pair (Printed.quoted m.1) (m.2 (depth + 1)) _ _ blanks_nil blanks_space
    simpa [Printed.member] using pair

theorem tells_pairs (pairs : List (String × String)) (depth : Nat) :
    TellsPairs pairs (Printed.record (pairs.map fun p => (p.1, Printed.text p.2)) depth) := by
  have isObject := isObject_record (pairs.map fun p => (p.1, Printed.text p.2)) depth
  rw [List.map_map] at isObject
  refine ⟨_, ?_, isObject⟩
  rw [List.forall₂_map_right_iff, List.forall₂_same]
  intro p _
  exact ⟨spells_quoted p.1, spells_quoted p.2⟩

theorem tells_record {entries : List Entry} {members : List (String × Printed)} {depth : Nat}
    (names : (entries.map Entry.name).Nodup)
    (printed : List.Forall₂ (fun e m => e.name = m.1 ∧ e.Tells (m.2 (depth + 1))) entries members) :
    TellsRecord entries (Printed.record members depth) := by
  have told : List.Forall₂ (fun e m => Spells e.name m.1 ∧ e.Tells m.2) entries
      (members.map fun m => (Printed.quoted m.1, m.2 (depth + 1))) := by
    rw [List.forall₂_map_right_iff]
    exact printed.imp fun e m h => ⟨h.1 ▸ spells_quoted m.1, h.2⟩
  refine ⟨_, ?_, isObject_record members depth⟩
  apply tellsMembers_of_perm names _ (List.forall_mem_nil _) told (List.forall_mem_nil _)
  · rw [List.append_nil]
  · rw [List.append_nil]

end Scaffold.Json
