import Scaffold.Text.Utf8

/-!
# Text that was written as UTF-8

The bytes of a text are read as the characters of the text.
-/

namespace Scaffold.Text

/-! ## The bytes of a text -/

theorem toList_loop (bytes : ByteArray) (i : Nat) (read : List UInt8) :
    ByteArray.toList.loop bytes i read = read.reverse ++ bytes.data.toList.drop i := by
  induction left : bytes.size - i generalizing i read with
  | zero =>
    have past : bytes.data.toList.length ≤ i := by
      rw [Array.length_toList, ByteArray.size_data]
      omega
    rw [ByteArray.toList.loop, if_neg (by omega), List.drop_eq_nil_of_le past, List.append_nil]
  | succ left ih =>
    have inside : i < bytes.data.toList.length := by
      rw [Array.length_toList, ByteArray.size_data]
      omega
    have byte : bytes.get! i = bytes.data.toList[i] := by
      exact getElem!_pos bytes.data i (by rwa [Array.length_toList] at inside)
    rw [ByteArray.toList.loop, if_pos (by omega), ih (i + 1) _ (by omega), List.reverse_cons,
      List.append_assoc, List.drop_eq_getElem_cons inside, byte]
    rfl

theorem toList_toUTF8 (text : String) :
    text.toUTF8.toList = text.toList.flatMap String.utf8EncodeChar := by
  rw [ByteArray.toList, toList_loop]
  rw [List.reverse_nil, List.nil_append, List.drop_zero]
  rw [String.toUTF8, ← String.utf8Encode_toList, List.utf8Encode, List.toList_data_toByteArray]

/-! ## Reading them -/

variable {c : Char} {b : Nat} {rest : List UInt8}

theorem toNat_byte (h : b < 256) : (UInt8.ofNat b).toNat = b := by
  rw [UInt8.toNat_ofNat']
  exact Nat.mod_eq_of_lt h

theorem decodeFrom_byte (h : b < 256) (state : Option Sequence) (rest : List UInt8) :
    decodeFrom state (UInt8.ofNat b :: rest) =
      (readByte state b).1 ++ decodeFrom (readByte state b).2 rest := by
  rw [decodeFrom, toNat_byte h]

section Sequences

variable {value least most : Nat}

theorem readByte_more {missing : Nat} (above : least ≤ b) (below : b ≤ most) :
    readByte (some ⟨value, missing + 2, least, most⟩) b =
      ([], some ⟨64 * value + (b - 0x80), missing + 1, 0x80, 0xBF⟩) := by
  simp [readByte, above, below]

theorem readByte_last (above : least ≤ b) (below : b ≤ most) :
    readByte (some ⟨value, 1, least, most⟩) b =
      ([Char.ofNat (64 * value + (b - 0x80))], none) := by
  simp [readByte, above, below]

theorem readByte_begin {s : Sequence} (lead : Lead.ofByte b = .sequence s) :
    readByte none b = ([], some s) := by
  rw [readByte, beginSequence, lead]

end Sequences

variable {v : Nat}

theorem lead_two (low : 0x80 ≤ v) (high : v ≤ 0x7FF) :
    Lead.ofByte (v / 64 % 32 + 192) = .sequence ⟨v / 64, 1, 0x80, 0xBF⟩ := by
  have value : v / 64 % 32 + 192 - 0xC0 = v / 64 := by omega
  rw [Lead.ofByte, if_neg (by omega), if_neg (by omega), if_pos (by omega), value]

/-- The second of three bytes is within the bounds that the first one sets. -/
theorem lead_three (low : 0x800 ≤ v) (high : v ≤ 0xFFFF) (valid : v < 0xD800 ∨ 0xDFFF < v) :
    ∃ least most, Lead.ofByte (v / 4096 % 16 + 224) = .sequence ⟨v / 4096, 2, least, most⟩ ∧
      least ≤ v / 64 % 64 + 128 ∧ v / 64 % 64 + 128 ≤ most := by
  have value : v / 4096 % 16 + 224 - 0xE0 = v / 4096 := by omega
  simp only [Lead.ofByte, beq_iff_eq]
  rw [if_neg (by omega), if_neg (by omega), if_neg (by omega)]
  split
  · exact ⟨0xA0, 0xBF, by rw [show v / 4096 = 0 by omega], by omega, by omega⟩
  split
  · exact ⟨0x80, 0x9F, by rw [show v / 4096 = 0xD by omega], by omega, by omega⟩
  · rw [if_pos (by omega), value]
    exact ⟨0x80, 0xBF, rfl, by omega, by omega⟩

theorem lead_four (low : 0x10000 ≤ v) (high : v < 0x110000) :
    ∃ least most, Lead.ofByte (v / 262144 % 8 + 240) = .sequence ⟨v / 262144, 3, least, most⟩ ∧
      least ≤ v / 4096 % 64 + 128 ∧ v / 4096 % 64 + 128 ≤ most := by
  have value : v / 262144 % 8 + 240 - 0xF0 = v / 262144 := by omega
  simp only [Lead.ofByte, beq_iff_eq]
  rw [if_neg (by omega), if_neg (by omega), if_neg (by omega), if_neg (by omega),
    if_neg (by omega), if_neg (by omega)]
  split
  · exact ⟨0x90, 0xBF, by rw [show v / 262144 = 0 by omega], by omega, by omega⟩
  split
  · rw [value]
    exact ⟨0x80, 0xBF, rfl, by omega, by omega⟩
  · rw [if_pos (by omega)]
    exact ⟨0x80, 0x8F, by rw [show v / 262144 = 4 by omega], by omega, by omega⟩

theorem decodeFrom_char (c : Char) (rest : List UInt8) :
    decodeFrom none (String.utf8EncodeChar c ++ rest) = c :: decodeFrom none rest := by
  have valid : c.toNat < 0xD800 ∨ 0xDFFF < c.toNat ∧ c.toNat < 0x110000 := c.valid
  have toNat : c.val.toNat = c.toNat := rfl
  simp only [String.utf8EncodeChar, toNat]
  split
  · rename_i one
    have char : readByte none c.toNat = ([c], none) := by
      rw [readByte, beginSequence, Lead.ofByte, if_pos (by omega), Char.ofNat_toNat]
    rw [List.singleton_append, decodeFrom_byte (by omega), char]
    rfl
  split
  · rename_i two
    have whole : 64 * (c.toNat / 64) + (c.toNat % 64 + 128 - 0x80) = c.toNat := by omega
    rw [List.cons_append, List.singleton_append, decodeFrom_byte (by omega),
      readByte_begin (lead_two (by omega) two), decodeFrom_byte (by omega),
      readByte_last (by omega) (by omega), whole, Char.ofNat_toNat]
    rfl
  split
  · rename_i three
    obtain ⟨least, most, lead, above, below⟩ := lead_three (by omega) three (by omega)
    have whole : 64 * (64 * (c.toNat / 4096) + (c.toNat / 64 % 64 + 128 - 0x80))
        + (c.toNat % 64 + 128 - 0x80) = c.toNat := by omega
    rw [List.cons_append, List.cons_append, List.singleton_append, decodeFrom_byte (by omega),
      readByte_begin lead, decodeFrom_byte (by omega), readByte_more above below,
      decodeFrom_byte (by omega), readByte_last (by omega) (by omega), whole, Char.ofNat_toNat]
    rfl
  · obtain ⟨least, most, lead, above, below⟩ := lead_four (v := c.toNat) (by omega) (by omega)
    have whole : 64 * (64 * (64 * (c.toNat / 262144) + (c.toNat / 4096 % 64 + 128 - 0x80))
        + (c.toNat / 64 % 64 + 128 - 0x80)) + (c.toNat % 64 + 128 - 0x80) = c.toNat := by omega
    rw [List.cons_append, List.cons_append, List.cons_append, List.singleton_append,
      decodeFrom_byte (by omega), readByte_begin lead, decodeFrom_byte (by omega),
      readByte_more above below, decodeFrom_byte (by omega), readByte_more (by omega) (by omega),
      decodeFrom_byte (by omega), readByte_last (by omega) (by omega), whole, Char.ofNat_toNat]
    rfl

theorem decode_toUTF8 (text : String) : decode text.toUTF8 = text.toList := by
  rw [decode, toList_toUTF8]
  induction text.toList with
  | nil => rfl
  | cons c chars ih => rw [List.flatMap_cons, decodeFrom_char, ih]

/-! ## The order of the bytes -/

variable {d : Char} {b' : Nat} {rest' : List UInt8} {s t : String}

theorem bytes_lt (h : b < 256) (h' : b' < 256) (lt : b < b') :
    UInt8.ofNat b :: rest < UInt8.ofNat b' :: rest' := by
  rw [List.cons_lt_cons_iff, UInt8.lt_iff_toNat_lt, toNat_byte h, toNat_byte h']
  exact .inl lt

theorem bytes_lt_of_le (h : b < 256) (h' : b' < 256) (le : b ≤ b') (behind : b = b' → rest < rest') :
    UInt8.ofNat b :: rest < UInt8.ofNat b' :: rest' := by
  rcases Nat.lt_or_eq_of_le le with lt | same
  · exact bytes_lt h h' lt
  · rw [same]
    exact List.cons_lt_cons_iff.mpr (.inr ⟨rfl, behind same⟩)

/-- The first byte tells how many there are. Among characters with as many bytes it is the first
byte that differs which counts. -/
theorem encodeChar_lt (less : c.toNat < d.toNat) :
    String.utf8EncodeChar c ++ rest < String.utf8EncodeChar d ++ rest' := by
  have valid : d.toNat < 0xD800 ∨ 0xDFFF < d.toNat ∧ d.toNat < 0x110000 := d.valid
  have toNat : ∀ c : Char, c.val.toNat = c.toNat := fun _ => rfl
  simp only [String.utf8EncodeChar, toNat]
  -- By the bytes of `c`, then by those of `d`, which has as many or more of them.
  split
  · split
    · exact bytes_lt (by omega) (by omega) less
    split
    · exact bytes_lt (by omega) (by omega) (by omega)
    split
    · exact bytes_lt (by omega) (by omega) (by omega)
    · exact bytes_lt (by omega) (by omega) (by omega)
  rename_i two
  rw [if_neg (show ¬d.toNat ≤ 0x7F by omega)]
  split
  · split
    · exact bytes_lt_of_le (by omega) (by omega) (by omega) fun _ =>
        bytes_lt (by omega) (by omega) (by omega)
    split
    · exact bytes_lt (by omega) (by omega) (by omega)
    · exact bytes_lt (by omega) (by omega) (by omega)
  rename_i three
  rw [if_neg (show ¬d.toNat ≤ 0x7FF by omega)]
  split
  · split
    · exact bytes_lt_of_le (by omega) (by omega) (by omega) fun _ =>
        bytes_lt_of_le (by omega) (by omega) (by omega) fun _ =>
          bytes_lt (by omega) (by omega) (by omega)
    · exact bytes_lt (by omega) (by omega) (by omega)
  rename_i four
  rw [if_neg (show ¬d.toNat ≤ 0xFFFF by omega)]
  exact bytes_lt_of_le (by omega) (by omega) (by omega) fun _ =>
    bytes_lt_of_le (by omega) (by omega) (by omega) fun _ =>
      bytes_lt_of_le (by omega) (by omega) (by omega) fun _ =>
        bytes_lt (by omega) (by omega) (by omega)

theorem encodeChar_ne_nil (c : Char) : String.utf8EncodeChar c ≠ [] := by
  simp only [String.utf8EncodeChar]
  split
  · exact List.cons_ne_nil _ _
  split
  · exact List.cons_ne_nil _ _
  split <;> exact List.cons_ne_nil _ _

/-- Texts are in the order of their bytes. -/
theorem toUTF8_lt (less : s < t) : s.toUTF8.toList < t.toUTF8.toList := by
  rw [toList_toUTF8, toList_toUTF8]
  replace less : List.Lex (· < ·) s.toList t.toList := less
  generalize s.toList = cs, t.toList = ds at less ⊢
  induction less with
  | nil =>
    rename_i c cs
    rw [List.flatMap_nil, List.flatMap_cons]
    obtain ⟨byte, bytes, some⟩ := List.exists_cons_of_ne_nil (encodeChar_ne_nil c)
    rw [some]
    exact List.nil_lt_cons _ _
  | rel less => exact encodeChar_lt less
  | cons less ih =>
    rw [List.flatMap_cons, List.flatMap_cons]
    exact List.append_left_lt ih

end Scaffold.Text
