import Scaffold.Proofs.Text.CaseFold
import Scaffold.Proofs.Text.Utf8

/-!
# Slices of a text

A slice is taken at a place among the bytes of a text. A place inside a character is none where a
text can be cut: it is recognized by the byte that stands there, and cutting there is a fault. The
places that are left are those between two characters and at the ends.
-/

namespace Scaffold.Text

def encode (cs : List Char) : List UInt8 := cs.flatMap String.utf8EncodeChar

/-- Whether a byte goes on with a character that began before it. -/
def isContinuation (b : UInt8) : Bool := 0x80 ≤ b.toNat && b.toNat < 0xC0

def isBoundary (bytes : List UInt8) (place : Nat) : Bool :=
  place == 0 || bytes[place]?.elim (place == bytes.length) (!isContinuation ·)

def sliceTo? (bytes : List UInt8) (place : Nat) : Option (List UInt8) :=
  if isBoundary bytes place then some (bytes.take place) else none

inductive SliceFault
  | noBoundary (place : Nat)
  deriving Repr, DecidableEq

/-- The bytes from a place on. That the text can be cut there is taken for granted. -/
def sliceFrom (bytes : List UInt8) (place : Nat) : Except SliceFault (List UInt8) :=
  if isBoundary bytes place then .ok (bytes.drop place) else .error (.noBoundary place)

def lowerByte (b : UInt8) : UInt8 := if 0x41 ≤ b.toNat ∧ b.toNat ≤ 0x5A then b + 0x20 else b

def sameBytesIgnoringCase (xs ys : List UInt8) : Bool := xs.map lowerByte == ys.map lowerByte

/-! ## The bytes of characters -/

variable {c : Char}

@[simp] theorem encode_nil : encode [] = [] := rfl

@[simp] theorem encode_cons (c : Char) (cs : List Char) :
    encode (c :: cs) = String.utf8EncodeChar c ++ encode cs :=
  List.flatMap_cons

theorem encode_append (front rest : List Char) :
    encode (front ++ rest) = encode front ++ encode rest :=
  List.flatMap_append

theorem decode_encode (cs : List Char) : decodeFrom none (encode cs) = cs := by
  induction cs with
  | nil => rfl
  | cons c cs ih => rw [encode_cons, decodeFrom_char, ih]

theorem encode_injective : Function.Injective encode :=
  Function.LeftInverse.injective decode_encode

theorem encodeChar_ascii (ascii : c.toNat < 0x80) :
    String.utf8EncodeChar c = [UInt8.ofNat c.toNat] :=
  if_pos (Nat.le_of_lt_succ ascii)

theorem encodeChar_other (other : 0x80 ≤ c.toNat) : ∃ first later,
    String.utf8EncodeChar c = first :: later ∧ 0xC0 ≤ first.toNat ∧
      ∀ b ∈ later, isContinuation b = true := by
  have valid : c.toNat < 0xD800 ∨ 0xDFFF < c.toNat ∧ c.toNat < 0x110000 := c.valid
  have toNat : c.val.toNat = c.toNat := rfl
  have low : ∀ n : Nat, isContinuation (UInt8.ofNat (n % 64 + 128)) = true := fun n => by
    rw [isContinuation, toNat_byte (by omega), Bool.and_eq_true, decide_eq_true_iff,
      decide_eq_true_iff]
    omega
  have high : ∀ n : Nat, 0xC0 ≤ n → n < 256 → 0xC0 ≤ (UInt8.ofNat n).toNat := fun n above byte => by
    rwa [toNat_byte byte]
  simp only [String.utf8EncodeChar, toNat]
  rw [if_neg (by omega)]
  split
  · refine ⟨_, _, rfl, high _ (by omega) (by omega), ?_⟩
    simp only [List.mem_cons, List.not_mem_nil, or_false, forall_eq, low]
  split
  · refine ⟨_, _, rfl, high _ (by omega) (by omega), ?_⟩
    simp only [List.mem_cons, List.not_mem_nil, or_false, forall_eq_or_imp, forall_eq, low,
      and_self]
  · refine ⟨_, _, rfl, high _ (by omega) (by omega), ?_⟩
    simp only [List.mem_cons, List.not_mem_nil, or_false, forall_eq_or_imp, forall_eq, low,
      and_self]

/-- A character begins with a byte of its own kind, and goes on with bytes of the other. -/
theorem encodeChar_eq (c : Char) : ∃ first later, String.utf8EncodeChar c = first :: later ∧
    isContinuation first = false ∧ ∀ b ∈ later, isContinuation b = true := by
  rcases Nat.lt_or_ge c.toNat 0x80 with ascii | other
  · refine ⟨_, _, encodeChar_ascii ascii, ?_, List.forall_mem_nil _⟩
    rw [isContinuation, toNat_byte (by omega), decide_eq_false (by omega), Bool.false_and]
  · obtain ⟨first, later, bytes, high, goesOn⟩ := encodeChar_other other
    refine ⟨first, later, bytes, ?_, goesOn⟩
    rw [isContinuation, decide_eq_false (p := first.toNat < 0xC0) (by omega), Bool.and_false]

/-! ## Where a text can be cut -/

theorem isBoundary_encode (cs : List Char) (place : Nat) : isBoundary (encode cs) place =
    (encode cs)[place]?.elim (place == (encode cs).length) (!isContinuation ·) := by
  rw [isBoundary]
  cases place with
  | succ place => rfl
  | zero =>
    cases cs with
    | nil => rfl
    | cons c cs =>
      obtain ⟨first, later, bytes, begins, -⟩ := encodeChar_eq c
      have start : (encode (c :: cs))[0]? = some first := by
        rw [encode_cons, bytes]
        rfl
      rw [start, Option.elim_some, begins]
      rfl

theorem isBoundary_behind (c : Char) (cs : List Char) (place : Nat) :
    isBoundary (encode (c :: cs)) ((String.utf8EncodeChar c).length + place) =
      isBoundary (encode cs) place := by
  have found : (encode (c :: cs))[(String.utf8EncodeChar c).length + place]? =
      (encode cs)[place]? := by
    rw [encode_cons, List.getElem?_append_right (Nat.le_add_right _ _), Nat.add_sub_cancel_left]
  have ends : ((String.utf8EncodeChar c).length + place == (encode (c :: cs)).length) =
      (place == (encode cs).length) := by
    rw [encode_cons, List.length_append, Bool.eq_iff_iff, beq_iff_eq, beq_iff_eq,
      Nat.add_left_cancel_iff]
  rw [isBoundary_encode, isBoundary_encode, found, ends]

theorem isBoundary_within {c : Char} {place : Nat} (some : place ≠ 0)
    (inside : place < (String.utf8EncodeChar c).length) (cs : List Char) :
    isBoundary (encode (c :: cs)) place = false := by
  obtain ⟨first, later, bytes, -, goesOn⟩ := encodeChar_eq c
  obtain ⟨place, rfl⟩ := Nat.exists_eq_succ_of_ne_zero some
  rw [bytes, List.length_cons, Nat.succ_lt_succ_iff] at inside
  have found : (encode (c :: cs))[place + 1]? = Option.some later[place] := by
    rw [encode_cons, bytes, List.cons_append, List.getElem?_cons_succ,
      List.getElem?_append_left inside, List.getElem?_eq_getElem inside]
  rw [isBoundary_encode, found, Option.elim_some, goesOn _ (List.getElem_mem inside)]
  rfl

/-- A text can be cut between its characters and nowhere else. -/
theorem isBoundary_iff (cs : List Char) (place : Nat) : isBoundary (encode cs) place = true ↔
    ∃ front rest, cs = front ++ rest ∧ place = (encode front).length := by
  induction cs generalizing place with
  | nil =>
    constructor
    · intro boundary
      have empty : place = 0 := by simpa [isBoundary, encode] using boundary
      exact ⟨[], [], rfl, empty⟩
    · rintro ⟨front, rest, parts, rfl⟩
      rw [(List.append_eq_nil_iff.mp parts.symm).1]
      rfl
  | cons c cs ih =>
    constructor
    · intro boundary
      by_cases start : place = 0
      · exact ⟨[], c :: cs, rfl, start⟩
      · -- There is no boundary between the bytes of one character.
        rcases Nat.lt_or_ge place (String.utf8EncodeChar c).length with inside | behind
        · rw [isBoundary_within start inside] at boundary
          cases boundary
        · obtain ⟨further, rfl⟩ := Nat.exists_eq_add_of_le behind
          rw [isBoundary_behind, ih] at boundary
          obtain ⟨front, rest, rfl, rfl⟩ := boundary
          exact ⟨c :: front, rest, rfl, by rw [encode_cons, List.length_append]⟩
    · rintro ⟨front, rest, parts, rfl⟩
      cases front with
      | nil => rfl
      | cons d front =>
        obtain ⟨rfl, rfl⟩ := List.cons.inj parts
        rw [encode_cons c front, List.length_append, isBoundary_behind, ih]
        exact ⟨front, rest, rfl, rfl⟩

/-- A place is behind the same characters whatever way the text is cut there. -/
theorem front_unique {front rest front' rest' : List Char} (whole : front ++ rest = front' ++ rest')
    (size : (encode front).length = (encode front').length) : front = front' ∧ rest = rest' := by
  have bytes := congrArg encode whole
  rw [encode_append, encode_append] at bytes
  obtain ⟨before, behind⟩ := List.append_inj bytes size
  exact ⟨encode_injective before, encode_injective behind⟩

theorem isBoundary_front (front rest : List Char) :
    isBoundary (encode (front ++ rest)) (encode front).length = true :=
  (isBoundary_iff _ _).mpr ⟨front, rest, rfl, rfl⟩

theorem sliceTo?_front (front rest : List Char) :
    sliceTo? (encode (front ++ rest)) (encode front).length = some (encode front) := by
  rw [sliceTo?, if_pos (isBoundary_front front rest), encode_append, List.take_left]

theorem sliceFrom_front (front rest : List Char) :
    sliceFrom (encode (front ++ rest)) (encode front).length = .ok (encode rest) := by
  rw [sliceFrom, if_pos (isBoundary_front front rest), encode_append, List.drop_left]

/-! ## The case of letters -/

theorem lowerByte_of_other {b : UInt8} (h : b.toNat < 0x41 ∨ 0x5A < b.toNat) : lowerByte b = b :=
  if_neg (by omega)

theorem toLower_of_capital (capital : c.isUpper = true) : c.toLower.toNat = c.toNat + 32 := by
  have most := (isUpper_iff.mp capital).2
  have code : c.toLower.val = c.val + 32 :=
    (congrArg Char.val (dif_pos (of_decide_eq_true capital))).trans rfl
  change c.toLower.val.toNat = c.val.toNat + 32
  rw [code, UInt32.toNat_add]
  exact Nat.mod_eq_of_lt (Nat.lt_of_le_of_lt (Nat.add_le_add_right most 32) (by decide))

theorem toLower_of_not_capital (other : ¬c.isUpper = true) : c.toLower = c :=
  dif_neg fun capital => other (decide_eq_true capital)

/-- In capitals nothing but their single byte changes. Characters with several bytes have none
that is a letter. -/
theorem map_lowerByte_encodeChar (c : Char) :
    (String.utf8EncodeChar c).map lowerByte = String.utf8EncodeChar c.toLower := by
  by_cases capital : c.isUpper = true
  · have code := toLower_of_capital capital
    obtain ⟨least, most⟩ := isUpper_iff.mp capital
    have byte : (UInt8.ofNat c.toNat).toNat = c.toNat := toNat_byte (by omega)
    rw [encodeChar_ascii (by omega), encodeChar_ascii (by omega), List.map_singleton, code,
      lowerByte, if_pos (by omega)]
    have sum : UInt8.ofNat c.toNat + 0x20 = UInt8.ofNat (c.toNat + 32) := by
      rw [← UInt8.toNat_inj, UInt8.toNat_add, byte, toNat_byte (by omega),
        show (0x20 : UInt8).toNat = 32 from rfl]
      exact Nat.mod_eq_of_lt (by omega)
    rw [sum]
  · rw [toLower_of_not_capital capital]
    refine (List.map_congr_left fun b mem => ?_).trans (List.map_id _)
    rw [isUpper_iff] at capital
    rcases Nat.lt_or_ge c.toNat 0x80 with ascii | other
    · rw [encodeChar_ascii ascii, List.mem_singleton] at mem
      rw [mem]
      exact lowerByte_of_other (by rw [toNat_byte (by omega)]; omega)
    · obtain ⟨first, later, bytes, high, goesOn⟩ := encodeChar_other other
      rw [bytes, List.mem_cons] at mem
      rcases mem with rfl | mem
      · exact lowerByte_of_other (by omega)
      · have above := goesOn b mem
        rw [isContinuation, Bool.and_eq_true, decide_eq_true_iff] at above
        exact lowerByte_of_other (by omega)

theorem map_lowerByte_encode (cs : List Char) :
    (encode cs).map lowerByte = encode (cs.map Char.toLower) := by
  induction cs with
  | nil => rfl
  | cons c cs ih =>
    rw [encode_cons, List.map_append, map_lowerByte_encodeChar, ih, List.map_cons, encode_cons]

/-- Bytes are compared without case just as their characters are. -/
theorem sameBytesIgnoringCase_encode (cs ds : List Char) :
    sameBytesIgnoringCase (encode cs) (encode ds) = sameIgnoringCase cs ds := by
  rw [sameBytesIgnoringCase, sameIgnoringCase, map_lowerByte_encode, map_lowerByte_encode,
    Bool.eq_iff_iff, beq_iff_eq, beq_iff_eq, encode_injective.eq_iff]

end Scaffold.Text
