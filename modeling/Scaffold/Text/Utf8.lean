/-!
# UTF-8 with faults

Bytes are read as UTF-8. A sequence that breaks off, or that cannot begin, is read as one
replacement character, and reading goes on with the byte that did not fit.
-/

namespace Scaffold.Text

def replacement : Char := Char.ofNat 0xFFFD

/-- A sequence of which some bytes have been read, and what the next one may be. -/
structure Sequence where
  value : Nat
  missing : Nat
  low : Nat
  high : Nat

inductive Lead
  | char (c : Char)
  | sequence (s : Sequence)
  | invalid

/-- The second byte is bounded so that no character has two spellings, and none is a surrogate. -/
def Lead.ofByte (b : Nat) : Lead :=
  if b < 0x80 then .char (Char.ofNat b)
  else if b < 0xC2 then .invalid
  else if b < 0xE0 then .sequence ⟨b - 0xC0, 1, 0x80, 0xBF⟩
  else if b == 0xE0 then .sequence ⟨0, 2, 0xA0, 0xBF⟩
  else if b == 0xED then .sequence ⟨0xD, 2, 0x80, 0x9F⟩
  else if b < 0xF0 then .sequence ⟨b - 0xE0, 2, 0x80, 0xBF⟩
  else if b == 0xF0 then .sequence ⟨0, 3, 0x90, 0xBF⟩
  else if b < 0xF4 then .sequence ⟨b - 0xF0, 3, 0x80, 0xBF⟩
  else if b == 0xF4 then .sequence ⟨4, 3, 0x80, 0x8F⟩
  else .invalid

def beginSequence (b : Nat) : List Char × Option Sequence :=
  match Lead.ofByte b with
  | .char c => ([c], none)
  | .sequence s => ([], some s)
  | .invalid => ([replacement], none)

def readByte (state : Option Sequence) (b : Nat) : List Char × Option Sequence :=
  match state with
  | none => beginSequence b
  | some s =>
    if s.low ≤ b && b ≤ s.high then
      let value := 64 * s.value + (b - 0x80)
      if s.missing ≤ 1 then ([Char.ofNat value], none)
      else ([], some ⟨value, s.missing - 1, 0x80, 0xBF⟩)
    else
      let (chars, next) := beginSequence b
      (replacement :: chars, next)

def decodeFrom (state : Option Sequence) : List UInt8 → List Char
  | [] => if state.isSome then [replacement] else []
  | b :: rest =>
    let (chars, next) := readByte state b.toNat
    chars ++ decodeFrom next rest

def decode (bytes : ByteArray) : List Char := decodeFrom none bytes.toList

theorem toNat_ofNat {n : Nat} (valid : n.isValidChar) : (Char.ofNat n).toNat = n := by
  rw [Char.ofNat, dif_pos valid]
  rfl

end Scaffold.Text
