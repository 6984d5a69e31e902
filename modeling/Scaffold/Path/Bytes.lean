import Scaffold.Path
import Scaffold.Text.Utf8

/-!
# Paths of bytes

To the system a path is made of bytes, and only the slash and the dot mean anything in it. So a
path of bytes is kept as a path whose characters are its bytes. A text stands for its bytes in
UTF-8. What is recorded of a path is a text, and bytes that are not UTF-8 are lost in it.
-/

namespace Scaffold

def IsByte (c : Char) : Prop := c.toNat < 256

/-- The path is the one whose characters have the numbers of the bytes. -/
structure BytePath where
  view : Path
  isByte : ∀ s ∈ view.segments, ∀ c ∈ s.toList, IsByte c
  deriving Repr, DecidableEq

namespace BytePath

def ofByte (b : UInt8) : Char := Char.ofNat b.toNat

theorem toNat_ofByte (b : UInt8) : (ofByte b).toNat = b.toNat :=
  Text.toNat_ofNat (.inl (by have := b.toNat_lt; omega))

def spell (bytes : List UInt8) : String := String.ofList (bytes.map ofByte)

theorem isByte_spell {bytes : List UInt8} : ∀ c ∈ (spell bytes).toList, IsByte c := by
  intro c mem
  rw [spell, String.toList_ofList] at mem
  obtain ⟨b, -, rfl⟩ := List.mem_map.mp mem
  rw [IsByte, toNat_ofByte]
  exact b.toNat_lt

def unspell (s : String) : List UInt8 := s.toList.map fun c => UInt8.ofNat c.toNat

def utf8 (s : String) : String := spell s.toUTF8.toList

def ofBytes (bytes : List UInt8) : BytePath where
  view := .ofString (spell bytes)
  isByte s hs c hc := by
    obtain ⟨piece, mem, rfl⟩ := List.mem_map.mp hs
    rw [String.toList_ofList] at hc
    exact isByte_spell c (Text.subset_of_mem_splitAt mem hc)

def ofText (s : String) : BytePath := ofBytes s.toUTF8.toList

def ofPath (p : Path) : BytePath where
  view := ⟨p.segments.map utf8⟩
  isByte s hs := by
    obtain ⟨text, -, rfl⟩ := List.mem_map.mp hs
    exact isByte_spell

def components (p : BytePath) : List PathComponent := p.view.components

def join (p q : BytePath) : BytePath where
  view := p.view.join q.view
  isByte s hs := by
    unfold Path.join at hs
    split at hs
    · exact q.isByte s hs
    split at hs
    · exact q.isByte s hs
    split at hs
    · rcases List.mem_append.mp hs with mem | mem
      · exact p.isByte s (List.dropLast_subset _ mem)
      · exact q.isByte s mem
    · rcases List.mem_append.mp hs with mem | mem
      · exact p.isByte s mem
      · exact q.isByte s mem

/-- The components that are left of a path behind a root. A path elsewhere is left as it is. -/
def behind (root p : BytePath) : List PathComponent :=
  ((Path.stripPrefix? root.view p.view).getD p.view).components

/-- Bytes that are read as UTF-8, with replacement characters where they are none. -/
def read (spelled : String) : String := String.ofList (Text.decodeFrom none (unspell spelled))

/-- The path from a root as it is recorded: its components between slashes, each of them read as
UTF-8. A path elsewhere is recorded whole. -/
def locationFrom (root p : BytePath) : String :=
  "/".intercalate ((root.behind p).map fun c => read c.text)

end BytePath

def Path.locationFrom (root p : Path) : String :=
  (BytePath.ofPath root).locationFrom (.ofPath p)

end Scaffold
