import Scaffold.Text.Property

/-!
# Words, digits and letters

A word character is a letter, a mark, a decimal digit, a joining punctuation, or one of a few
signs that count as letters. Below 128 these are the letters, the digits and the low line.
-/

namespace Scaffold.Text

def wordCategories : List Category :=
  Category.letters ++ [.letterNumber] ++ Category.marks ++ [.decimalNumber, .connectorPunctuation]

def isAsciiWord (c : Char) : Bool := c.isAlphanum || c == '_'

def isWord (c : Char) : Bool :=
  if c.toNat < 128 then isAsciiWord c
  else Category.anyContains wordCategories c || inSpans c.toNat letterLikeSigns
    || c.toNat == 0x200C || c.toNat == 0x200D

def isDigit (c : Char) : Bool :=
  if c.toNat < 128 then c.isDigit else Category.decimalNumber.contains c

theorem isWord_eq_isAsciiWord {c : Char} (h : c.toNat < 128) : isWord c = isAsciiWord c := by
  simp [isWord, h]

end Scaffold.Text
