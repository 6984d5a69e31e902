import Scaffold.Text.CaseFold
import Scaffold.Text.Property

/-!
# Lowercase texts

A capital becomes its case fold, or, where the fold of a pair is the capital, the character with
that fold. A capital sigma at the end of a word has a form of its own.
-/

namespace Scaffold.Text

/-- Capitals, among them those at the start of a word alone. -/
def isCapital (c : Char) : Bool :=
  Category.anyContains [.uppercaseLetter, .titlecaseLetter] c || inSpans c.toNat uppercaseOthers

def isCased (c : Char) : Bool :=
  isCapital c || Category.lowercaseLetter.contains c || inSpans c.toNat lowercaseOthers

def wordPunctuation : List Nat :=
  [0x27, 0x2E, 0x3A, 0xB7, 0x387, 0x55F, 0x5F4, 0x2018, 0x2019, 0x2024, 0x2027, 0xFE13, 0xFE52,
    0xFE55, 0xFF07, 0xFF0E, 0xFF1A]

/-- Characters that do not count when the end of a word is looked for. -/
def isCaseIgnorable (c : Char) : Bool :=
  Category.anyContains
    [.nonspacingMark, .enclosingMark, .format, .modifierLetter, .modifierSymbol] c
  || wordPunctuation.contains c.toNat

def lowerChar (c : Char) : Char :=
  if isCapital c then
    if fold c != c then fold c
    else ((foldRows.findSome? (·.preimage? c.toNat)).map Char.ofNat).getD c
  else c

def casedFollows (cs : List Char) : Bool := (cs.dropWhile isCaseIgnorable).head?.any isCased

def capitalSigma : Char := Char.ofNat 0x3A3

def sigma : Char := Char.ofNat 0x3C3

def finalSigma : Char := Char.ofNat 0x3C2

/-- The capital with a dot above keeps the dot as a mark. -/
def dottedCapital : Char := Char.ofNat 0x130

/-- The characters before, the last one first, decide about a sigma. -/
def lowerFrom (before : List Char) : List Char → List Char
  | [] => []
  | c :: rest =>
    (if c == capitalSigma then
      [if casedFollows before && !casedFollows rest then finalSigma else sigma]
    else if c == dottedCapital then ['i', Char.ofNat 0x307]
    else [lowerChar c]) ++ lowerFrom (c :: before) rest

def lower (s : String) : String := String.ofList (lowerFrom [] s.toList)

end Scaffold.Text
