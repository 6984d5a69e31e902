import Scaffold.Text.Letters
import Scaffold.Text.Marks

/-!
# General categories

Every character belongs to one of thirty categories, which gather into seven groups. A code
point that no table lists is unassigned.
-/

namespace Scaffold.Text

inductive Category
  | uppercaseLetter | lowercaseLetter | titlecaseLetter | modifierLetter | otherLetter
  | nonspacingMark | spacingMark | enclosingMark
  | decimalNumber | letterNumber | otherNumber
  | connectorPunctuation | dashPunctuation | openPunctuation | closePunctuation
  | initialPunctuation | finalPunctuation | otherPunctuation
  | mathSymbol | currencySymbol | modifierSymbol | otherSymbol
  | spaceSeparator | lineSeparator | paragraphSeparator
  | control | format | privateUse | surrogate | unassigned
  deriving Repr, DecidableEq

namespace Category

def letters : List Category :=
  [.uppercaseLetter, .lowercaseLetter, .titlecaseLetter, .modifierLetter, .otherLetter]

def casedLetters : List Category :=
  [.uppercaseLetter, .lowercaseLetter, .titlecaseLetter]

def marks : List Category :=
  [.nonspacingMark, .spacingMark, .enclosingMark]

def numbers : List Category :=
  [.decimalNumber, .letterNumber, .otherNumber]

def punctuation : List Category :=
  [.connectorPunctuation, .dashPunctuation, .openPunctuation, .closePunctuation,
    .initialPunctuation, .finalPunctuation, .otherPunctuation]

def symbols : List Category :=
  [.mathSymbol, .currencySymbol, .modifierSymbol, .otherSymbol]

def separators : List Category :=
  [.spaceSeparator, .lineSeparator, .paragraphSeparator]

/-- The assigned characters that are none of letter, mark, number, punctuation, symbol and
separator. -/
def controls : List Category :=
  [.control, .format, .privateUse, .surrogate]

def assigned : List Category :=
  letters ++ marks ++ numbers ++ punctuation ++ symbols ++ separators ++ controls

/-- The spans of an assigned category; an unassigned code point is in none of them. -/
def spans : Category → List Span
  | .uppercaseLetter => uppercaseLetter.table
  | .lowercaseLetter => lowercaseLetter.table
  | .titlecaseLetter => titlecaseLetter.table
  | .modifierLetter => modifierLetter.table
  | .otherLetter => otherLetter.table
  | .nonspacingMark => nonspacingMark.table
  | .spacingMark => spacingMark.table
  | .enclosingMark => enclosingMark.table
  | .decimalNumber => decimalNumber.table
  | .letterNumber => letterNumber.table
  | .otherNumber => otherNumber.table
  | .connectorPunctuation => connectorPunctuation.table
  | .dashPunctuation => dashPunctuation.table
  | .openPunctuation => openPunctuation.table
  | .closePunctuation => closePunctuation.table
  | .initialPunctuation => initialPunctuation.table
  | .finalPunctuation => finalPunctuation.table
  | .otherPunctuation => otherPunctuation.table
  | .mathSymbol => mathSymbol.table
  | .currencySymbol => currencySymbol.table
  | .modifierSymbol => modifierSymbol.table
  | .otherSymbol => otherSymbol.table
  | .spaceSeparator => spaceSeparator.table
  | .lineSeparator => lineSeparator.table
  | .paragraphSeparator => paragraphSeparator.table
  | .control => control.table
  | .format => format.table
  | .privateUse => privateUse.table
  | .surrogate => surrogate.table
  | .unassigned => []

def contains (category : Category) (c : Char) : Bool :=
  match category with
  | .unassigned => !assigned.any (fun k => inSpans c.toNat k.spans)
  | k => inSpans c.toNat k.spans

def anyContains (categories : List Category) (c : Char) : Bool :=
  categories.any (contains · c)

end Category

end Scaffold.Text
