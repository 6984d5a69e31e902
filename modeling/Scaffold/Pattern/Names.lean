import Scaffold.Pattern.CharSet
import Scaffold.Text.Script
import Scaffold.Text.Sign

/-!
# Named character sets

The names between double colons inside brackets, and the names of general categories, properties
and scripts. The latter compare without case, spaces, hyphens and low lines. The properties are
those that are listed. Sets by another property, by script extension, by age or by the breaking of
text are not known.
-/

namespace Scaffold.CharSet

open Text

/-- The twelve ASCII classes and the two names for all of ASCII and its words. -/
def ascii? : List Char → Option CharSet := fun name =>
  match String.ofList name with
  | "alnum" => some (spans [digits, uppers, lowers])
  | "alpha" => some (spans [uppers, lowers])
  | "ascii" => some (spans [.interval 0 0x7F])
  | "blank" => some (spans [.interval 0x09 0x09, .interval 0x20 0x20])
  | "cntrl" => some (spans [.interval 0 0x1F, .interval 0x7F 0x7F])
  | "digit" => some (spans [digits])
  | "graph" => some (spans [.interval 0x21 0x7E])
  | "lower" => some (spans [lowers])
  | "print" => some (spans [.interval 0x20 0x7E])
  | "punct" => some (spans [.interval 0x21 0x2F, .interval 0x3A 0x40, .interval 0x5B 0x60,
      .interval 0x7B 0x7E])
  | "space" => some asciiBlank
  | "upper" => some (spans [uppers])
  | "word" => some asciiWord
  | "xdigit" => some (spans [digits, .interval 0x41 0x46, .interval 0x61 0x66])
  | _ => none
where
  digits : Span := .interval 0x30 0x39
  uppers : Span := .interval 0x41 0x5A
  lowers : Span := .interval 0x61 0x7A
  asciiBlank : CharSet := spans [.interval 0x09 0x0D, .interval 0x20 0x20]
  asciiWord : CharSet := spans [digits, uppers, lowers, .interval 0x5F 0x5F]

def asciiDigit : CharSet := spans [ascii?.digits]

def categoryNames : List (List String × List Category) := [
  (["lu", "uppercaseletter"], [.uppercaseLetter]),
  (["ll", "lowercaseletter"], [.lowercaseLetter]),
  (["lt", "titlecaseletter"], [.titlecaseLetter]),
  (["lm", "modifierletter"], [.modifierLetter]),
  (["lo", "otherletter"], [.otherLetter]),
  (["l", "letter"], Category.letters),
  (["lc", "casedletter"], Category.casedLetters),
  (["mn", "nonspacingmark"], [.nonspacingMark]),
  (["mc", "spacingmark"], [.spacingMark]),
  (["me", "enclosingmark"], [.enclosingMark]),
  (["m", "mark", "combiningmark"], Category.marks),
  (["nd", "decimalnumber", "digit"], [.decimalNumber]),
  (["nl", "letternumber"], [.letterNumber]),
  (["no", "othernumber"], [.otherNumber]),
  (["n", "number"], Category.numbers),
  (["pc", "connectorpunctuation"], [.connectorPunctuation]),
  (["pd", "dashpunctuation"], [.dashPunctuation]),
  (["ps", "openpunctuation"], [.openPunctuation]),
  (["pe", "closepunctuation"], [.closePunctuation]),
  (["pi", "initialpunctuation"], [.initialPunctuation]),
  (["pf", "finalpunctuation"], [.finalPunctuation]),
  (["po", "otherpunctuation"], [.otherPunctuation]),
  (["p", "punctuation", "punct"], Category.punctuation),
  (["sm", "mathsymbol"], [.mathSymbol]),
  (["sc", "currencysymbol"], [.currencySymbol]),
  (["sk", "modifiersymbol"], [.modifierSymbol]),
  (["so", "othersymbol"], [.otherSymbol]),
  (["s", "symbol"], Category.symbols),
  (["zs", "spaceseparator"], [.spaceSeparator]),
  (["zl", "lineseparator"], [.lineSeparator]),
  (["zp", "paragraphseparator"], [.paragraphSeparator]),
  (["z", "separator"], Category.separators),
  (["cc", "control", "cntrl"], [.control]),
  (["cf", "format"], [.format]),
  (["co", "privateuse"], [.privateUse]),
  (["cn", "unassigned"], [.unassigned]),
  (["c", "other"], [.control, .format, .privateUse, .unassigned]),
  (["any"], Category.unassigned :: Category.assigned),
  (["assigned"], Category.assigned)]

def category? (name : String) : Option CharSet :=
  if name == "ascii" then some (spans [.interval 0 0x7F])
  else (categoryNames.find? (·.1.contains name)).map fun row => categories row.2

def casedSet : CharSet :=
  union (categories Category.casedLetters) (spans (lowercaseOthers ++ uppercaseOthers))

def withOthers (members : List Category) (others exceptions : List Span) : CharSet :=
  minus (union (categories members) (spans others)) (spans exceptions)

def identifierStarts : List Category := Category.letters ++ [.letterNumber]

def identifierParts : List Category :=
  identifierStarts ++ [.nonspacingMark, .spacingMark, .decimalNumber, .connectorPunctuation]

def propertyNames : List (List String × CharSet) := [
  (["alphabetic", "alpha"], union (categories identifierStarts) (spans alphabeticSpans)),
  (["lowercase", "lower"], union (categories [.lowercaseLetter]) (spans lowercaseOthers)),
  (["uppercase", "upper"], union (categories [.uppercaseLetter]) (spans uppercaseOthers)),
  (["cased"], casedSet),
  (["whitespace", "wspace", "space"], blank),
  (["asciihexdigit", "ahex"], spans [ascii?.digits, .interval 0x41 0x46, .interval 0x61 0x66]),
  (["hexdigit", "hex"], spans hexadecimalDigits),
  (["graphemeextend", "grext"],
    union (categories [.nonspacingMark, .enclosingMark]) (spans extendingOthers)),
  (["joincontrol", "joinc"], spans [.interval 0x200C 0x200D]),
  (["idstart", "ids"], withOthers identifierStarts identifierStartOthers patternLetters),
  (["idcontinue", "idc"], withOthers identifierParts identifierOthers patternLetters),
  (["xidstart", "xids"],
    withOthers identifierStarts identifierStartOthers (decomposingStarts ++ patternLetters)),
  (["xidcontinue", "xidc"],
    withOthers identifierParts identifierOthers (decomposingOthers ++ patternLetters)),
  (["ideographic", "ideo"], spans ideographs),
  (["dash"], spans dashes),
  (["quotationmark", "qmark"], spans quotationMarks),
  (["emoji"], spans emoji)]

def property? (name : String) : Option CharSet :=
  (propertyNames.find? (·.1.contains name)).map (·.2)

def script? (name : String) : Option CharSet :=
  (Script.ofName? name).map fun script => spans script.spans

/-- The name with its letters small and without spaces, hyphens, low lines and a leading "is". -/
def plainName (name : List Char) : String :=
  let kept := (name.filter fun c => !(c == ' ' || c == '_' || c == '-') && c.toNat < 128).map
    Char.toLower
  match kept with
  | 'i' :: 's' :: rest => if rest == ['c'] then "isc" else String.ofList rest
  | _ => String.ofList kept

/-- A set by its name alone. Three short names stand for a category rather than a property. -/
def named? (name : List Char) : Option CharSet :=
  let plain := plainName name
  if plain == "cf" || plain == "sc" || plain == "lc" then category? plain
  else property? plain <|> category? plain <|> script? plain

def valued? (name value : List Char) : Option CharSet :=
  if plainName name ∈ ["generalcategory", "gc"] then category? (plainName value)
  else if plainName name ∈ ["script", "sc"] then script? (plainName value)
  else none

end Scaffold.CharSet
