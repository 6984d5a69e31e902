import Scaffold.Json.Lexeme

/-!
# The lexemes of TOML

Blanks, comments, line ends, keys and strings. A step takes something off the front of a text, or
fails if the text does not begin with it.
-/

namespace Scaffold.Toml

abbrev Reader (α : Type) := List Char → Option (α × List Char)

def isBlank (c : Char) : Bool := c == ' ' || c == '\t'

def skipBlanks (cs : List Char) : List Char := cs.dropWhile isBlank

/-- All characters but controls; the tab is none of them. -/
def isText (c : Char) : Bool := c == '\t' || (0x20 ≤ c.toNat && c.toNat != 0x7F)

/-- Goes over blanks, line ends and comments. A comment ends before a control character. -/
def skipLines (inComment : Bool) : List Char → List Char
  | [] => []
  | '\n' :: rest => skipLines false rest
  | '\r' :: '\n' :: rest => skipLines false rest
  | c :: rest =>
    if if inComment then isText c else isBlank c then skipLines inComment rest
    else if c == '#' then skipLines true rest
    else c :: rest

/-- Blanks, perhaps a comment, and the end of the line or of the text. -/
def endLine (cs : List Char) : Option (List Char) :=
  let rest :=
    match skipBlanks cs with
    | '#' :: rest => rest.dropWhile isText
    | rest => rest
  match rest with
  | [] => some []
  | '\n' :: rest => some rest
  | '\r' :: '\n' :: rest => some rest
  | _ => none

/-! ## Strings -/

def hexNumber? (digits : List Char) : Option Nat :=
  digits.foldl (fun n c => do
    let n ← n
    let d ← Json.hexValue? c
    some (16 * n + d)) (some 0)

def codeChar? (digits : List Char) : Option Char := do
  let n ← hexNumber? digits
  if n.isValidChar then some (Char.ofNat n) else none

def readCode (count : Nat) : Reader Char := fun cs =>
  if cs.length < count then none
  else (codeChar? (cs.take count)).map fun c => (c, cs.drop count)

def readEscape : Reader Char
  | 'b' :: rest => some ('\x08', rest)
  | 't' :: rest => some ('\t', rest)
  | 'n' :: rest => some ('\n', rest)
  | 'f' :: rest => some ('\x0C', rest)
  | 'r' :: rest => some ('\r', rest)
  | 'e' :: rest => some ('\x1B', rest)
  | '"' :: rest => some ('"', rest)
  | '\\' :: rest => some ('\\', rest)
  | 'x' :: rest => readCode 2 rest
  | 'u' :: rest => readCode 4 rest
  | 'U' :: rest => readCode 8 rest
  | _ => none

def readBasic : (fuel : Nat) → List Char → Reader String
  | 0, _, _ => none
  | fuel + 1, read, cs =>
    match cs with
    | '"' :: rest => some (String.ofList read.reverse, rest)
    | '\\' :: rest => do
      let (c, rest) ← readEscape rest
      readBasic fuel (c :: read) rest
    | c :: rest => if isText c then readBasic fuel (c :: read) rest else none
    | [] => none

def readLiteral (cs : List Char) : Option (String × List Char) :=
  let body := cs.takeWhile fun c => c != '\'' && isText c
  match cs.drop body.length with
  | '\'' :: rest => some (String.ofList body, rest)
  | _ => none

/-- The quotes at the end of a string over several lines: up to two more than the three that end
it belong to the string. -/
def endQuotes (quote : Char) (cs : List Char) : Option (List Char × List Char) :=
  let count := min 5 (cs.takeWhile (· == quote)).length
  if count < 3 then none else some (List.replicate (count - 3) quote, cs.drop count)

/-- Behind a backslash at the end of a line the text goes on with the next character that is
neither blank nor line end. -/
def continueLine (cs : List Char) : Option (List Char) :=
  match skipBlanks cs with
  | '\n' :: rest => some (skip rest)
  | '\r' :: '\n' :: rest => some (skip rest)
  | _ => none
where
  skip : List Char → List Char
    | '\r' :: '\n' :: rest => skip rest
    | c :: rest => if isBlank c || c == '\n' then skip rest else c :: rest
    | [] => []

/-- A string over several lines, with escapes or without. Line ends are line feeds in it. -/
def readLong (quote : Char) (escapes : Bool) : (fuel : Nat) → List Char → Reader String
  | 0, _, _ => none
  | fuel + 1, read, cs =>
    match endQuotes quote cs with
    | some (quotes, rest) => some (String.ofList (read.reverse ++ quotes), rest)
    | none =>
      match cs with
      | '\\' :: rest =>
        if escapes then
          match continueLine rest with
          | some rest => readLong quote escapes fuel read rest
          | none => do
            let (c, rest) ← readEscape rest
            readLong quote escapes fuel (c :: read) rest
        else readLong quote escapes fuel ('\\' :: read) rest
      | '\n' :: rest => readLong quote escapes fuel ('\n' :: read) rest
      | '\r' :: '\n' :: rest => readLong quote escapes fuel ('\n' :: read) rest
      | c :: rest => if isText c then readLong quote escapes fuel (c :: read) rest else none
      | [] => none

/-- A line end right behind the opening quotes does not belong to the string. -/
def dropFirstLineEnd : List Char → List Char
  | '\n' :: rest => rest
  | '\r' :: '\n' :: rest => rest
  | cs => cs

def readString (cs : List Char) : Option (String × List Char) :=
  match cs with
  | '"' :: '"' :: '"' :: rest => readLong '"' true (cs.length + 1) [] (dropFirstLineEnd rest)
  | '\'' :: '\'' :: '\'' :: rest => readLong '\'' false (cs.length + 1) [] (dropFirstLineEnd rest)
  | '"' :: rest => readBasic (cs.length + 1) [] rest
  | '\'' :: rest => readLiteral rest
  | _ => none

/-! ## Keys -/

def isBareKey (c : Char) : Bool := c.isAlphanum || c == '_' || c == '-'

def readSimpleKey (cs : List Char) : Option (String × List Char) :=
  match cs with
  | '"' :: rest => readBasic (cs.length + 1) [] rest
  | '\'' :: rest => readLiteral rest
  | cs =>
    let key := cs.takeWhile isBareKey
    if key.isEmpty then none else some (String.ofList key, cs.drop key.length)

def readKeys : (fuel : Nat) → Reader (List String)
  | 0, _ => none
  | fuel + 1, cs => do
    let (key, rest) ← readSimpleKey (skipBlanks cs)
    match skipBlanks rest with
    | '.' :: rest =>
      let (keys, rest) ← readKeys fuel rest
      some (key :: keys, rest)
    | rest => some ([key], rest)

def readKey : Reader (List String) := fun cs => readKeys (cs.length + 1) cs

end Scaffold.Toml
