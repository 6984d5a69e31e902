import Scaffold.Decimal.Format
import Scaffold.Text.Quoted

/-!
# Failures of reading JSON

Why a text is no JSON, or not the JSON that was asked for, and where. A place is remembered as
the rest of the text that was not yet read; line and column are counted only for the message.
-/

namespace Scaffold.Json

inductive Unexpected
  | null
  | bool (b : Bool)
  | integer (n : Int)
  | float (x : Binary)
  | string (s : String)
  | sequence
  | map
  deriving Repr, DecidableEq

def Unexpected.describe : Unexpected → String
  | null => "null"
  | bool b => "boolean `" ++ (if b then "true" else "false") ++ "`"
  | integer n => "integer `" ++ toString n ++ "`"
  | float x => "floating point `" ++ NumberFormat.quotedResult.write x ++ "`"
  | string s => "string " ++ Text.quote s
  | sequence => "sequence"
  | map => "map"

inductive Cause
  | endInValue | endInList | endInObject | endInString
  | colonExpected | listCommaExpected | objectCommaExpected | valueExpected | wordExpected
  | invalidEscape | invalidNumber | numberOutOfRange
  | controlCharacter | loneSurrogate | hexEscapeEnds
  | keyExpected | trailingComma | trailingText
  | invalidType (found : Unexpected) (expected : String)
  | invalidLength (count : Nat) (expected : String)
  | unknownVariant (name : String) (known : List String)
  | missingField (name : String)
  | duplicateField (name : String)
  deriving Repr, DecidableEq

def Cause.message : Cause → String
  | endInValue => "EOF while parsing a value"
  | endInList => "EOF while parsing a list"
  | endInObject => "EOF while parsing an object"
  | endInString => "EOF while parsing a string"
  | colonExpected => "expected `:`"
  | listCommaExpected => "expected `,` or `]`"
  | objectCommaExpected => "expected `,` or `\x7d`"
  | valueExpected => "expected value"
  | wordExpected => "expected ident"
  | invalidEscape => "invalid escape"
  | invalidNumber => "invalid number"
  | numberOutOfRange => "number out of range"
  | controlCharacter => "control character (\\u0000-\\u001F) found while parsing a string"
  | loneSurrogate => "lone leading surrogate in hex escape"
  | hexEscapeEnds => "unexpected end of hex escape"
  | keyExpected => "key must be a string"
  | trailingComma => "trailing comma"
  | trailingText => "trailing characters"
  | invalidType found expected => "invalid type: " ++ found.describe ++ ", expected " ++ expected
  | invalidLength count expected => "invalid length " ++ toString count ++ ", expected " ++ expected
  | unknownVariant name known =>
    "unknown variant `" ++ name ++ "`, expected one of " ++
      ", ".intercalate (known.map fun k => "`" ++ k ++ "`")
  | missingField name => "missing field `" ++ name ++ "`"
  | duplicateField name => "duplicate field `" ++ name ++ "`"

/-- A failure some bytes beyond the start of an unread rest. -/
structure Failure where
  cause : Cause
  rest : List Char
  beyond : Nat
  deriving Repr

/-- Line and column; columns count bytes. -/
structure Position where
  line : Nat
  column : Nat
  deriving Repr, DecidableEq

namespace Position

def after (p : Position) (c : Char) : Position :=
  if c == '\n' then ⟨p.line + 1, 0⟩ else ⟨p.line, p.column + c.utf8Size⟩

/-- Goes on by a number of bytes, which may end inside a character. -/
def afterBytes (p : Position) : Nat → List Char → Position
  | _, [] => p
  | n, c :: rest =>
    if n < c.utf8Size then ⟨p.line, p.column + n⟩ else (p.after c).afterBytes (n - c.utf8Size) rest

end Position

def Cause.messageAt (cause : Cause) (p : Position) : String :=
  cause.message ++ " at line " ++ toString p.line ++ " column " ++ toString p.column

namespace Failure

def here (cause : Cause) (rest : List Char) : Failure := ⟨cause, rest, 0⟩

def next (cause : Cause) (rest : List Char) : Failure := ⟨cause, rest, 1⟩

def position (f : Failure) (text : List Char) : Position :=
  let read := text.take (text.length - f.rest.length)
  (read.foldl Position.after ⟨1, 0⟩).afterBytes f.beyond f.rest

def message (f : Failure) (text : List Char) : String := f.cause.messageAt (f.position text)

end Failure

abbrev Reader (α : Type) := List Char → Except Failure (α × List Char)

end Scaffold.Json
