import Scaffold.Json.Failure

/-!
# The lexemes of JSON

Blanks, words, numbers and strings. Strings are read in two ways: as texts, where every escape
has to stand for a character, and over, where only their form counts.
-/

namespace Scaffold.Json

def isBlank (c : Char) : Bool := c == ' ' || c == '\n' || c == '\t' || c == '\r'

def skipBlanks (cs : List Char) : List Char := cs.dropWhile isBlank

theorem skipBlanks_cons_of_not_blank {c : Char} (h : isBlank c = false) (cs : List Char) :
    skipBlanks (c :: cs) = c :: cs := by
  simp [skipBlanks, h]

def readWord : List Char → Reader Unit
  | [], cs => .ok ((), cs)
  | _ :: _, [] => .error (.here .endInValue [])
  | expected :: word, c :: cs =>
    if c == expected then readWord word cs else .error (.next .wordExpected (c :: cs))

/-! ## Strings -/

def hexValue? (c : Char) : Option Nat :=
  if c.isDigit then some (c.toNat - 48)
  else if 'a' ≤ c && c ≤ 'f' then some (c.toNat - 87)
  else if 'A' ≤ c && c ≤ 'F' then some (c.toNat - 55)
  else none

def hasBytes : Nat → List Char → Bool
  | 0, _ => true
  | _ + 1, [] => false
  | n + 1, c :: cs => hasBytes (n + 1 - c.utf8Size) cs

def readHex4 (cs : List Char) : Except Failure (Nat × List Char) :=
  match cs with
  | a :: b :: c :: d :: rest =>
    match hexValue? a, hexValue? b, hexValue? c, hexValue? d with
    | some a, some b, some c, some d => .ok (4096 * a + 256 * b + 16 * c + d, rest)
    | _, _, _, _ => .error (bad cs)
  | _ => .error (bad cs)
where
  bad (cs : List Char) : Failure :=
    if hasBytes 4 cs then ⟨.invalidEscape, cs, 4⟩ else .here .endInString []

def isHighSurrogate (n : Nat) : Bool := 0xD800 ≤ n && n ≤ 0xDBFF

def isLowSurrogate (n : Nat) : Bool := 0xDC00 ≤ n && n ≤ 0xDFFF

def joinSurrogates (high low : Nat) : Char :=
  Char.ofNat ((high - 0xD800) * 0x400 + (low - 0xDC00) + 0x10000)

/-- The character of an escape by code unit, behind its letter. A high surrogate takes the escape
of a low one with it. -/
def readCodeUnits (cs : List Char) : Except Failure (Char × List Char) := do
  let (n, rest) ← readHex4 cs
  if isLowSurrogate n then .error (.here .loneSurrogate rest)
  else if isHighSurrogate n then
    match rest with
    | [] => .error (.here .endInString [])
    | '\\' :: [] => .error (.here .endInString [])
    | '\\' :: 'u' :: more =>
      let (low, after) ← readHex4 more
      if isLowSurrogate low then .ok (joinSurrogates n low, after)
      else .error (.here .loneSurrogate after)
    | '\\' :: more => .error (.next .hexEscapeEnds more)
    | more => .error (.next .hexEscapeEnds more)
  else .ok (Char.ofNat n, rest)

def simpleEscape? : Char → Option Char
  | '"' => some '"'
  | '\\' => some '\\'
  | '/' => some '/'
  | 'b' => some '\x08'
  | 'f' => some '\x0C'
  | 'n' => some '\n'
  | 'r' => some '\r'
  | 't' => some '\t'
  | _ => none

def readChars : (fuel : Nat) → Reader (List Char)
  | 0, cs => .error (.here .endInString cs)
  | fuel + 1, cs =>
    match cs with
    | [] => .error (.here .endInString [])
    | '"' :: rest => .ok ([], rest)
    | '\\' :: [] => .error (.here .endInString [])
    | '\\' :: 'u' :: rest => do
      let (c, rest) ← readCodeUnits rest
      let (more, rest) ← readChars fuel rest
      .ok (c :: more, rest)
    | '\\' :: letter :: rest =>
      match simpleEscape? letter with
      | some c => do
        let (more, rest) ← readChars fuel rest
        .ok (c :: more, rest)
      | none => .error (.next .invalidEscape (letter :: rest))
    | c :: rest =>
      if c.toNat < 0x20 then .error (.next .controlCharacter (c :: rest))
      else do
        let (more, rest) ← readChars fuel rest
        .ok (c :: more, rest)

def readString : Reader String := fun cs => do
  let (chars, rest) ← readChars (cs.length + 1) cs
  .ok (String.ofList chars, rest)

/-- Goes over a string behind its opening quote. Surrogates need not pair up. -/
def skipChars : (fuel : Nat) → List Char → Except Failure (List Char)
  | 0, cs => .error (.here .endInString cs)
  | fuel + 1, cs =>
    match cs with
    | [] => .error (.here .endInString [])
    | '"' :: rest => .ok rest
    | '\\' :: [] => .error (.here .endInString [])
    | '\\' :: 'u' :: rest => do
      let (_, rest) ← readHex4 rest
      skipChars fuel rest
    | '\\' :: letter :: rest =>
      if (simpleEscape? letter).isSome then skipChars fuel rest
      else .error (.next .invalidEscape (letter :: rest))
    | c :: rest =>
      if c.toNat < 0x20 then .error (.here .controlCharacter (c :: rest)) else skipChars fuel rest

def skipString (cs : List Char) : Except Failure (List Char) := skipChars (cs.length + 1) cs

/-! ## Numbers -/

inductive Number
  | int (n : Int)
  | float (x : Binary)
  deriving Repr, DecidableEq

/-- The largest whole number that is kept exactly. -/
def maxWhole : Nat := 18446744073709551615

/-- Adds digits to a significand while it stays within the exact whole numbers, and counts the
digits taken. -/
def takeDigits (significand count : Nat) : List Char → Nat × Nat × List Char
  | [] => (significand, count, [])
  | c :: rest =>
    if c.isDigit && significand * 10 + (c.toNat - 48) ≤ maxWhole then
      takeDigits (significand * 10 + (c.toNat - 48)) (count + 1) rest
    else (significand, count, c :: rest)

/-- A significand times a power of ten, as one product or quotient of rounded values. Powers
beyond 308 are reached by steps. The rest is where an overflow is reported. -/
def ofParts (negative : Bool) (significand : Nat) (exponent : Int) (rest : List Char) :
    Except Failure Binary :=
  let signed (x : Binary) : Binary := if negative then x.neg else x
  let start := Binary.ofNat significand
  if 0 ≤ exponent then
    if start.isZero then .ok (signed start)
    else if 308 < exponent then .error (.here .numberOutOfRange rest)
    else
      match start.mul (Binary.powerOfTen exponent.toNat) with
      | .infinite _ => .error (.here .numberOutOfRange rest)
      | x => .ok (signed x)
  else .ok (signed (shrink start (-exponent).toNat 4))
where
  /-- Divides by a power of ten. After a few steps of 308 only zero is left. -/
  shrink (x : Binary) (power : Nat) : (steps : Nat) → Binary
    | 0 => .zero
    | steps + 1 =>
      if power ≤ 308 then x.div (Binary.powerOfTen power)
      else if x.isZero then x
      else shrink (x.div (Binary.powerOfTen 308)) (power - 308) steps

/-- Exponents above this are not told apart. -/
def maxExponent : Nat := 2147483647

/-- The digits of an exponent, or nothing if they exceed the largest exponent. The rest behind the
digit that exceeds it comes back with it. -/
def exponentDigits (value : Nat) : List Char → Option Nat × List Char
  | [] => (some value, [])
  | c :: rest =>
    if c.isDigit then
      let value := value * 10 + (c.toNat - 48)
      if value ≤ maxExponent then exponentDigits value rest else (none, rest)
    else (some value, c :: rest)

def readExponent (negative : Bool) (significand : Nat) (exponent : Int) (cs : List Char) :
    Except Failure (Binary × List Char) := do
  let (minus, cs) :=
    match cs with
    | '+' :: rest => (false, rest)
    | '-' :: rest => (true, rest)
    | cs => (false, cs)
  match cs with
  | [] => .error (.here .endInValue [])
  | c :: rest =>
    if !c.isDigit then .error (.next .invalidNumber cs)
    else
      match exponentDigits (c.toNat - 48) rest with
      | (some value, rest) =>
        let final := if minus then exponent - value else exponent + value
        let x ← ofParts negative significand final rest
        .ok (x, rest)
      | (none, rest) =>
        if significand != 0 && !minus then .error (.here .numberOutOfRange rest)
        else
          let zero := if negative then Binary.zero.neg else Binary.zero
          .ok (zero, rest.dropWhile Char.isDigit)

def readScale (negative : Bool) (significand : Nat) (exponent : Int) (cs : List Char) :
    Except Failure (Binary × List Char) := do
  match cs with
  | c :: rest =>
    if c == 'e' || c == 'E' then readExponent negative significand exponent rest
    else
      let x ← ofParts negative significand exponent cs
      .ok (x, cs)
  | [] =>
    let x ← ofParts negative significand exponent cs
    .ok (x, cs)

/-- The places behind the point. Digits beyond the exact whole numbers are dropped. -/
def readPlaces (negative : Bool) (significand : Nat) (exponent : Int) (cs : List Char) :
    Except Failure (Binary × List Char) :=
  let (significand, count, rest) := takeDigits significand 0 cs
  let exponent := exponent - count
  match rest with
  | c :: _ =>
    if c.isDigit then readScale negative significand exponent (rest.dropWhile Char.isDigit)
    else if count == 0 then .error (.next .invalidNumber rest)
    else readScale negative significand exponent rest
  | [] =>
    if count == 0 then .error (.next .endInValue []) else readScale negative significand exponent []

def readAfterDigits (negative : Bool) (significand : Nat) (cs : List Char) :
    Except Failure (Number × List Char) := do
  match cs with
  | '.' :: rest =>
    let (x, rest) ← readPlaces negative significand 0 rest
    .ok (.float x, rest)
  | c :: rest =>
    if c == 'e' || c == 'E' then
      let (x, rest) ← readExponent negative significand 0 rest
      .ok (.float x, rest)
    else .ok (whole, cs)
  | [] => .ok (whole, cs)
where
  /-- A negative number below the least one, and the negative zero, are no whole numbers. -/
  whole : Number :=
    if !negative then .int significand
    else if significand == 0 || 9223372036854775808 < significand then .float (Binary.ofNat significand).neg
    else .int (-significand)

/-- A number with more digits than are kept: the further digits only scale it. -/
def readLong (negative : Bool) (significand : Nat) (cs : List Char) :
    Except Failure (Number × List Char) := do
  let more := cs.takeWhile Char.isDigit
  let rest := cs.drop more.length
  let exponent : Int := more.length
  match rest with
  | '.' :: rest =>
    let (x, rest) ← readLongPlaces exponent rest
    .ok (.float x, rest)
  | rest =>
    let (x, rest) ← readScale negative significand exponent rest
    .ok (.float x, rest)
where
  readLongPlaces (exponent : Int) (cs : List Char) : Except Failure (Binary × List Char) :=
    readPlaces negative significand exponent cs

def readNumber (negative : Bool) : Reader Number := fun cs =>
  match cs with
  | [] => .error (.here .endInValue [])
  | c :: rest =>
    if c == '0' then
      match rest with
      | d :: _ =>
        if d.isDigit then .error (.next .invalidNumber rest) else readAfterDigits negative 0 rest
      | [] => readAfterDigits negative 0 rest
    else if c.isDigit then
      let (significand, _, rest) := takeDigits (c.toNat - 48) 1 rest
      match rest with
      | d :: _ =>
        if d.isDigit then readLong negative significand rest
        else readAfterDigits negative significand rest
      | [] => readAfterDigits negative significand rest
    else .error (.next .invalidNumber cs)

def skipExponent (cs : List Char) : Except Failure (List Char) :=
  let cs :=
    match cs with
    | '+' :: rest => rest
    | '-' :: rest => rest
    | cs => cs
  match cs with
  | c :: rest =>
    if c.isDigit then .ok (rest.dropWhile Char.isDigit) else .error (.next .invalidNumber cs)
  | [] => .error (.here .invalidNumber [])

def skipNumber (cs : List Char) : Except Failure (List Char) :=
  match cs with
  | [] => .error (.here .invalidNumber [])
  | c :: rest =>
    if c == '0' then
      match rest with
      | d :: _ => if d.isDigit then .error (.next .invalidNumber rest) else fraction rest
      | [] => .ok []
    else if c.isDigit then fraction (rest.dropWhile Char.isDigit)
    else .error (.next .invalidNumber cs)
where
  fraction (cs : List Char) : Except Failure (List Char) :=
    match cs with
    | '.' :: rest =>
      match rest.dropWhile Char.isDigit with
      | e :: after =>
        if (rest.head?.any Char.isDigit) then
          if e == 'e' || e == 'E' then skipExponent after else .ok (e :: after)
        else .error (.next .invalidNumber rest)
      | [] => if rest.isEmpty then .error (.next .invalidNumber []) else .ok []
    | e :: after => if e == 'e' || e == 'E' then skipExponent after else .ok (e :: after)
    | [] => .ok []

end Scaffold.Json
