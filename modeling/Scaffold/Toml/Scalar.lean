import Scaffold.Decimal.Binary
import Scaffold.Decimal.Word
import Scaffold.Toml.Lexeme

/-!
# Numbers and dates in TOML

A bare word is a truth value, a number or a point in time. It has to be well formed as a whole.
-/

namespace Scaffold.Toml

inductive Scalar
  | bool (b : Bool)
  | integer (n : Int)
  | float (x : Binary)
  /-- A point in time, in its usual spelling. -/
  | time (text : String)
  deriving Repr, DecidableEq

/-! ## Numbers -/

/-- The value of digits, between any two of which an underscore may stand. -/
def digitsValue? (base : Nat) (digit? : Char → Option Nat) (cs : List Char) : Option Nat :=
  go 0 false cs
where
  go (value : Nat) (afterDigit : Bool) : List Char → Option Nat
    | [] => if afterDigit then some value else none
    | '_' :: rest => if afterDigit && !rest.isEmpty then go value false rest else none
    | c :: rest => do
      let d ← digit? c
      go (base * value + d) true rest

def decimal? (c : Char) : Option Nat := if c.isDigit then some (c.toNat - 48) else none

def octal? (c : Char) : Option Nat := (decimal? c).filter (· < 8)

def binary? (c : Char) : Option Nat := (decimal? c).filter (· < 2)

def takeSign : List Char → Bool × List Char
  | '-' :: rest => (true, rest)
  | '+' :: rest => (false, rest)
  | cs => (false, cs)

/-- Decimal digits that do not begin with a needless zero. -/
def wholeValue? (cs : List Char) : Option Nat :=
  match cs with
  | '0' :: _ :: _ => none
  | cs => digitsValue? 10 decimal? cs

def inRange (n : Int) : Option Scalar :=
  if fitsWord n then some (.integer n) else none

def integer? (cs : List Char) : Option Scalar :=
  match cs with
  | '0' :: 'x' :: rest => (digitsValue? 16 Json.hexValue? rest).bind fun n => inRange n
  | '0' :: 'o' :: rest => (digitsValue? 8 octal? rest).bind fun n => inRange n
  | '0' :: 'b' :: rest => (digitsValue? 2 binary? rest).bind fun n => inRange n
  | cs =>
    let (negative, digits) := takeSign cs
    (wholeValue? digits).bind fun n => inRange (if negative then -n else n)

def isExponentMark (c : Char) : Bool := c == 'e' || c == 'E'

def isDigitChar (c : Char) : Bool := c.isDigit

def exponent? (cs : List Char) : Option Int :=
  match cs with
  | [] => some 0
  | _ :: rest =>
    let (negative, digits) := takeSign rest
    (digitsValue? 10 decimal? digits).map fun n => if negative then -n else n

def fraction? (cs : List Char) : Option (Nat × Nat) :=
  match cs with
  | [] => some (0, 0)
  | _ :: digits =>
    (digitsValue? 10 decimal? digits).map fun n => (n, (digits.filter isDigitChar).length)

def finite? (x : Binary) : Option Scalar :=
  match x with
  | .finite _ _ _ => some (.float x)
  | _ => none

def float? (cs : List Char) : Option Scalar :=
  let (negative, body) := takeSign cs
  match body with
  | ['i', 'n', 'f'] => some (.float (.infinite negative))
  | ['n', 'a', 'n'] => some (.float .notANumber)
  | body => do
    let significand := body.takeWhile (!isExponentMark ·)
    let whole := significand.takeWhile (· != '.')
    let (places, count) ← fraction? (significand.drop whole.length)
    let exponent ← exponent? (body.drop significand.length)
    let n ← wholeValue? whole
    if whole.length == body.length then none
    else finite? (Binary.ofDecimal negative (n * Binary.tenTo count + places) (exponent - count))

/-! ## Points in time -/

def twoDigits (n : Nat) : String := if n < 10 then "0" ++ toString n else toString n

def isLeapYear (year : Nat) : Bool :=
  year % 4 == 0 && (year % 100 != 0 || year % 400 == 0)

def daysIn (year month : Nat) : Nat :=
  if month == 2 then (if isLeapYear year then 29 else 28)
  else if [4, 6, 9, 11].contains month then 30
  else 31

def readDigits (count : Nat) : Reader Nat := fun cs =>
  let digits := cs.take count
  if digits.length == count && digits.all Char.isDigit then
    some (digits.foldl (fun n c => 10 * n + (c.toNat - 48)) 0, cs.drop count)
  else none

def expect (c : Char) (cs : List Char) : Option (List Char) :=
  match cs with
  | d :: rest => if d == c then some rest else none
  | [] => none

def readDate : Reader String := fun cs => do
  let (year, rest) ← readDigits 4 cs
  let rest ← expect '-' rest
  let (month, rest) ← readDigits 2 rest
  let rest ← expect '-' rest
  let (day, rest) ← readDigits 2 rest
  if 1 ≤ month && month ≤ 12 && 1 ≤ day && day ≤ daysIn year month then
    some (String.ofList (cs.take 10), rest)
  else none

/-- The fraction of a second to nine places, without needless zeros. -/
def fractionText (digits : List Char) : String :=
  let kept := ((digits.take 9).reverse.dropWhile (· == '0')).reverse
  "." ++ (if kept.isEmpty then "0" else String.ofList kept)

def readFraction : Reader String := fun cs =>
  match cs with
  | '.' :: rest =>
    let digits := rest.takeWhile Char.isDigit
    if digits.isEmpty then none else some (fractionText digits, rest.drop digits.length)
  | cs => some ("", cs)

/-- Seconds with their fraction; a leap second may be counted. -/
def readSeconds : Reader String := fun cs =>
  match cs with
  | ':' :: rest => do
    let (second, rest) ← readDigits 2 rest
    let (fraction, rest) ← readFraction rest
    if second ≤ 60 then some (":" ++ twoDigits second ++ fraction, rest) else none
  | cs => some ("", cs)

def readClock : Reader String := fun cs => do
  let (hour, rest) ← readDigits 2 cs
  let rest ← expect ':' rest
  let (minute, rest) ← readDigits 2 rest
  let (seconds, rest) ← readSeconds rest
  if hour < 24 && minute < 60 then
    some (twoDigits hour ++ ":" ++ twoDigits minute ++ seconds, rest)
  else none

/-- The distance from universal time. No distance at all is a positive one. -/
def offset? (cs : List Char) : Option String :=
  match cs with
  | [] => some ""
  | ['Z'] => some "Z"
  | ['z'] => some "Z"
  | sign :: rest => do
    if sign != '+' && sign != '-' then none
    let (hour, rest) ← readDigits 2 rest
    let rest ← expect ':' rest
    let (minute, rest) ← readDigits 2 rest
    if hour < 24 && minute < 60 && rest.isEmpty then
      let sign := if hour == 0 && minute == 0 then '+' else sign
      some (String.singleton sign ++ twoDigits hour ++ ":" ++ twoDigits minute)
    else none

def clock? (cs : List Char) : Option String := do
  let (clock, rest) ← readClock cs
  let offset ← offset? rest
  some (clock ++ offset)

def time? (cs : List Char) : Option Scalar :=
  match readDate cs with
  | some (date, []) => some (.time date)
  | some (date, mark :: rest) => do
    if mark != 'T' && mark != 't' && mark != ' ' then none
    let clock ← clock? rest
    some (.time (date ++ "T" ++ clock))
  | none =>
    match readClock cs with
    | some (clock, []) => some (.time clock)
    | _ => none

/-! ## Words -/

def isWordChar (c : Char) : Bool :=
  c.isAlphanum || c == '_' || c == '+' || c == '-' || c == '.' || c == ':'

/-- A clock time may follow its date behind a blank. -/
def blankThenClock : List Char → Bool
  | ' ' :: a :: b :: ':' :: _ => a.isDigit && b.isDigit
  | _ => false

def scalar? (word : List Char) : Option Scalar :=
  if word == "true".toList then some (.bool true)
  else if word == "false".toList then some (.bool false)
  else integer? word <|> float? word <|> time? word

def readScalar : Reader Scalar := fun cs =>
  let word := cs.takeWhile isWordChar
  let rest := cs.drop word.length
  let word :=
    if (readDate word).any (·.2.isEmpty) && blankThenClock rest then
      word ++ ' ' :: (rest.drop 1).takeWhile isWordChar
    else word
  (scalar? word).map fun v => (v, cs.drop word.length)

end Scaffold.Toml
