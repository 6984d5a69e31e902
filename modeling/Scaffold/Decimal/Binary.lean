/-!
# Binary floating point

A value with 53 binary digits and an exponent of at least -1074, kept exactly. Ratios of natural
numbers round to the nearest such value, and a tie goes to the even one.
-/

namespace Scaffold

inductive Binary
  /-- The value `mantissa * 2 ^ exponent`. -/
  | finite (negative : Bool) (mantissa : Nat) (exponent : Int)
  | infinite (negative : Bool)
  | notANumber
  deriving Repr, DecidableEq

namespace Binary

def twoTo (n : Nat) : Nat := Nat.pow 2 n

def tenTo (n : Nat) : Nat := Nat.pow 10 n

/-- Mantissas are below this, and at least half of it unless the exponent is the least one. -/
def mantissaBound : Nat := 9007199254740992

def zero : Binary := finite false 0 (-1074)

def isZero : Binary → Bool
  | finite _ m _ => m == 0
  | _ => false

/-- Rounds half to even. -/
def roundDiv (num den : Nat) : Nat :=
  let q := num / den
  let twice := 2 * (num % den)
  if twice < den then q
  else if den < twice then q + 1
  else if q % 2 == 0 then q else q + 1

/-- `num / den / 2 ^ exponent` as a ratio. -/
def scaled (num den : Nat) (exponent : Int) : Nat × Nat :=
  (num * twoTo (-exponent).toNat, den * twoTo exponent.toNat)

/-- The exponent that leaves 53 digits before the point, or the least one. -/
def exponentOf (num den : Nat) : Int :=
  let guess : Int := (num.log2 : Int) - (den.log2 : Int) - 53
  let whole (e : Int) : Nat := let r := scaled num den e; r.1 / r.2
  let exact :=
    if whole guess < mantissaBound then guess
    else if whole (guess + 1) < mantissaBound then guess + 1
    else guess + 2
  max exact (-1074)

def ofRatio (negative : Bool) (num den : Nat) : Binary :=
  if num == 0 then finite negative 0 (-1074)
  else
    let e := exponentOf num den
    let r := scaled num den e
    let m := roundDiv r.1 r.2
    let (m, e) := if m == mantissaBound then (m / 2, e + 1) else (m, e)
    if 971 < e then infinite negative else finite negative m e

def ratio (mantissa : Nat) (exponent : Int) : Nat × Nat :=
  (mantissa * twoTo exponent.toNat, twoTo (-exponent).toNat)

def ofNat (n : Nat) : Binary := ofRatio false n 1

def powerOfTen (n : Nat) : Binary := ofNat (tenTo n)

/-- Products and quotients of values without sign; the cases that do not arise give no number. -/
def mul : Binary → Binary → Binary
  | finite _ m e, finite _ m' e' =>
    let a := ratio m e
    let b := ratio m' e'
    ofRatio false (a.1 * b.1) (a.2 * b.2)
  | _, _ => notANumber

def div : Binary → Binary → Binary
  | finite _ m e, finite _ m' e' =>
    let a := ratio m e
    let b := ratio m' e'
    if b.1 == 0 then notANumber else ofRatio false (a.1 * b.2) (a.2 * b.1)
  | _, _ => notANumber

def neg : Binary → Binary
  | finite negative m e => finite (!negative) m e
  | infinite negative => infinite (!negative)
  | notANumber => notANumber

/-- The value nearest to `digits * 10 ^ exponent`. Beyond four hundred places it is infinite or
zero, whatever the digits. -/
def ofDecimal (negative : Bool) (digits : Nat) (exponent : Int) : Binary :=
  let places : Int := (digits.log2 : Int) / 3 + 1
  if digits == 0 then finite negative 0 (-1074)
  else if 400 < exponent then infinite negative
  else if exponent + places < -400 then finite negative 0 (-1074)
  else ofRatio negative (digits * tenTo exponent.toNat) (tenTo (-exponent).toNat)

end Binary

end Scaffold
