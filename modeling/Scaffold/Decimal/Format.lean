import Scaffold.Decimal.Shortest

/-!
# Number texts

How a binary value is written: its shortest decimal, laid out with the point in place or with an
exponent.
-/

namespace Scaffold

structure NumberFormat where
  /-- The powers of the leading digit that are written with the point in place, if not all. -/
  positional : Option (Int × Int)
  /-- Whole numbers end in a point and a zero. -/
  pointZero : Bool
  /-- Of two equally near decimals the larger is written, not the even one. -/
  tieUp : Bool

namespace NumberFormat

/-- The value of a setting: always in place, whole numbers without a point. -/
def setting : NumberFormat := ⟨none, false, true⟩

def quotedSetting : NumberFormat := ⟨none, true, true⟩

def quotedResult : NumberFormat := ⟨some (-5, 15), true, false⟩

def zeros (n : Nat) : List Char := List.replicate n '0'

def layOut (pointZero : Bool) (digits : List Char) (exponent : Int) : List Char :=
  let point : Int := digits.length + exponent
  if 0 ≤ exponent then
    digits ++ zeros exponent.toNat ++ (if pointZero then ['.', '0'] else [])
  else if 0 < point then digits.take point.toNat ++ ['.'] ++ digits.drop point.toNat
  else ['0', '.'] ++ zeros (-point).toNat ++ digits

def layOutScientific (digits : List Char) (power : Int) : List Char :=
  let front := digits.take 1
  let back := digits.drop 1
  front ++ (if back.isEmpty then [] else '.' :: back) ++ ['e'] ++ (toString power).toList

def magnitude (format : NumberFormat) (m : Nat) (e : Int) : List Char :=
  if m == 0 then layOut format.pointZero ['0'] 0
  else
    let d := Decimal.shortest format.tieUp m e
    let digits := Nat.toDigits 10 d.digits
    let power : Int := digits.length + d.exponent - 1
    match format.positional with
    | some (low, high) =>
      if low ≤ power && power ≤ high then layOut format.pointZero digits d.exponent
      else layOutScientific digits power
    | none => layOut format.pointZero digits d.exponent

def write (format : NumberFormat) : Binary → String
  | .finite negative m e =>
    String.ofList ((if negative then ['-'] else []) ++ format.magnitude m e)
  | .infinite negative => if negative then "-inf" else "inf"
  | .notANumber => "NaN"

end NumberFormat

end Scaffold
