import Scaffold.Decimal.Binary

/-!
# Shortest decimals

The fewest decimal digits that read back as a given binary value, and of those the nearest. Each
count of digits is tried on its grid of decimals: only the two neighbours of the value on the
grid can be nearest, so testing both of them suffices.
-/

namespace Scaffold

structure Decimal where
  digits : Nat
  exponent : Int
  deriving Repr, DecidableEq

namespace Decimal

open Binary

/-- Compares `a * 10 ^ i` with `n * 2 ^ j`. -/
def compareScaled (a : Nat) (i : Int) (n : Nat) (j : Int) : Ordering :=
  compare (a * tenTo i.toNat * twoTo (-j).toNat) (n * twoTo j.toNat * tenTo (-i).toNat)

/-- Whether the decimal lies among the reals that round to the binary value. -/
def readsBack (m : Nat) (e : Int) (d : Decimal) : Bool :=
  let narrowBelow := 2 * m == mantissaBound && -1074 < e
  let low := if narrowBelow then 4 * m - 1 else 4 * m - 2
  let inclusive := m % 2 == 0
  let atLow := compareScaled d.digits d.exponent low (e - 2)
  let atHigh := compareScaled d.digits d.exponent (4 * m + 2) (e - 2)
  (atLow == .gt || (inclusive && atLow == .eq)) && (atHigh == .lt || (inclusive && atHigh == .eq))

/-- The least `k` with a value below `10 ^ k`, from an estimate that is at most two too small. -/
def scale (m : Nat) (e : Int) : Int :=
  let bits : Int := (m.log2 : Int) + e
  let guess := bits * 30103 / 100000
  let below (k : Int) : Bool := compareScaled 1 k m e == .gt
  if below guess then guess else if below (guess + 1) then guess + 1
  else if below (guess + 2) then guess + 2 else guess + 3

/-- The nearest decimal with `count` digits that reads back. A tie goes up or to the even one. -/
def onGrid? (tieUp : Bool) (m : Nat) (e k : Int) (count : Nat) : Option Decimal :=
  let i := k - count
  let num := m * twoTo e.toNat * tenTo (-i).toNat
  let den := twoTo (-e).toNat * tenTo i.toNat
  let d := num / den
  let down : Decimal := ⟨d, i⟩
  let up : Decimal := ⟨d + 1, i⟩
  let twice := 2 * (num % den)
  let preferUp := den < twice || (twice == den && (tieUp || d % 2 == 1))
  match readsBack m e down, readsBack m e up with
  | true, true => some (if preferUp then up else down)
  | true, false => some down
  | false, true => some up
  | false, false => none

def strip : (fuel : Nat) → Decimal → Decimal
  | 0, d => d
  | fuel + 1, d =>
    if d.digits != 0 && d.digits % 10 == 0 then strip fuel ⟨d.digits / 10, d.exponent + 1⟩ else d

/-- The shortest decimal of a value other than zero. Seventeen digits always suffice; the exact
value stands behind the search. -/
def shortest (tieUp : Bool) (m : Nat) (e : Int) : Decimal :=
  let k := scale m e
  let exact : Decimal :=
    if 0 ≤ e then ⟨m * twoTo e.toNat, 0⟩ else ⟨m * Nat.pow 5 (-e).toNat, e⟩
  let found := (List.range 17).findSome? fun n => onGrid? tieUp m e k (n + 1)
  strip 400 (found.getD exact)

end Decimal

end Scaffold
