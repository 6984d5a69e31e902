/-!
# Spans of code points

A set of code points is a list of spans. A span of step one is an interval; a span of step two
takes every second code point, which is how alternating case pairs are stored.
-/

namespace Scaffold.Text

structure Span where
  first : Nat
  last : Nat
  step : Nat
  deriving Repr, DecidableEq

namespace Span

def contains (s : Span) (n : Nat) : Bool :=
  s.first ≤ n && n ≤ s.last && (n - s.first) % s.step == 0

def interval (first last : Nat) : Span := ⟨first, last, 1⟩

theorem contains_interval_iff (first last n : Nat) :
    (interval first last).contains n = true ↔ first ≤ n ∧ n ≤ last := by
  unfold interval
  simp [contains, Nat.mod_one]

end Span

/-- Looks a code point up in spans sorted by their first members. -/
def inSpans (n : Nat) : List Span → Bool
  | [] => false
  | s :: rest => s.contains n || (s.first ≤ n && inSpans n rest)

end Scaffold.Text
