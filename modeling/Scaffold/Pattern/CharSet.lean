import Scaffold.Text.Blank
import Scaffold.Text.CaseFold
import Scaffold.Text.Word

/-!
# Sets of characters

A set is an expression over spans, general categories and the word, digit and blank characters.
Membership is read off the expression, so no set is ever written out.
-/

namespace Scaffold

open Text

inductive CharSet
  | any
  | spans (members : List Span)
  | categories (members : List Category)
  | word
  | digit
  | blank
  | union (a b : CharSet)
  | inter (a b : CharSet)
  | minus (a b : CharSet)
  | compl (a : CharSet)
  /-- The characters that differ only in case from a member. -/
  | caseless (a : CharSet)
  /-- The same, for the case of ASCII letters alone. -/
  | asciiCaseless (a : CharSet)
  deriving Repr

namespace CharSet

def contains : CharSet → Char → Bool
  | any, _ => true
  | spans members, c => members.any (·.contains c.toNat)
  | categories members, c => Category.anyContains members c
  | word, c => isWord c
  | digit, c => isDigit c
  | blank, c => isBlank c
  | union a b, c => a.contains c || b.contains c
  | inter a b, c => a.contains c && b.contains c
  | minus a b, c => a.contains c && !b.contains c
  | compl a, c => !a.contains c
  | caseless a, c => (caseVariants c).any a.contains
  | asciiCaseless a, c => a.contains c || a.contains c.toLower || a.contains c.toUpper

def empty : CharSet := spans []

def single (c : Char) : CharSet := spans [.interval c.toNat c.toNat]

def oneOf (cs : List Char) : CharSet := spans (cs.map fun c => .interval c.toNat c.toNat)

def range (first last : Char) : CharSet := spans [.interval first.toNat last.toNat]

def symmDiff (a b : CharSet) : CharSet := union (minus a b) (minus b a)

theorem contains_single_iff (a c : Char) : (single a).contains c = true ↔ c = a := by
  simp only [single, contains, List.any_cons, List.any_nil, Bool.or_false,
    Span.contains_interval_iff]
  constructor
  · rintro ⟨h, h'⟩
    exact Char.toNat_inj.mp (Nat.le_antisymm h' h)
  · rintro rfl
    exact ⟨Nat.le_refl _, Nat.le_refl _⟩

theorem contains_oneOf_iff (cs : List Char) (c : Char) : (oneOf cs).contains c = true ↔ c ∈ cs := by
  simp only [oneOf, contains, List.any_map, List.any_eq_true, Function.comp,
    Span.contains_interval_iff]
  constructor
  · rintro ⟨a, ha, h, h'⟩
    exact Char.toNat_inj.mp (Nat.le_antisymm h' h) ▸ ha
  · intro h
    exact ⟨c, h, Nat.le_refl _, Nat.le_refl _⟩

theorem contains_range_iff (a b c : Char) :
    (range a b).contains c = true ↔ a.toNat ≤ c.toNat ∧ c.toNat ≤ b.toNat := by
  simp only [range, contains, List.any_cons, List.any_nil, Bool.or_false,
    Span.contains_interval_iff]

theorem contains_symmDiff (a b : CharSet) (c : Char) :
    (symmDiff a b).contains c = xor (a.contains c) (b.contains c) := by
  simp only [symmDiff, contains]
  cases a.contains c <;> cases b.contains c <;> rfl

/-- A set without case variants gains none and loses none. -/
theorem contains_caseless_of_mem {a : CharSet} {c : Char} (h : a.contains c = true) :
    (caseless a).contains c = true :=
  List.any_eq_true.mpr ⟨c, mem_caseVariants_self c, h⟩

end CharSet

end Scaffold
