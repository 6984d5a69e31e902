import Scaffold.Pattern.CharSet

/-!
# Patterns

A pattern describes texts: one character of a set, sequences, ordered choices, repetitions,
numbered groups and conditions on the place between two characters. Of a choice the left branch
is preferred, and a greedy repetition prefers to go on.
-/

namespace Scaffold

inductive WordRule
  | unicode
  | ascii
  deriving Repr, DecidableEq

def WordRule.isWord : WordRule → Char → Bool
  | .unicode => Text.isWord
  | .ascii => Text.isAsciiWord

inductive Boundary
  | textStart
  | textEnd
  | lineStart
  | lineEnd
  /-- Line ends where a carriage return, a line feed or the pair of them ends a line. -/
  | returnLineStart
  | returnLineEnd
  | wordEdge (rule : WordRule)
  | noWordEdge (rule : WordRule)
  | wordStart (rule : WordRule)
  | wordEnd (rule : WordRule)
  | noWordBefore (rule : WordRule)
  | noWordAfter (rule : WordRule)
  deriving Repr, DecidableEq

namespace Boundary

def holds (before next : Option Char) : Boundary → Bool
  | textStart => before.isNone
  | textEnd => next.isNone
  | lineStart => before.isNone || before == some '\n'
  | lineEnd => next.isNone || next == some '\n'
  | returnLineStart =>
    before.isNone || before == some '\n' || (before == some '\r' && next != some '\n')
  | returnLineEnd =>
    next.isNone || next == some '\r' || (next == some '\n' && before != some '\r')
  | wordEdge rule => before.any rule.isWord != next.any rule.isWord
  | noWordEdge rule => before.any rule.isWord == next.any rule.isWord
  | wordStart rule => !before.any rule.isWord && next.any rule.isWord
  | wordEnd rule => before.any rule.isWord && !next.any rule.isWord
  | noWordBefore rule => !before.any rule.isWord
  | noWordAfter rule => !next.any rule.isWord

end Boundary

inductive Pattern
  | empty
  | one (set : CharSet)
  | seq (p q : Pattern)
  | either (p q : Pattern)
  /-- At least `least` times and, if a bound is given, at most `most` times. -/
  | repeated (p : Pattern) (least : Nat) (most : Option Nat) (greedy : Bool)
  | group (index : Nat) (p : Pattern)
  | boundary (b : Boundary)
  deriving Repr

namespace Pattern

def sequence : List Pattern → Pattern
  | [] => empty
  | [p] => p
  | p :: rest => seq p (sequence rest)

/-- The branches in order of preference. -/
def choice : List Pattern → Pattern
  | [] => one CharSet.empty
  | [p] => p
  | p :: rest => either p (choice rest)

def literal (text : String) : Pattern :=
  sequence (text.toList.map fun c => one (.single c))

def caselessLiteral (text : String) : Pattern :=
  sequence (text.toList.map fun c => one (.caseless (.single c)))

def optional (p : Pattern) : Pattern := repeated p 0 (some 1) true
def star (p : Pattern) : Pattern := repeated p 0 none true
def plus (p : Pattern) : Pattern := repeated p 1 none true
def lazyStar (p : Pattern) : Pattern := repeated p 0 none false
def lazyPlus (p : Pattern) : Pattern := repeated p 1 none false

/-- Any character but the line feed. -/
def dot : Pattern := one (.compl (.single '\n'))

def wordPlus : Pattern := plus (one .word)
def blankStar : Pattern := star (one .blank)
def blankPlus : Pattern := plus (one .blank)

/-- The largest group number of a pattern, zero if it has no group. -/
def lastGroup : Pattern → Nat
  | empty | one _ | boundary _ => 0
  | seq p q | either p q => max p.lastGroup q.lastGroup
  | repeated p _ _ _ => p.lastGroup
  | group i p => max i p.lastGroup

end Pattern

/-- How the texts of configured patterns are compiled. What a text compiles to is matched as every
pattern is; which texts compile, and to what, is left open. -/
class PatternReader where
  read? : String → Option Pattern

end Scaffold
