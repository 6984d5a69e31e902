import Scaffold.Pattern.Basic

/-!
# Matching

A pattern is matched from a place in a text by trying its alternatives in order of preference
until what follows accepts. The first acceptance is the match; a search takes the leftmost place
that has one. An unbounded repetition never goes on after a round that took nothing, which also
bounds the rounds by the characters left.
-/

namespace Scaffold

/-- A place in a text: the character before it, the characters after it and their number. -/
structure Place where
  before : Option Char
  rest : List Char
  left : Nat
  deriving Repr, DecidableEq

namespace Place

def start (text : List Char) : Place := ⟨none, text, text.length⟩

def next? (place : Place) : Option (Char × Place) :=
  match place.rest with
  | [] => none
  | c :: rest => some (c, ⟨some c, rest, place.left - 1⟩)

def textUpTo (first last : Place) : List Char := first.rest.take (first.left - last.left)

end Place

/-- The texts of the groups passed so far, the latest first. -/
abbrev Groups := List (Nat × List Char)

/-- A way on from a place: the first result that the given continuation accepts. -/
abbrev Attempt (α : Type) := Place → Groups → (Place → Groups → Option α) → Option α

namespace Attempt

variable {α : Type}

def orElse (a b : Attempt α) : Attempt α := fun place groups accept =>
  match a place groups accept with
  | some result => some result
  | none => b place groups accept

def skip : Attempt α := fun place groups accept => accept place groups

def andThen (a b : Attempt α) : Attempt α := fun place groups accept =>
  a place groups fun place groups => b place groups accept

def prefer (greedy : Bool) (a : Attempt α) : Attempt α :=
  if greedy then orElse a skip else orElse skip a

def exactly (a : Attempt α) : Nat → Attempt α
  | 0 => skip
  | n + 1 => andThen a (exactly a n)

def atMost (a : Attempt α) (greedy : Bool) : Nat → Attempt α
  | 0 => skip
  | n + 1 => prefer greedy (andThen a (atMost a greedy n))

/-- Further rounds, each of which has to take a character. -/
def moreRounds (a : Attempt α) (greedy : Bool) : Nat → Attempt α
  | 0 => skip
  | n + 1 => prefer greedy fun place groups accept =>
    a place groups fun place' groups' =>
      if place'.left < place.left then moreRounds a greedy n place' groups' accept else none

/-- At least one round. A first round that takes nothing is also the last. -/
def rounds (a : Attempt α) (greedy : Bool) : Attempt α := fun place groups accept =>
  a place groups fun place' groups' =>
    if place'.left < place.left then moreRounds a greedy place'.left place' groups' accept
    else accept place' groups'

def repeated (a : Attempt α) (least : Nat) (most : Option Nat) (greedy : Bool) : Attempt α :=
  match most with
  | some most => andThen (exactly a least) (atMost a greedy (most - least))
  | none =>
    match least with
    | 0 => prefer greedy (rounds a greedy)
    | n + 1 => andThen (exactly a n) (rounds a greedy)

end Attempt

namespace Pattern

variable {α : Type}

def attempt : Pattern → Attempt α
  | empty => Attempt.skip
  | one set => fun place groups accept =>
    match place.next? with
    | some (c, place') => if set.contains c then accept place' groups else none
    | none => none
  | seq p q => p.attempt.andThen q.attempt
  | either p q => p.attempt.orElse q.attempt
  | repeated p least most greedy => p.attempt.repeated least most greedy
  | group i p => fun place groups accept =>
    p.attempt place groups fun place' groups' =>
      accept place' ((i, place.textUpTo place') :: groups')
  | boundary b => fun place groups accept =>
    if b.holds place.before place.rest.head? then accept place groups else none

structure Found where
  start : Place
  stop : Place
  groups : Groups
  deriving Repr

namespace Found

def isEmpty (found : Found) : Bool := found.start.left == found.stop.left

def text (found : Found) : List Char := found.start.textUpTo found.stop

def group? (found : Found) (i : Nat) : Option (List Char) := found.groups.lookup i

end Found

def matchAt? (p : Pattern) (place : Place) : Option Found :=
  p.attempt place [] fun stop groups => some ⟨place, stop, groups⟩

/-- The preferred match at the leftmost place, from the given one on, that has a match. -/
def search (p : Pattern) (before : Option Char) : (rest : List Char) → (left : Nat) → Option Found
  | [], left => p.matchAt? ⟨before, [], left⟩
  | c :: rest, left =>
    match p.matchAt? ⟨before, c :: rest, left⟩ with
    | some found => some found
    | none => search p (some c) rest (left - 1)

def searchFrom (p : Pattern) (place : Place) : Option Found :=
  p.search place.before place.rest place.left

def find? (p : Pattern) (text : List Char) : Option Found := p.searchFrom (.start text)

/-- The next match at or after a place. An empty match at the end of the match before it is
passed over. -/
def findNext? (p : Pattern) (place : Place) (lastStop : Option Nat) : Option Found :=
  match p.searchFrom place with
  | none => none
  | some found =>
    if found.isEmpty && lastStop == some found.stop.left then
      match found.start.next? with
      | some (_, place') => p.searchFrom place'
      | none => none
    else some found

def findFrom (p : Pattern) : (fuel : Nat) → Place → Option Nat → List Found
  | 0, _, _ => []
  | fuel + 1, place, lastStop =>
    match p.findNext? place lastStop with
    | none => []
    | some found => found :: p.findFrom fuel found.stop (some found.stop.left)

/-- All matches of a text in order, none overlapping the one before. A text of `n` characters
has at most `n + 1`. -/
def findAll (p : Pattern) (text : List Char) : List Found :=
  p.findFrom (text.length + 1) (.start text) none

end Pattern

end Scaffold
