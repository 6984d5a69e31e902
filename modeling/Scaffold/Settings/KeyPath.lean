import Scaffold.Decimal.Word

/-!
# Key paths

The name of a setting at the top of a file may be a path: keys between dots, and indices in
brackets. A negative index counts from the end.
-/

namespace Scaffold.Settings

inductive Step
  | key (name : String)
  | index (n : Int)
  deriving Repr, DecidableEq

structure KeyPath where
  first : String
  steps : List Step
  deriving Repr, DecidableEq

namespace KeyPath

def isKeyChar (c : Char) : Bool := c.isAlphanum || c == '_' || c == '-'

def isBlank (c : Char) : Bool := c == ' ' || c == '\t'

def readKey (cs : List Char) : Option (String × List Char) :=
  let key := cs.takeWhile isKeyChar
  if key.isEmpty then none else some (String.ofList key, cs.drop key.length)

def number? (negative : Bool) (digits : List Char) : Option Int :=
  let n : Nat := digits.foldl (fun n c => 10 * n + (c.toNat - 48)) 0
  let value : Int := if negative then -n else n
  if !digits.isEmpty && fitsWord value then some value else none

def readIndex (cs : List Char) : Option (Int × List Char) := do
  let (negative, cs) :=
    match cs.dropWhile isBlank with
    | '-' :: rest => (true, rest)
    | rest => (false, rest)
  let digits := cs.takeWhile Char.isDigit
  let n ← number? negative digits
  match (cs.drop digits.length).dropWhile isBlank with
  | ']' :: rest => some (n, rest)
  | _ => none

def readSteps : (fuel : Nat) → List Char → Option (List Step)
  | _, [] => some []
  | 0, _ => none
  | fuel + 1, '.' :: rest => do
    let (key, rest) ← readKey rest
    let steps ← readSteps fuel rest
    some (.key key :: steps)
  | fuel + 1, '[' :: rest => do
    let (n, rest) ← readIndex rest
    let steps ← readSteps fuel rest
    some (.index n :: steps)
  | _, _ => none

def read? (text : String) : Option KeyPath := do
  let (first, rest) ← readKey text.toList
  let steps ← readSteps rest.length rest
  some ⟨first, steps⟩

/-- A name that is no path is a key as it is. -/
def ofName (text : String) : KeyPath := (read? text).getD ⟨text, []⟩

end KeyPath

end Scaffold.Settings
