import Scaffold.Json.Lexeme

/-!
# Free JSON values

Any JSON text as a value. Lists and objects nest to a limited depth, numbers stay in the range of
binary floating point, and of several members with the same key the last one counts.
-/

namespace Scaffold.Json

inductive Value
  | null
  | bool (b : Bool)
  | number (n : Number)
  | string (s : String)
  | list (items : List Value)
  | object (members : List (String × Value))

/-- Sets the value of a key, in the place of an older one if there is one. -/
def setMember (key : String) (v : Value) : List (String × Value) → List (String × Value)
  | [] => [(key, v)]
  | (k, old) :: rest => if k == key then (k, v) :: rest else (k, old) :: setMember key v rest

/-- One less than this many lists and objects may be open at once. -/
def depthLimit : Nat := 128

def wordValue (text : String) (v : Value) (cs : List Char) : Option (Value × List Char) :=
  match readWord text.toList cs with
  | .ok (_, rest) => some (v, rest)
  | .error _ => none

def numberValue (negative : Bool) (cs : List Char) : Option (Value × List Char) :=
  match readNumber negative cs with
  | .ok (n, rest) => some (.number n, rest)
  | .error _ => none

def readKey? (cs : List Char) : Option (String × List Char) :=
  match cs with
  | '"' :: rest =>
    match readString rest with
    | .ok (key, rest) =>
      match skipBlanks rest with
      | ':' :: rest => some (key, rest)
      | _ => none
    | .error _ => none
  | _ => none

mutual

def readValue : (fuel depth : Nat) → List Char → Option (Value × List Char)
  | 0, _, _ => none
  | fuel + 1, depth, cs =>
    match skipBlanks cs with
    | [] => none
    | 'n' :: rest => wordValue "ull" .null rest
    | 't' :: rest => wordValue "rue" (.bool true) rest
    | 'f' :: rest => wordValue "alse" (.bool false) rest
    | '-' :: rest => numberValue true rest
    | '"' :: rest =>
      match readString rest with
      | .ok (s, rest) => some (.string s, rest)
      | .error _ => none
    | '[' :: rest =>
      if depth ≤ 1 then none
      else
        match skipBlanks rest with
        | ']' :: rest => some (.list [], rest)
        | rest => (readValues fuel (depth - 1) rest).map fun (items, rest) => (.list items, rest)
    | '\x7b' :: rest =>
      if depth ≤ 1 then none
      else
        match skipBlanks rest with
        | '\x7d' :: rest => some (.object [], rest)
        | rest =>
          (readObject fuel (depth - 1) [] rest).map fun (members, rest) => (.object members, rest)
    | c :: rest => if c.isDigit then numberValue false (c :: rest) else none

def readValues : (fuel depth : Nat) → List Char → Option (List Value × List Char)
  | 0, _, _ => none
  | fuel + 1, depth, cs => do
    let (v, rest) ← readValue fuel depth cs
    match skipBlanks rest with
    | ',' :: rest =>
      let (others, rest) ← readValues fuel depth rest
      some (v :: others, rest)
    | ']' :: rest => some ([v], rest)
    | _ => none

def readObject : (fuel depth : Nat) → List (String × Value) → List Char →
    Option (List (String × Value) × List Char)
  | 0, _, _, _ => none
  | fuel + 1, depth, members, cs => do
    let (key, rest) ← readKey? (skipBlanks cs)
    let (v, rest) ← readValue fuel depth rest
    let members := setMember key v members
    match skipBlanks rest with
    | ',' :: rest => readObject fuel depth members rest
    | '\x7d' :: rest => some (members, rest)
    | _ => none

end
namespace Value

def ofText? (text : List Char) : Option Value :=
  match readValue (2 * text.length + 2) depthLimit text with
  | some (v, rest) => if (skipBlanks rest).isEmpty then some v else none
  | none => none

def member? (v : Value) (key : String) : Option Value :=
  match v with
  | object members => members.lookup key
  | _ => none

end Value

end Scaffold.Json
