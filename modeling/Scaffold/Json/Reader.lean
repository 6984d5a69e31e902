import Scaffold.Json.Lexeme

/-!
# Reading JSON of a known shape

Readers for texts, lists, maps and records. A record is read from an object, whose unknown
members are passed over, or from a list of its fields in order. The first thing in the text that
does not fit is the failure.
-/

namespace Scaffold.Json

/-! ## Passing over a value -/

mutual

def skipValue : (fuel : Nat) → List Char → Except Failure (List Char)
  | 0, cs => .error (.next .endInValue cs)
  | fuel + 1, cs =>
    match skipBlanks cs with
    | [] => .error (.next .endInValue [])
    | 'n' :: rest => (readWord "ull".toList rest).map (·.2)
    | 't' :: rest => (readWord "rue".toList rest).map (·.2)
    | 'f' :: rest => (readWord "alse".toList rest).map (·.2)
    | '-' :: rest => skipNumber rest
    | '"' :: rest => skipString rest
    | '[' :: rest =>
      match skipBlanks rest with
      | ']' :: rest => .ok rest
      | [] => .error (.next .endInList [])
      | rest => skipItems fuel rest
    | '\x7b' :: rest =>
      match skipBlanks rest with
      | '\x7d' :: rest => .ok rest
      | rest => skipMembers fuel rest
    | c :: rest => if c.isDigit then skipNumber (c :: rest) else .error (.next .valueExpected (c :: rest))

def skipItems : (fuel : Nat) → List Char → Except Failure (List Char)
  | 0, cs => .error (.next .endInValue cs)
  | fuel + 1, cs => do
    let rest ← skipValue fuel cs
    match skipBlanks rest with
    | ',' :: rest => skipItems fuel rest
    | ']' :: rest => .ok rest
    | [] => .error (.next .endInList [])
    | rest => .error (.next .listCommaExpected rest)

def skipMembers : (fuel : Nat) → List Char → Except Failure (List Char)
  | 0, cs => .error (.next .endInValue cs)
  | fuel + 1, cs => do
    match skipBlanks cs with
    | '"' :: rest =>
      let rest ← skipString rest
      match skipBlanks rest with
      | ':' :: rest =>
        let rest ← skipValue fuel rest
        match skipBlanks rest with
        | ',' :: rest => skipMembers fuel rest
        | '\x7d' :: rest => .ok rest
        | [] => .error (.next .endInObject [])
        | rest => .error (.next .objectCommaExpected rest)
      | [] => .error (.next .endInObject [])
      | rest => .error (.next .colonExpected rest)
    | [] => .error (.next .endInObject [])
    | rest => .error (.next .keyExpected rest)

end

/-- Enough rounds for every value in the text: each takes a character. -/
def skip : Reader Unit := fun cs => (skipValue (2 * cs.length + 2) cs).map fun rest => ((), rest)

/-! ## Values of the wrong type -/

/-- The failure for a value that is not what was expected. A value that can be read is named; a
list or an object is not entered. -/
def unexpected {α : Type} (expected : String) (cs : List Char) : Except Failure α :=
  match cs with
  | 'n' :: rest => do
    let (_, rest) ← readWord "ull".toList rest
    .error (.here (.invalidType .null expected) rest)
  | 't' :: rest => do
    let (_, rest) ← readWord "rue".toList rest
    .error (.here (.invalidType (.bool true) expected) rest)
  | 'f' :: rest => do
    let (_, rest) ← readWord "alse".toList rest
    .error (.here (.invalidType (.bool false) expected) rest)
  | '-' :: rest => do
    let (n, rest) ← readNumber true rest
    .error (.here (.invalidType (ofNumber n) expected) rest)
  | '"' :: rest => do
    let (s, rest) ← readString rest
    .error (.here (.invalidType (.string s) expected) rest)
  | '[' :: rest => .error (.here (.invalidType .sequence expected) ('[' :: rest))
  | '\x7b' :: rest => .error (.here (.invalidType .map expected) ('\x7b' :: rest))
  | [] => .error (.next .endInValue [])
  | c :: rest =>
    if c.isDigit then do
      let (n, rest) ← readNumber false (c :: rest)
      .error (.here (.invalidType (ofNumber n) expected) rest)
    else .error (.next .valueExpected (c :: rest))
where
  ofNumber : Number → Unexpected
    | .int n => .integer n
    | .float x => .float x

/-! ## Texts, lists and maps -/

def readTextAs (expected : String) : Reader String := fun cs =>
  match skipBlanks cs with
  | '"' :: rest => readString rest
  | rest => unexpected expected rest

def readText : Reader String := readTextAs "a string"

def readNullAs (expected : String) : Reader Unit := fun cs =>
  match skipBlanks cs with
  | 'n' :: rest => readWord "ull".toList rest
  | rest => unexpected expected rest

def readColon : Reader Unit := fun cs =>
  match skipBlanks cs with
  | ':' :: rest => .ok ((), rest)
  | [] => .error (.next .endInObject [])
  | rest => .error (.next .colonExpected rest)

def nextItem (first : Bool) : Reader Bool := fun cs =>
  match skipBlanks cs with
  | [] => .error (.next .endInList [])
  | ']' :: rest => .ok (false, ']' :: rest)
  | ',' :: rest =>
    if first then .ok (true, ',' :: rest)
    else
      match skipBlanks rest with
      | ']' :: rest => .error (.next .trailingComma (']' :: rest))
      | [] => .error (.next .endInValue [])
      | rest => .ok (true, rest)
  | rest => if first then .ok (true, rest) else .error (.next .listCommaExpected rest)

def nextMember (first : Bool) : Reader Bool := fun cs =>
  match skipBlanks cs with
  | [] => .error (.next .endInObject [])
  | '\x7d' :: rest => .ok (false, '\x7d' :: rest)
  | '"' :: rest => if first then .ok (true, rest) else .error (.next .objectCommaExpected ('"' :: rest))
  | ',' :: rest =>
    if first then .error (.next .keyExpected (',' :: rest))
    else
      match skipBlanks rest with
      | '"' :: rest => .ok (true, rest)
      | '\x7d' :: rest => .error (.next .trailingComma ('\x7d' :: rest))
      | [] => .error (.next .endInValue [])
      | rest => .error (.next .keyExpected rest)
  | rest =>
    if first then .error (.next .keyExpected rest) else .error (.next .objectCommaExpected rest)

def endList : Reader Unit := fun cs =>
  match skipBlanks cs with
  | ']' :: rest => .ok ((), rest)
  | ',' :: rest =>
    match skipBlanks rest with
    | ']' :: rest => .error (.next .trailingComma (']' :: rest))
    | rest => .error (.next .trailingText rest)
  | [] => .error (.next .endInList [])
  | rest => .error (.next .trailingText rest)

/-- Where the reader stands after the object was left, whether or not it ends there. -/
def leaveObject (cs : List Char) : List Char :=
  match skipBlanks cs with
  | '\x7d' :: rest => rest
  | rest => rest

def leaveList (cs : List Char) : List Char :=
  match skipBlanks cs with
  | ']' :: rest => rest
  | rest => rest

def readItems {α : Type} (item : Reader α) : (fuel : Nat) → (first : Bool) → Reader (List α)
  | 0, _, cs => .error (.next .endInList cs)
  | fuel + 1, first, cs => do
    let (more, rest) ← nextItem first cs
    if more then
      let (a, rest) ← item rest
      let (others, rest) ← readItems item fuel false rest
      .ok (a :: others, rest)
    else .ok ([], rest)

def readList {α : Type} (item : Reader α) : Reader (List α) := fun cs =>
  match skipBlanks cs with
  | '[' :: rest => do
    let (items, rest) ← readItems item (rest.length + 1) true rest
    let (_, rest) ← endList rest
    .ok (items, rest)
  | rest => unexpected "a sequence" rest

def readEntries {α : Type} (value : Reader α) :
    (fuel : Nat) → (first : Bool) → Reader (List (String × α))
  | 0, _, cs => .error (.next .endInObject cs)
  | fuel + 1, first, cs => do
    let (more, rest) ← nextMember first cs
    if more then
      let (key, rest) ← readString rest
      let (_, rest) ← readColon rest
      let (v, rest) ← value rest
      let (others, rest) ← readEntries value fuel false rest
      .ok ((key, v) :: others, rest)
    else .ok ([], leaveObject rest)

/-- The members of an object in order, repeated keys included. -/
def readMap {α : Type} (value : Reader α) : Reader (List (String × α)) := fun cs =>
  match skipBlanks cs with
  | '\x7b' :: rest => readEntries value (rest.length + 1) true rest
  | rest => unexpected "a map" rest

/-! ## Records -/

structure Field (σ : Type) where
  name : String
  required : Bool
  isSet : σ → Bool
  read : σ → Reader σ

/-- How a record is read: its name, its fields in order, an empty record and the finished one,
which fails with the name of a missing field. -/
structure RecordShape (σ α : Type) where
  name : String
  fields : List (Field σ)
  blank : σ
  finish : σ → Except String α

namespace RecordShape

variable {σ α : Type}

def expected (shape : RecordShape σ α) : String := "struct " ++ shape.name

def readMembers (shape : RecordShape σ α) : (fuel : Nat) → (first : Bool) → σ → Reader σ
  | 0, _, _, cs => .error (.next .endInObject cs)
  | fuel + 1, first, part, cs => do
    let (more, rest) ← nextMember first cs
    if !more then .ok (part, rest)
    else
      let (key, rest) ← readString rest
      match shape.fields.find? (·.name == key) with
      | some field =>
        if field.isSet part then .error (.here (.duplicateField key) (leaveObject rest))
        else
          let (_, rest) ← readColon rest
          let (part, rest) ← field.read part rest
          shape.readMembers fuel false part rest
      | none =>
        let (_, rest) ← readColon rest
        let (_, rest) ← skip rest
        shape.readMembers fuel false part rest

/-- The items of a list, one for each field in order. Fields with a default may be left out. -/
def readFields (shape : RecordShape σ α) : (count : Nat) → List (Field σ) → (first : Bool) → σ →
    Reader σ
  | _, [], _, part, cs => .ok (part, cs)
  | count, field :: fields, first, part, cs => do
    let (more, rest) ← nextItem first cs
    if more then
      let (part, rest) ← field.read part rest
      shape.readFields (count + 1) fields false part rest
    else if field.required then
      let expected := shape.expected ++ " with " ++ toString shape.fields.length ++ " elements"
      .error (.here (.invalidLength count expected) (leaveList rest))
    else shape.readFields (count + 1) fields first part rest

def read (shape : RecordShape σ α) : Reader α := fun cs =>
  match skipBlanks cs with
  | '\x7b' :: rest => do
    let (part, rest) ← shape.readMembers (rest.length + 1) true shape.blank rest
    let rest := leaveObject rest
    match shape.finish part with
    | .ok a => .ok (a, rest)
    | .error name => .error (.here (.missingField name) rest)
  | '[' :: rest => do
    let (part, rest) ← shape.readFields 0 shape.fields true shape.blank rest
    let (_, rest) ← endList rest
    match shape.finish part with
    | .ok a => .ok (a, rest)
    | .error name => .error (.here (.missingField name) rest)
  | rest => unexpected shape.expected rest

end RecordShape

/-! ## Names out of a list -/

/-- A name out of a fixed list, alone or as the only key of an object with the value null. -/
def readName {α : Type} (names : List (String × α)) : Reader α := fun cs =>
  match skipBlanks cs with
  | '\x7b' :: rest => do
    let (a, rest) ← known rest
    let (_, rest) ← readColon rest
    let (_, rest) ← readNullAs "unit" rest
    match skipBlanks rest with
    | '\x7d' :: rest => .ok (a, rest)
    | [] => .error (.here .endInObject [])
    | rest => .error (.here .valueExpected rest)
  | '"' :: rest => known ('"' :: rest)
  | [] => .error (.next .endInValue [])
  | rest => .error (.next .valueExpected rest)
where
  known (cs : List Char) : Except Failure (α × List Char) := do
    let (name, rest) ← readTextAs "variant identifier" cs
    match names.lookup name with
    | some a => .ok (a, rest)
    | none => .error (.here (.unknownVariant name (names.map (·.1))) rest)

def readWhole {α : Type} (reader : Reader α) (text : List Char) : Except Failure α := do
  let (a, rest) ← reader text
  match skipBlanks rest with
  | [] => .ok a
  | rest => .error (.next .trailingText rest)

end Scaffold.Json
