import Scaffold.Toml.Scalar

/-!
# TOML documents

A document is read into a tree of tables. Each table is made once: by a header of its own, by the
headers of tables in it, or by keys with dots, and no other way may add to it afterwards.
-/

namespace Scaffold.Toml

inductive Value
  | scalar (s : Scalar)
  | string (s : String)
  | list (items : List Value)
  | table (entries : List (String × Value))

inductive Making
  /-- By the headers of tables in it. It may still get a header of its own. -/
  | implied
  | header
  | dotted
  deriving Repr, DecidableEq

inductive Tree
  /-- Complete, whether or not it is a table. -/
  | value (v : Value)
  | table (making : Making) (entries : List (String × Tree))
  /-- The tables under one repeated header. Headers and keys add to the last of them. -/
  | tables (elements : List (List (String × Tree)))

abbrev Entries := List (String × Tree)

namespace Entries

def alter (key : String) (change : Option Tree → Option Tree) : Entries → Option Entries
  | [] => (change none).map fun tree => [(key, tree)]
  | (k, tree) :: rest =>
    if k == key then (change (some tree)).map fun tree => (k, tree) :: rest
    else (alter key change rest).map ((k, tree) :: ·)

def changeLast (change : Entries → Option Entries) : List Entries → Option (List Entries)
  | [] => none
  | [last] => (change last).map ([·])
  | element :: rest => (changeLast change rest).map (element :: ·)

def under : List String → (Entries → Option Entries) → Entries → Option Entries
  | [], change, entries => change entries
  | key :: path, change, entries =>
    entries.alter key fun
      | none => (under path change []).map (.table .implied)
      | some (.table making inner) => (under path change inner).map (.table making)
      | some (.tables elements) => (changeLast (under path change) elements).map .tables
      | some (.value _) => none

/-- Makes the table of a header, which was at most implied so far. -/
def makeTable (path : List String) (key : String) : Entries → Option Entries :=
  under path fun entries =>
    entries.alter key fun
      | none => some (.table .header [])
      | some (.table .implied inner) => some (.table .header inner)
      | some _ => none

def addTable (path : List String) (key : String) : Entries → Option Entries :=
  under path fun entries =>
    entries.alter key fun
      | none => some (.tables [[]])
      | some (.tables elements) => some (.tables (elements ++ [[]]))
      | some _ => none

/-- Adds a value under a key with dots. The last table on the way was made by dots as well, and
none by a header. -/
def addValue (key : String) (v : Value) : List String → Entries → Option Entries
  | [], entries =>
    entries.alter key fun
      | none => some (.value v)
      | some _ => none
  | step :: path, entries =>
    entries.alter step fun
      | none => (addValue key v path []).map (.table .dotted)
      | some (.table making inner) =>
        if making == .header || (path.isEmpty && making != .dotted) then none
        else (addValue key v path inner).map (.table making)
      | some (.tables elements) =>
        if path.isEmpty then none else (changeLast (addValue key v path) elements).map .tables
      | some (.value _) => none

end Entries

mutual

def Tree.finish : Tree → Value
  | .value v => v
  | .table _ entries => .table (finishEntries entries)
  | .tables elements => .list (finishElements elements)

def finishEntries : List (String × Tree) → List (String × Value)
  | [] => []
  | (key, tree) :: rest => (key, tree.finish) :: finishEntries rest

def finishElements : List (List (String × Tree)) → List Value
  | [] => []
  | entries :: rest => .table (finishEntries entries) :: finishElements rest

end

def splitLast : List String → Option (List String × String)
  | [] => none
  | [key] => some ([], key)
  | key :: rest => (splitLast rest).map fun (path, last) => (key :: path, last)

/-- As many lists and tables may be open at once. -/
def depthLimit : Nat := 80

mutual

def readValue : (fuel depth : Nat) → Reader Value
  | 0, _, _ => none
  | fuel + 1, depth, cs =>
    match cs with
    | '"' :: _ => (readString cs).map fun (s, rest) => (.string s, rest)
    | '\'' :: _ => (readString cs).map fun (s, rest) => (.string s, rest)
    | '[' :: rest =>
      if depth == 0 then none
      else (readItems fuel (depth - 1) rest).map fun (items, rest) => (.list items, rest)
    | '\x7b' :: rest =>
      if depth == 0 then none
      else (readMembers fuel (depth - 1) [] rest).map fun (entries, rest) =>
        (.table (finishEntries entries), rest)
    | cs => (readScalar cs).map fun (s, rest) => (.scalar s, rest)

/-- The items of a list and its closing bracket. A comma may follow the last item. -/
def readItems : (fuel depth : Nat) → Reader (List Value)
  | 0, _, _ => none
  | fuel + 1, depth, cs =>
    match skipLines false cs with
    | ']' :: rest => some ([], rest)
    | cs => do
      let (item, rest) ← readValue fuel depth cs
      match skipLines false rest with
      | ',' :: rest =>
        let (items, rest) ← readItems fuel depth rest
        some (item :: items, rest)
      | ']' :: rest => some ([item], rest)
      | _ => none

def readMembers : (fuel depth : Nat) → Entries → Reader Entries
  | 0, _, _, _ => none
  | fuel + 1, depth, entries, cs =>
    match skipLines false cs with
    | '\x7d' :: rest => some (entries, rest)
    | cs => do
      let (path, rest) ← readKey cs
      let rest ← expect '=' rest
      let (v, rest) ← readValue fuel depth (skipBlanks rest)
      let (path, key) ← splitLast path
      let entries ← entries.addValue key v path
      match skipLines false rest with
      | ',' :: rest => readMembers fuel depth entries rest
      | '\x7d' :: rest => some (entries, rest)
      | _ => none

end

def readHeader (closing : List Char) : Reader (List String × String) := fun cs => do
  let (path, rest) ← readKey cs
  let path ← splitLast path
  if closing.isPrefixOf rest then some (path, rest.drop closing.length) else none

/-- The lines of a document, with the table to which keys are added. -/
def readLines : (fuel : Nat) → (current : List String) → Entries → List Char → Option Entries
  | 0, _, _, _ => none
  | fuel + 1, current, entries, cs =>
    match skipLines false cs with
    | [] => some entries
    | '[' :: '[' :: rest => do
      let ((path, key), rest) ← readHeader [']', ']'] rest
      let entries ← entries.addTable path key
      let rest ← endLine rest
      readLines fuel (path ++ [key]) entries rest
    | '[' :: rest => do
      let ((path, key), rest) ← readHeader [']'] rest
      let entries ← entries.makeTable path key
      let rest ← endLine rest
      readLines fuel (path ++ [key]) entries rest
    | cs => do
      let (path, rest) ← readKey cs
      let rest ← expect '=' rest
      let (v, rest) ← readValue (2 * rest.length + 2) depthLimit (skipBlanks rest)
      let (path, key) ← splitLast path
      let entries ← entries.under current (Entries.addValue key v path)
      let rest ← endLine rest
      readLines fuel current entries rest

/-- A mark of the byte order may stand in front of everything. -/
def dropByteOrderMark : List Char → List Char
  | c :: rest => if c.toNat == 0xFEFF then rest else c :: rest
  | [] => []

def readDocument (text : List Char) : Option (List (String × Value)) :=
  let text := dropByteOrderMark text
  (readLines (text.length + 1) [] [] text).map finishEntries

end Scaffold.Toml
