import Scaffold.Json.Value
import Scaffold.Settings.KeyPath
import Scaffold.Toml.Document

/-!
# Settings

The values of a settings file, whatever its format. Where a value comes from is known as long as
it stands as it was read; a table that was put together from its entries comes from nowhere.
-/

namespace Scaffold

inductive Setting
  | nothing (located : Bool)
  | bool (b : Bool)
  | integer (n : Int)
  | float (x : Binary)
  | text (s : String)
  | list (located : Bool) (items : List Setting)
  | table (located : Bool) (entries : List (String × Setting))

namespace Setting

/-- Whether it is known that the value comes from the file. -/
def isLocated : Setting → Bool
  | nothing located => located
  | list located _ => located
  | table located _ => located
  | _ => true

/-! ## From the formats -/

def ofScalar : Toml.Scalar → Setting
  | .bool b => bool b
  | .integer n => integer n
  | .float x => float x
  | .time s => text s

mutual

def ofToml : Toml.Value → Setting
  | .scalar s => ofScalar s
  | .string s => text s
  | .list items => list true (ofTomlItems items)
  | .table entries => table true (ofTomlEntries entries)

def ofTomlItems : List Toml.Value → List Setting
  | [] => []
  | v :: rest => ofToml v :: ofTomlItems rest

def ofTomlEntries : List (String × Toml.Value) → List (String × Setting)
  | [] => []
  | (key, v) :: rest => (key, ofToml v) :: ofTomlEntries rest

end

/-- Whole numbers beyond 64 bits with a sign are kept as floating point. -/
def ofNumber : Json.Number → Setting
  | .int n =>
    if fitsWord n then integer n
    else float (Binary.ofDecimal (decide (n < 0)) n.natAbs 0)
  | .float x => float x

mutual

def ofJson : Json.Value → Setting
  | .null => nothing true
  | .bool b => bool b
  | .number n => ofNumber n
  | .string s => text s
  | .list items => list true (ofJsonItems items)
  | .object members => table true (ofJsonMembers members)

def ofJsonItems : List Json.Value → List Setting
  | [] => []
  | v :: rest => ofJson v :: ofJsonItems rest

def ofJsonMembers : List (String × Json.Value) → List (String × Setting)
  | [] => []
  | (key, v) :: rest => (key, ofJson v) :: ofJsonMembers rest

end

/-! ## Putting settings together -/

def asTable : Setting → Bool × List (String × Setting)
  | table located entries => (located, entries)
  | _ => (false, [])

def asList : Setting → Bool × List Setting
  | list located items => (located, items)
  | _ => (false, [])

def alter (key : String) (change : Setting → Setting) :
    List (String × Setting) → List (String × Setting)
  | [] => [(key, change (nothing false))]
  | (k, v) :: rest => if k == key then (k, change v) :: rest else (k, v) :: alter key change rest

mutual

/-- Puts a value in the place of an older one. Tables are put together entry by entry. -/
def merge (new old : Setting) : Setting :=
  match new with
  | table _ entries => let base := old.asTable; table base.1 (mergeEntries entries base.2)
  | new => new

def mergeEntries (new old : List (String × Setting)) : List (String × Setting) :=
  match new with
  | [] => old
  | (key, v) :: rest => mergeEntries rest (alter key (merge v) old)

end

/-- Changes the item at an index. The list is filled up before it or behind it as needed. -/
def alterAt (n : Int) (change : Setting → Setting) (items : List Setting) : List Setting :=
  let position := if n < 0 then n + items.length else n
  let items := List.replicate (-position).toNat (nothing false) ++ items
  let items := items ++ List.replicate (position.toNat + 1 - items.length) (nothing false)
  items.modify position.toNat change

/-- Changes the value behind some steps. What is in the way gives way. -/
def alterBelow : List Settings.Step → (Setting → Setting) → Setting → Setting
  | [], change, v => change v
  | .key name :: steps, change, v =>
    let base := v.asTable
    table base.1 (alter name (alterBelow steps change) base.2)
  | .index n :: steps, change, v =>
    let base := v.asList
    list base.1 (alterAt n (alterBelow steps change) base.2)

/-- The settings of a file from its entries, whose names may be paths. -/
def ofEntries (entries : List (String × Setting)) : List (String × Setting) :=
  entries.foldl
    (fun whole (name, v) =>
      let path := Settings.KeyPath.ofName name
      alter path.first (alterBelow path.steps (merge v)) whole)
    []

end Setting

end Scaffold
