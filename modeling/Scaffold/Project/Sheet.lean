import Scaffold.Project.Template

/-!
# Sheets

The source of a generated file: text, slots for values, and parts that come again for every
member of a list. Filling a sheet is strict: a value that is missing, or is none that its slot
can hold, is a fault and not an empty text.
-/

namespace Scaffold

inductive View
  | text (s : String)
  | number (n : Nat)
  | list (members : List View)
  | record (fields : List (String × View))

namespace View

def field? (v : View) (name : String) : Option View :=
  match v with
  | record fields => fields.lookup name
  | _ => none

def follow? : View → List String → Option View
  | v, [] => some v
  | v, name :: rest => (v.field? name).bind (follow? · rest)

def shown? : View → Option String
  | text s => some s
  | number n => some (toString n)
  | _ => none

def members? : View → Option (List View)
  | list members => some members
  | _ => none

end View

/-- What the names that can be used in a sheet stand for. The first one of a name counts. -/
abbrev Bindings := List (String × View)

/-- Where a value is found: under a name, behind the fields that lead from there. -/
structure Slot where
  name : String
  fields : List String := []
  deriving Repr, DecidableEq

inductive SheetFault
  | noSheet (name : String)
  | undefined (slot : Slot)
  | notShown (slot : Slot)
  | notList (slot : Slot)
  deriving Repr, DecidableEq

def Slot.find (p : Slot) (bound : Bindings) : Except SheetFault View :=
  match (bound.lookup p.name).bind (·.follow? p.fields) with
  | some v => .ok v
  | none => .error (.undefined p)

inductive SheetItem
  | text (s : String)
  | value (slot : Slot)
  /-- The body for every member of a list under a name of its own, or the text for no members. -/
  | each (name : String) (members : Slot) (body empty : List SheetItem)

abbrev Sheet := List SheetItem

namespace Sheet

mutual

def fillItem (bound : Bindings) : SheetItem → Except SheetFault String
  | .text s => .ok s
  | .value slot => do
    match (← slot.find bound).shown? with
    | some s => .ok s
    | none => .error (.notShown slot)
  | .each name slot body empty => do
    match (← slot.find bound).members? with
    | some [] => fill bound empty
    | some members => String.join <$> members.mapM fun v => fill ((name, v) :: bound) body
    | _ => .error (.notList slot)

def fill (bound : Bindings) : List SheetItem → Except SheetFault String
  | [] => .ok ""
  | item :: rest => do
    let s ← fillItem bound item
    let t ← fill bound rest
    .ok (s ++ t)

end

end Sheet

def Template.sheet (t : Template) : Sheet :=
  t.map fun
    | .text s => .text s
    | .moduleName => .value ⟨"module_name", []⟩

end Scaffold
