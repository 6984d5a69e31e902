import Scaffold.Decimal.Format
import Scaffold.Settings.Setting
import Scaffold.Text.Lowercase
import Scaffold.Text.Quoted

/-!
# Sections

A section fills a record of settings. It is a table, whose entries are known by their names and
may be left out, or a list, whose items stand for the fields in order. Numbers and truth values
do for texts, and numbers and some words for truth values.
-/

namespace Scaffold

namespace Settings

/-- A value that does not do, as a message names it. -/
inductive Unfit
  | nothing
  | bool (b : Bool)
  | integer (n : Int)
  | float (x : Binary)
  | text (s : String)
  | list
  | table
  deriving Repr, DecidableEq

def Unfit.describe : Unfit → String
  | nothing => "unit value"
  | bool b => "boolean `" ++ toString b ++ "`"
  | integer n => "integer `" ++ toString n ++ "`"
  | float x => "floating point `" ++ NumberFormat.quotedSetting.write x ++ "`"
  | text s => "string " ++ Text.quote s
  | list => "sequence"
  | table => "map"

inductive Problem
  /-- It cannot be turned into what was expected. -/
  | unfit (found : Unfit) (expected : String) (located : Bool)
  /-- It is no list or table where one was expected. -/
  | misshapen (found : Unfit) (expected : String)
  deriving Repr, DecidableEq

end Settings

namespace Setting

open Settings

def describe : Setting → Unfit
  | nothing _ => .nothing
  | bool b => .bool b
  | integer n => .integer n
  | float x => .float x
  | text s => .text s
  | list _ _ => .list
  | table _ _ => .table

def unfit {α : Type} (v : Setting) (expected : String) : Except Problem α :=
  .error (.unfit v.describe expected v.isLocated)

def toText (v : Setting) : Except Problem String :=
  match v with
  | text s => .ok s
  | bool b => .ok (toString b)
  | integer n => .ok (toString n)
  | float x => .ok (NumberFormat.setting.write x)
  | v => v.unfit "a string"

/-- The words for the truth values, in small letters. -/
def wordValue? (word : String) : Option Bool :=
  if ["1", "true", "on", "yes"].contains word then some true
  else if ["0", "false", "off", "no"].contains word then some false
  else none

def toBool (v : Setting) : Except Problem Bool :=
  match v with
  | bool b => .ok b
  | integer n => .ok (n != 0)
  | float x => .ok (!x.isZero)
  | text s =>
    let word := Text.lower s
    match wordValue? word with
    | some b => .ok b
    | none => (text word).unfit "a boolean"
  | v => v.unfit "a boolean"

def toTexts (v : Setting) : Except Problem (List String) :=
  match v with
  | list _ items => items.mapM toText
  | v => .error (.misshapen v.describe "a sequence")

end Setting

namespace Settings

structure SectionField (σ : Type) where
  name : String
  read : Setting → σ → Except Problem σ

namespace SectionField

variable {σ : Type}

def text (name : String) (set : String → σ → σ) : SectionField σ :=
  ⟨name, fun v record => v.toText.map fun s => set s record⟩

def texts (name : String) (set : List String → σ → σ) : SectionField σ :=
  ⟨name, fun v record => v.toTexts.map fun l => set l record⟩

def flag (name : String) (set : Bool → σ → σ) : SectionField σ :=
  ⟨name, fun v record => v.toBool.map fun b => set b record⟩

end SectionField

structure Section (σ : Type) where
  name : String
  /-- What the section is called where something else stands for it. -/
  recordName : String
  defaults : σ
  fields : List (SectionField σ)

namespace Section

variable {σ : Type}

def readEntry (s : Section σ) (record : σ) (entry : String × Setting) : Except Problem σ :=
  match s.fields.find? (·.name == entry.1) with
  | some field => field.read entry.2 record
  | none => .ok record

/-- The record of a section. What the section does not set has its default. -/
def read (s : Section σ) (v : Setting) : Except Problem σ :=
  match v with
  | .table _ entries => entries.foldlM s.readEntry s.defaults
  | .list _ items =>
    (s.fields.zip items).foldlM (fun record (field, item) => field.read item record) s.defaults
  | v => .error (.misshapen v.describe ("struct " ++ s.recordName))

end Section

end Settings

end Scaffold
