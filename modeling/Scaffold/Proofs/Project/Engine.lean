import Mathlib.Data.List.Chain
import Scaffold.Proofs.Project.Rendering

/-!
# Template engines

A template engine is given the source of a template and fills it with values. What the templates of
a project need of it are two rules: text in which no markup opens comes out as it is, and an
expression that is a name comes out as the text of that name.
-/

namespace Scaffold

structure EngineSettings where
  /-- Otherwise a line break at the end of a template is lost. -/
  keepsLastLineBreak : Bool
  /-- A line break behind a block is lost. -/
  trimsBlocks : Bool
  /-- Blanks between the start of a line and a block are lost. -/
  stripsBlocks : Bool
  /-- A name without a value is a fault. -/
  isStrict : Bool
  /-- Otherwise values come out as they are. -/
  escapesValues : Bool
  deriving Repr, DecidableEq

/-- Whether sources and values come out as they are. -/
def EngineSettings.isLiteral (settings : EngineSettings) : Bool :=
  settings.keepsLastLineBreak && !settings.escapesValues

structure TemplateEngine where
  Fault : Type
  render : EngineSettings → Bindings → String → Except Fault String

namespace Markup

/-- Whether a second character opens an expression, a block or a comment together with a first. -/
def opens (a b : Char) : Bool := a == '\x7b' && (b == '\x7b' || b == '%' || b == '#')

def opensBlock (a b : Char) : Bool := a == '\x7b' && (b == '%' || b == '#')

/-- Text that opens no markup, not even together with a brace behind it. -/
def IsPlain (s : String) : Prop := (s.toList ++ ['\x7b']).IsChain fun a b => opens a b = false

/-- A source with expressions at most. -/
def LacksBlocks (s : String) : Prop := s.toList.IsChain fun a b => opensBlock a b = false

def reserved : List String := [
  "true", "false", "none", "True", "False", "None", "not", "and", "or", "in", "is", "if", "else",
  "loop", "self"]

def isNameCharacter (c : Char) : Bool := c.isAlphanum || c == '_'

def IsName (name : String) : Prop :=
  name ≠ "" ∧ name.toList.all isNameCharacter = true ∧
    name.toList.head?.all (!·.isDigit) = true ∧ name ∉ reserved

instance (name : String) : Decidable (IsName name) :=
  inferInstanceAs (Decidable (_ ∧ _ ∧ _ ∧ _))

def expression (name : String) : String := "\x7b\x7b " ++ name ++ " \x7d\x7d"

end Markup

open Markup

namespace TemplateEngine

/-- The rules of an engine. With blocks in the rest of a source it is not enough to look at the rest
alone, as these are trimmed and stripped by what stands around them. -/
structure ObeysRules (engine : TemplateEngine) : Prop where
  text : ∀ {settings : EngineSettings} {bound : Bindings} {s : String},
    settings.isLiteral = true → IsPlain s → engine.render settings bound s = .ok s
  value : ∀ {settings : EngineSettings} {bound : Bindings} {front name value rest filled : String},
    settings.isLiteral = true → IsPlain front → IsName name →
    bound.lookup name = some (.text value) → LacksBlocks rest →
    engine.render settings bound rest = .ok filled →
    engine.render settings bound (front ++ expression name ++ rest) = .ok (front ++ value ++ filled)

end TemplateEngine

/-! ## Plain text -/

namespace Markup

theorem isPlain_iff (s : String) : IsPlain s ↔
    s.toList.IsChain (fun a b => opens a b = false) ∧ ∀ c ∈ s.toList.getLast?, c ≠ '\x7b' := by
  rw [IsPlain, List.isChain_append]
  refine and_congr_right fun _ => ⟨fun junction c last brace => ?_, fun free => ?_⟩
  · have opened := junction.2 c last '\x7b' rfl
    rw [brace] at opened
    cases opened
  · refine ⟨List.isChain_singleton _, ?_⟩
    rintro c last _ ⟨⟩
    rw [opens, beq_eq_false_iff_ne.mpr (free c last), Bool.false_and]

theorem opens_of_ne {a : Char} (b : Char) (other : a ≠ '\x7b') : opens a b = false := by
  rw [opens, beq_eq_false_iff_ne.mpr other, Bool.false_and]

theorem opensBlock_of_opens {a b : Char} (free : opens a b = false) : opensBlock a b = false := by
  rw [opens, Bool.or_assoc, Bool.and_or_distrib_left, Bool.or_eq_false_iff] at free
  exact free.2

theorem opensBlock_of_ne {a : Char} (b : Char) (other : a ≠ '\x7b') : opensBlock a b = false := by
  rw [opensBlock, beq_eq_false_iff_ne.mpr other, Bool.false_and]

theorem isPlain_empty : IsPlain "" := List.isChain_singleton _

theorem IsPlain.append {s t : String} (front : IsPlain s) (back : IsPlain t) :
    IsPlain (s ++ t) := by
  rw [isPlain_iff] at front
  rw [IsPlain, String.toList_append, List.append_assoc, List.isChain_append]
  exact ⟨front.1, back, fun c last d _ => opens_of_ne d (front.2 c last)⟩

theorem LacksBlocks.append {s t : String} (front : IsPlain s) (back : LacksBlocks t) :
    LacksBlocks (s ++ t) := by
  rw [isPlain_iff] at front
  rw [LacksBlocks, String.toList_append, List.isChain_append]
  exact ⟨front.1.imp fun _ _ => opensBlock_of_opens, back,
    fun c last d _ => opensBlock_of_ne d (front.2 c last)⟩

end Markup

/-! ## Filling through sheets -/

namespace Markup

def readExpression? (cs : List Char) : Option (String × List Char) := do
  let inside ← "\x7b\x7b ".toList.isPrefixOf? cs
  let behind ← " \x7d\x7d".toList.isPrefixOf? (inside.dropWhile isNameCharacter)
  some (String.ofList (inside.takeWhile isNameCharacter), behind)

theorem length_of_readExpression? {cs behind : List Char} {name : String}
    (h : readExpression? cs = some (name, behind)) : behind.length < cs.length := by
  obtain ⟨inside, opened, h⟩ := Option.bind_eq_some_iff.mp h
  obtain ⟨rest, closed, h⟩ := Option.bind_eq_some_iff.mp h
  cases h
  have front := congrArg List.length (List.isPrefixOf?_eq_some_iff_append_eq.mp opened)
  have back := congrArg List.length (List.isPrefixOf?_eq_some_iff_append_eq.mp closed)
  have inner := (List.dropWhile_suffix isNameCharacter (l := inside)).length_le
  rw [List.length_append] at front back
  have three : "\x7b\x7b ".toList.length = 3 := by decide
  omega

def sheet? (source : List Char) : Option Sheet :=
  match source with
  | [] => some []
  | c :: cs =>
    match _read : readExpression? (c :: cs) with
    | some (name, behind) => (sheet? behind).map (SheetItem.value ⟨name, []⟩ :: ·)
    | none =>
      if cs.head?.any (opens c) then none
      else (sheet? cs).map (SheetItem.text (String.singleton c) :: ·)
termination_by source.length
decreasing_by
  · exact length_of_readExpression? _read
  · exact Nat.lt_succ_self cs.length

theorem readExpression?_of_plain {c : Char} {cs : List Char}
    (free : cs.head?.any (opens c) = false) : readExpression? (c :: cs) = none := by
  rw [Option.eq_none_iff_forall_ne_some]
  rintro ⟨name, behind⟩ read
  obtain ⟨inside, opened, -⟩ := Option.bind_eq_some_iff.mp read
  have whole := List.isPrefixOf?_eq_some_iff_append_eq.mp opened
  change '\x7b' :: '\x7b' :: ' ' :: inside = c :: cs at whole
  obtain ⟨rfl, rfl⟩ := List.cons.inj whole
  cases free

theorem readExpression?_expression {name : String} (isName : IsName name) (rest : List Char) :
    readExpression? ((expression name).toList ++ rest) = some (name, rest) := by
  have whole : (expression name).toList ++ rest =
      "\x7b\x7b ".toList ++ (name.toList ++ (" \x7d\x7d".toList ++ rest)) := by
    rw [expression, String.toList_append, String.toList_append, List.append_assoc,
      List.append_assoc]
  have inside : ∀ c ∈ name.toList, isNameCharacter c = true := List.all_eq_true.mp isName.2.1
  have stop : ∀ c ∈ (" \x7d\x7d".toList ++ rest).head?, isNameCharacter c = false := by
    rintro _ ⟨⟩
    decide
  rw [readExpression?, whole, List.isPrefixOf?_eq_some_iff_append_eq.mpr rfl, Option.bind_eq_bind,
    Option.bind_some, Text.dropWhile_run inside stop, Text.takeWhile_run inside stop,
    List.isPrefixOf?_eq_some_iff_append_eq.mpr rfl, Option.bind_some, String.ofList_toList]

theorem sheet?_of_read {cs behind : List Char} {name : String}
    (read : readExpression? cs = some (name, behind)) :
    sheet? cs = (sheet? behind).map (SheetItem.value ⟨name, []⟩ :: ·) := by
  cases cs with
  | nil => cases read
  | cons c cs =>
    rw [sheet?]
    split
    · rename_i other
      cases read.symm.trans other
      rfl
    · rename_i none
      cases read.symm.trans none

theorem sheet?_of_free {c : Char} {cs : List Char} (free : cs.head?.any (opens c) = false) :
    sheet? (c :: cs) = (sheet? cs).map (SheetItem.text (String.singleton c) :: ·) := by
  rw [sheet?]
  split
  · rename_i read
    cases (readExpression?_of_plain free).symm.trans read
  · rw [if_neg (by rw [free]; exact Bool.false_ne_true)]

def items (cs : List Char) : Sheet := cs.map (SheetItem.text ∘ String.singleton)

theorem sheet?_plain {cs : List Char}
    (plain : (cs ++ ['\x7b']).IsChain fun a b => opens a b = false) (rest : List Char) :
    sheet? (cs ++ rest) = (sheet? rest).map (items cs ++ ·) := by
  induction cs with
  | nil => exact Option.map_id'.symm
  | cons c cs ih =>
    have free : (cs ++ rest).head?.any (opens c) = false := by
      cases cs with
      | nil =>
        have other : c ≠ '\x7b' := by
          rintro rfl
          cases (List.isChain_cons_cons.mp plain).1
        exact (Option.any_eq_false _ _).mpr fun d _ => opens_of_ne d other
      | cons d cs => exact (List.isChain_cons_cons.mp plain).1
    rw [List.cons_append, sheet?_of_free free, ih plain.tail, Option.map_map]
    rfl

theorem sheet?_expression {front name rest : String} (plain : IsPlain front)
    (isName : IsName name) : sheet? (front ++ expression name ++ rest).toList =
      (sheet? rest.toList).map fun sheet =>
        items front.toList ++ SheetItem.value ⟨name, []⟩ :: sheet := by
  rw [String.toList_append, String.toList_append, List.append_assoc, sheet?_plain plain,
    sheet?_of_read (readExpression?_expression isName rest.toList), Option.map_map]
  rfl

open Sheet in
theorem fills_items (bound : Bindings) (cs : List Char) :
    Fills bound (items cs) (String.ofList cs) := by
  induction cs with
  | nil => exact .nil
  | cons c cs ih =>
    rw [← List.singleton_append, String.ofList_append, items, List.map_append]
    exact .text ih

end Markup

namespace TemplateEngine

/-- Reads a source as a sheet and fills the sheet. Blocks, comments and any other way to write
sources and values than as they are make it fail. -/
def renderSheet (settings : EngineSettings) (bound : Bindings) (source : String) :
    Except (Option SheetFault) String :=
  if settings.isLiteral then
    match sheet? source.toList with
    | some sheet => (Sheet.fill bound sheet).mapError some
    | none => .error none
  else .error none

def ofSheets : TemplateEngine := ⟨Option SheetFault, renderSheet⟩

theorem renderSheet_eq_ok_iff {settings : EngineSettings} (literal : settings.isLiteral = true)
    {bound : Bindings} {source filled : String} :
    renderSheet settings bound source = .ok filled ↔
      ∃ sheet, sheet? source.toList = some sheet ∧ Sheet.Fills bound sheet filled := by
  rw [renderSheet, if_pos literal]
  cases sheet? source.toList with
  | none => simp
  | some sheet =>
    simp only [Option.some.injEq, exists_eq_left', Sheet.Fills]
    cases Sheet.fill bound sheet with
    | ok t => simp [Except.mapError]
    | error fault => simp [Except.mapError]

theorem ofSheets_obeysRules : ofSheets.ObeysRules where
  text {settings bound s} literal plain := by
    refine (renderSheet_eq_ok_iff literal).mpr ⟨items s.toList, ?_, ?_⟩
    · have read := sheet?_plain plain []
      rwa [List.append_nil, sheet?, Option.map_some, List.append_nil] at read
    · have filled := fills_items bound s.toList
      rwa [String.ofList_toList] at filled
  value {settings bound front name value rest filled} literal plain isName found _ rendered := by
    obtain ⟨sheet, read, fills⟩ := (renderSheet_eq_ok_iff literal).mp rendered
    refine (renderSheet_eq_ok_iff literal).mpr
      ⟨items front.toList ++ SheetItem.value ⟨name, []⟩ :: sheet, ?_, ?_⟩
    · rw [sheet?_expression plain isName, read]
      rfl
    · have binds : Sheet.Binds bound ⟨name, []⟩ (.text value) := by
        rw [Sheet.Binds, found]
        rfl
      have all := (fills_items bound front.toList).append (Sheet.Fills.value binds rfl fills)
      rwa [String.ofList_toList, ← String.append_assoc] at all

end TemplateEngine

end Scaffold
