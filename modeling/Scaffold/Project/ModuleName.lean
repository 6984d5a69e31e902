import Scaffold.Text.Blank

/-!
# Module names

The name under which the packages of the generated server import each other. It is any text that
is not empty and has no blanks.
-/

namespace Scaffold

def isModuleName (text : String) : Bool :=
  !text.toList.isEmpty && !text.toList.any Text.isBlank

structure ModuleName where
  text : String
  accepted : isModuleName text = true
  deriving DecidableEq

namespace ModuleName

def ofText? (text : String) : Option ModuleName :=
  if h : isModuleName text = true then some ⟨text, h⟩ else none

theorem ofText?_text (name : ModuleName) : ofText? name.text = some name := by
  simp [ofText?, name.accepted]

theorem isModuleName_eq_false_iff (text : String) :
    isModuleName text = false ↔ text = "" ∨ ∃ c ∈ text.toList, Text.isBlank c = true := by
  rw [isModuleName, Bool.and_eq_false_iff, Bool.not_eq_false', Bool.not_eq_false',
    List.isEmpty_iff, String.toList_eq_nil_iff, List.any_eq_true]

theorem ofText?_eq_none_iff (text : String) : ofText? text = none ↔ isModuleName text = false := by
  unfold ofText?
  split
  · rename_i h
    simp [h]
  · rename_i h
    simpa using h

end ModuleName

end Scaffold
