import Scaffold.Names.Set
import Scaffold.Pattern.Match

/-!
# Exported names

The names that a controller or a service exports. A service also exports its classes and all
its constants, a controller only functions.
-/

namespace Scaffold

open Pattern

inductive ModuleKind
  | controller
  | service
  deriving Repr, DecidableEq

namespace ModuleKind

/-- The exported name, which is the only group of every rule. -/
def exportedName : Pattern := group 1 wordPlus

def controllerRules : List Pattern := [
  sequence [literal "export", blankPlus, literal "async", blankPlus, literal "function", blankPlus,
    exportedName],
  sequence [literal "export", blankPlus, literal "const", blankPlus, exportedName, blankStar,
    literal "=", blankStar, literal "async"],
  sequence [literal "export", blankPlus, literal "function", blankPlus, exportedName]]

def serviceRules : List Pattern := [
  sequence [literal "export", blankPlus, optional (sequence [literal "async", blankPlus]),
    literal "function", blankPlus, exportedName],
  sequence [literal "export", blankPlus, literal "const", blankPlus, exportedName, blankStar,
    literal "="],
  sequence [literal "export", blankPlus, literal "class", blankPlus, exportedName]]

def rules : ModuleKind → List Pattern
  | controller => controllerRules
  | service => serviceRules

def exportsOf (kind : ModuleKind) (text : List Char) : NameSet :=
  .ofList <| kind.rules.flatMap fun rule =>
    (rule.findAll text).filterMap fun found => (found.group? 1).map String.ofList

end ModuleKind

end Scaffold
