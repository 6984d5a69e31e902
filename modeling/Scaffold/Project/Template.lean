/-!
# Templates

The text of a generated file in which the name of the module is left open. The source of a
template shows the open places with a marker; filling puts a name in their place as it is.
-/

namespace Scaffold

inductive Piece
  | text (s : String)
  | moduleName
  deriving Repr, DecidableEq

abbrev Template := List Piece

namespace Piece

def marker : String := "\x7b\x7b module_name \x7d\x7d"

def source : Piece → String
  | text s => s
  | moduleName => marker

def fill (name : String) : Piece → String
  | text s => s
  | moduleName => name

/-- A text of several lines. The last one is not ended. -/
def lines (ls : List String) : Piece := text ("\n".intercalate ls)

end Piece

namespace Template

def source (t : Template) : String := String.join (t.map Piece.source)

def fill (t : Template) (name : String) : String := String.join (t.map (Piece.fill name))

end Template

end Scaffold
