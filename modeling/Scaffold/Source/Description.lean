import Scaffold.Pattern.Match
import Scaffold.Text.Blank

/-!
# Descriptions

A middleware file is described by the first line of its first documentation block.
-/

namespace Scaffold.Description

open Pattern

/-- A block that opens on a line of its own, and the text behind the star of the next line. -/
def firstLine : Pattern :=
  sequence [literal "/**", blankStar, literal "\n", blankStar, literal "*", blankStar,
    group 1 (lazyPlus dot), literal "\n"]

def ofText (text : List Char) : String :=
  match (firstLine.find? text).bind (·.group? 1) with
  | some line => String.ofList (Text.trim line)
  | none => ""

end Scaffold.Description
