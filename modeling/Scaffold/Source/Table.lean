import Scaffold.Pattern.Match

/-!
# Tables

The names of the tables that a text creates, in any mixture of capital and small letters.
-/

namespace Scaffold.Table

open Pattern

def createStatement : Pattern :=
  sequence [caselessLiteral "CREATE", blankPlus, caselessLiteral "TABLE", blankPlus,
    optional (sequence [caselessLiteral "IF", blankPlus, caselessLiteral "NOT", blankPlus,
      caselessLiteral "EXISTS", blankPlus]),
    optional (one (.oneOf "`\"".toList)), group 1 wordPlus]

/-- Every created table in order, a table as often as it is created. -/
def namesOf (text : List Char) : List String :=
  (createStatement.findAll text).filterMap fun found => (found.group? 1).map String.ofList

end Scaffold.Table
