import Scaffold.Text.Quoted

/-!
# Printing JSON

Texts, lists and records over several lines, two spaces deeper at each level. A value is printed
for a given depth, so that lists and records print their parts one level deeper.
-/

namespace Scaffold.Json

abbrev Printed := Nat → List Char

namespace Printed

def escapeChar (c : Char) : List Char :=
  if c == '"' then ['\\', '"']
  else if c == '\\' then ['\\', '\\']
  else if c == '\x08' then ['\\', 'b']
  else if c == '\x0C' then ['\\', 'f']
  else if c == '\n' then ['\\', 'n']
  else if c == '\r' then ['\\', 'r']
  else if c == '\t' then ['\\', 't']
  else if c.toNat < 0x20 then
    ['\\', 'u', '0', '0', Text.hexDigitOf (c.toNat / 16), Text.hexDigitOf (c.toNat % 16)]
  else [c]

def quoted (s : String) : List Char := '"' :: s.toList.flatMap escapeChar ++ ['"']

def text (s : String) : Printed := fun _ => quoted s

def lineAt (depth : Nat) : List Char := '\n' :: List.replicate (2 * depth) ' '

/-- Parts on lines of their own between brackets, which close up if there are no parts. -/
def enclosed (opening closing : Char) (parts : List Printed) : Printed := fun depth =>
  match parts with
  | [] => [opening, closing]
  | part :: rest =>
    opening :: lineAt (depth + 1) ++ part (depth + 1)
      ++ rest.flatMap (fun part => ',' :: lineAt (depth + 1) ++ part (depth + 1))
      ++ lineAt depth ++ [closing]

def list (items : List Printed) : Printed := enclosed '[' ']' items

def member (key : String) (value : Printed) : Printed := fun depth =>
  quoted key ++ [':', ' '] ++ value depth

def record (members : List (String × Printed)) : Printed :=
  enclosed '\x7b' '\x7d' (members.map fun m => member m.1 m.2)

end Printed

end Scaffold.Json
