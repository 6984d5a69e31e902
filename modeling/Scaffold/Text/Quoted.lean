import Scaffold.Text.Property

/-!
# Quoted texts

A text between double quotes in which everything that would not show plainly is escaped: quotes
and backslashes, controls, marks that attach to the character before them, and all else without
a printed form of its own.
-/

namespace Scaffold.Text

def hexDigitOf (n : Nat) : Char := if n < 10 then Char.ofNat (48 + n) else Char.ofNat (87 + n)

def hexDigits (n : Nat) : List Char :=
  if n < 16 then [hexDigitOf n] else hexDigits (n / 16) ++ [hexDigitOf (n % 16)]

/-- The escape by code point, with the digits in braces. -/
def codeEscape (c : Char) : List Char :=
  ['\\', 'u', Char.ofNat 0x7B] ++ hexDigits c.toNat ++ [Char.ofNat 0x7D]

def quoteChar (c : Char) : List Char :=
  if c == '\x00' then ['\\', '0']
  else if c == '\t' then ['\\', 't']
  else if c == '\r' then ['\\', 'r']
  else if c == '\n' then ['\\', 'n']
  else if c == '\\' || c == '"' then ['\\', c]
  else if isExtending c || !isPrintable c then codeEscape c
  else [c]

def quote (s : String) : String :=
  String.ofList ('"' :: s.toList.flatMap quoteChar ++ ['"'])

end Scaffold.Text
