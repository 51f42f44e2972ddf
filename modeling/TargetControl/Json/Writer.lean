import TargetControl.Json.Value

/-!
The compact text of a JSON value.

No blanks are written, members stand in the order of the value, and a text escapes the quotation
mark, the backslash and the control characters below the space, nothing else.
-/

namespace TargetControl
namespace Json

/-- One character of a text between quotation marks. -/
def escape (c : Char) : List Char :=
  if c = '"' then ['\\', '"']
  else if c = '\\' then ['\\', '\\']
  else if c = '\n' then ['\\', 'n']
  else if c = '\r' then ['\\', 'r']
  else if c = '\t' then ['\\', 't']
  else if c.toNat = 8 then ['\\', 'b']
  else if c.toNat = 12 then ['\\', 'f']
  else if c.toNat < 32 then
    ['\\', 'u', '0', '0', Digits.char (c.toNat / 16), Digits.char (c.toNat % 16)]
  else [c]

/-- A text between quotation marks. -/
def writeText (s : String) : List Char := '"' :: s.toList.flatMap escape ++ ['"']

def Number.write : Number → List Char
  | .integer n => Digits.signed n
  | .real x => if x.isFinite then x.compact else ['n', 'u', 'l', 'l']

mutual

/-- The compact text of a value. -/
def write : Json → List Char
  | .null => ['n', 'u', 'l', 'l']
  | .bool true => ['t', 'r', 'u', 'e']
  | .bool false => ['f', 'a', 'l', 's', 'e']
  | .number n => n.write
  | .string s => writeText s
  | .array [] => ['[', ']']
  | .array (x :: rest) => '[' :: write x ++ writeItems rest
  | .object [] => ['{', '}']
  | .object ((k, v) :: rest) => '{' :: writeText k ++ ':' :: write v ++ writeMembers rest

/-- The items after the first, with the bracket that closes the array. -/
def writeItems : List Json → List Char
  | [] => [']']
  | x :: rest => ',' :: write x ++ writeItems rest

/-- The members after the first, with the brace that closes the object. -/
def writeMembers : List (String × Json) → List Char
  | [] => ['}']
  | (k, v) :: rest => ',' :: writeText k ++ ':' :: write v ++ writeMembers rest

end

/-- The compact text of a value. -/
def text (j : Json) : String := String.ofList j.write

end Json
end TargetControl
