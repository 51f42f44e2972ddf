import TargetControl.Text.Digits
import TargetControl.Text.Printable

/-!
Texts between quotation marks, as descriptions show them.

The quotation mark, the backslash and four control characters have escapes of two characters.
Any other character that does not show by itself is written by its code point in hexadecimal, so
a description never holds an invisible character.
-/

namespace TargetControl
namespace Quoted

/-- One character between quotation marks. -/
def char (c : Char) : List Char :=
  if c = '"' then ['\\', '"']
  else if c = '\\' then ['\\', '\\']
  else if c = '\n' then ['\\', 'n']
  else if c = '\r' then ['\\', 'r']
  else if c = '\t' then ['\\', 't']
  else if c.toNat = 0 then ['\\', '0']
  else if isShown c then [c]
  else ['\\', 'u', '\x7b'] ++ Digits.digits 16 c.toNat ++ ['\x7d']

/-- A text between quotation marks. -/
def text (s : String) : String :=
  String.ofList ('"' :: s.toList.flatMap char ++ ['"'])

end Quoted
end TargetControl
