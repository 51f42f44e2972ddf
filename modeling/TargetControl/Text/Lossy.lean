/-!
Bytes as text, whatever they are.

Bytes that are UTF-8 give the text they encode.  Where they are not, the longest run of bytes that
begins a character and is cut off, or else one byte, gives the replacement character.
-/

namespace TargetControl
namespace Lossy

/-- The character that stands for bytes that are no text. -/
def replacement : Char := Char.ofNat 0xFFFD

/-- Whether a byte lies in a range. -/
def within (low high : Nat) (b : UInt8) : Bool := low ≤ b.toNat && b.toNat ≤ high

/-- Whether a byte can only continue a character. -/
def continues (b : UInt8) : Bool := within 0x80 0xBF b

/-- The number of bytes that a first byte asks for, and the range that the second must lie in. -/
def demand (b : UInt8) : Option (Nat × Nat × Nat) :=
  if within 0xC2 0xDF b then some (2, 0x80, 0xBF)
  else if within 0xE0 0xE0 b then some (3, 0xA0, 0xBF)
  else if within 0xED 0xED b then some (3, 0x80, 0x9F)
  else if within 0xE1 0xEF b then some (3, 0x80, 0xBF)
  else if within 0xF0 0xF0 b then some (4, 0x90, 0xBF)
  else if within 0xF1 0xF3 b then some (4, 0x80, 0xBF)
  else if within 0xF4 0xF4 b then some (4, 0x80, 0x8F)
  else none

/-- The bytes that continue a character whose second byte is given, as many as there may be. -/
def tail (count : Nat) (bytes : List UInt8) : List UInt8 := (bytes.take count).takeWhile continues

/-- The code point that a first byte and the bytes after it encode. -/
def codePoint (width : Nat) (first : UInt8) (more : List UInt8) : Nat :=
  more.foldl (fun n b => n * 64 + b.toNat % 64) (first.toNat % Nat.pow 2 (7 - width))

/-- The first character of some bytes, and how many bytes it takes beside the first. -/
def first (b : UInt8) (rest : List UInt8) : Char × Nat :=
  if b.toNat < 0x80 then (Char.ofNat b.toNat, 0)
  else
    match demand b, rest with
    | some (width, low, high), second :: others =>
      if within low high second then
        let more := second :: tail (width - 2) others
        if more.length + 1 = width then (Char.ofNat (codePoint width b more), more.length)
        else (replacement, more.length)
      else (replacement, 0)
    | _, _ => (replacement, 0)

/-- The characters of some bytes. -/
def decode : List UInt8 → List Char
  | [] => []
  | b :: rest =>
    let (c, more) := first b rest
    c :: decode (rest.drop more)
termination_by bytes => bytes.length
decreasing_by simp only [List.length_drop, List.length_cons]; omega

end Lossy
end TargetControl
