/-!
White space.

`isBlank` is the Unicode property White_Space, the class that free-form clock readings skip.
The blanks of JSON and TOML are much smaller sets and are defined with those formats.
-/

namespace TargetControl

/-- The Unicode property White_Space. -/
def isBlank (c : Char) : Bool :=
  let n := c.toNat
  (9 ≤ n && n ≤ 13) || n == 32 || n == 0x85 || n == 0xA0 || n == 0x1680 ||
    (0x2000 ≤ n && n ≤ 0x200A) || n == 0x2028 || n == 0x2029 || n == 0x202F ||
    n == 0x205F || n == 0x3000

/-- A text without the white space in front of it. -/
def trimStart (cs : List Char) : List Char := cs.dropWhile isBlank

end TargetControl
