import TargetControl.Text.Digits

/-!
Double-precision numbers as their sixty-four bits, with exact rounding.

A finite double is a whole number of units `2 ^ exponent`, so its value is a ratio of two natural
numbers and a sign.  `ofRatio` rounds a ratio to the nearest double, an exact half to the even
neighbour; products and quotients are the rounded ratios of the exact ones.  `shortest` finds the
fewest decimal digits that round back to the same double, and of those the nearest; where two are
equally near, the written form says which.
-/

namespace TargetControl

/-- A double-precision number, given by its bits. -/
structure Binary64 where
  bits : UInt64
deriving DecidableEq, Repr, Inhabited

namespace Binary64

/-! ## Parts -/

def negative (x : Binary64) : Bool := x.bits.toNat / Nat.pow 2 63 == 1

/-- The bits without the sign. -/
def magnitudeBits (x : Binary64) : Nat := x.bits.toNat % Nat.pow 2 63

def infinityBits : Nat := 0x7FF * Nat.pow 2 52

def isFinite (x : Binary64) : Bool := x.magnitudeBits < infinityBits

def isNan (x : Binary64) : Bool := infinityBits < x.magnitudeBits

def isZero (x : Binary64) : Bool := x.magnitudeBits == 0

/-- The whole number of units in a finite double. -/
def significand (x : Binary64) : Nat :=
  let m := x.magnitudeBits
  if m < Nat.pow 2 52 then m else m % Nat.pow 2 52 + Nat.pow 2 52

/-- How far the unit lies above the smallest one: the unit is `2 ^ (scale - 1074)`. -/
def scale (x : Binary64) : Nat := x.magnitudeBits / Nat.pow 2 52 - 1

/-- The double with the given sign and bits of magnitude. -/
def ofMagnitude (neg : Bool) (m : Nat) : Binary64 :=
  ⟨UInt64.ofNat (if neg then m + Nat.pow 2 63 else m)⟩

def infinity (neg : Bool) : Binary64 := ofMagnitude neg infinityBits

def nan : Binary64 := ofMagnitude false (infinityBits + Nat.pow 2 51)

def negate (x : Binary64) : Binary64 := ofMagnitude (!x.negative) x.magnitudeBits

/-! ## Rounding -/

/-- The natural number nearest to a quotient, an exact half going to the even one. -/
def roundDiv (num den : Nat) : Nat :=
  let q := num / den
  let r := num % den
  if den < 2 * r ∨ (den = 2 * r ∧ q % 2 = 1) then q + 1 else q

/-- The exponent of the greatest power of two that is at most a positive ratio. -/
def floorLog2 (num den : Nat) : Int :=
  let guess : Int := (num.log2 : Int) - (den.log2 : Int)
  if den * Nat.pow 2 guess.toNat ≤ num * Nat.pow 2 (-guess).toNat then guess else guess - 1

/-- The double nearest to `num / den`.  A carry out of the significand moves into the exponent
by itself, because the bits of magnitude run through the doubles in order. -/
def ofRatio (neg : Bool) (num den : Nat) : Binary64 :=
  if num = 0 then ofMagnitude neg 0
  else
    let e := max (floorLog2 num den - 52) (-1074)
    let q := roundDiv (num * Nat.pow 2 (-e).toNat) (den * Nat.pow 2 e.toNat)
    let m := (e + 1074).toNat * Nat.pow 2 52 + q
    if infinityBits ≤ m then infinity neg else ofMagnitude neg m

def ofNat (n : Nat) : Binary64 := ofRatio false n 1

/-- The numerator of the magnitude of a finite double. -/
def numerator (x : Binary64) : Nat := x.significand * Nat.pow 2 (x.scale - 1074)

/-- The denominator of the magnitude of a finite double. -/
def denominator (x : Binary64) : Nat := Nat.pow 2 (1074 - x.scale)

/-- The rounded product of two finite doubles. -/
def times (x y : Binary64) : Binary64 :=
  ofRatio (x.negative != y.negative) (x.numerator * y.numerator) (x.denominator * y.denominator)

/-- The rounded quotient of two finite doubles, the divisor not zero. -/
def dividedBy (x y : Binary64) : Binary64 :=
  ofRatio (x.negative != y.negative) (x.numerator * y.denominator) (x.denominator * y.numerator)

/-- The double nearest to `n * 10 ^ e`.  Exponents that can only overflow or vanish are decided
without computing the power. -/
def ofDecimal (neg : Bool) (n : Nat) (e : Int) : Binary64 :=
  if n = 0 then ofMagnitude neg 0
  else
    let top := (Digits.decimal n).length + e
    if 400 < top then infinity neg
    else if top < -400 then ofMagnitude neg 0
    else ofRatio neg (n * Nat.pow 10 e.toNat) (Nat.pow 10 (-e).toNat)

/-! ## Shortest decimal form -/

/-- The exponent of the greatest power of ten that is at most a positive ratio. -/
def floorLog10 (num den : Nat) : Int :=
  let guess := floorLog2 num den * 30103 / 100000
  let fits (t : Int) : Bool := den * Nat.pow 10 t.toNat ≤ num * Nat.pow 10 (-t).toNat
  if fits (guess + 1) then guess + 1 else if fits guess then guess else guess - 1

/-- A decimal number: `digits * 10 ^ exponent`. -/
structure Decimal where
  digits : Nat
  exponent : Int
deriving DecidableEq, Repr

/-- The decimal without zeros at the end of its digits. -/
def Decimal.trim (fuel : Nat) (d : Decimal) : Decimal :=
  match fuel with
  | 0 => d
  | fuel + 1 =>
    if d.digits ≠ 0 ∧ d.digits % 10 = 0 then trim fuel ⟨d.digits / 10, d.exponent + 1⟩ else d

/-- The positive ratios that round to a double: everything between the midpoints to its two
neighbours, the midpoints themselves when the significand is even.  Numerators are over the common
denominator `den`. -/
structure Interval where
  low : Nat
  value : Nat
  high : Nat
  den : Nat
  closed : Bool

/-- The interval of a positive finite double, in quarters of its unit. -/
def interval (x : Binary64) : Interval :=
  let m := x.significand
  let s := x.scale
  let unit := Nat.pow 2 (s - 1076)
  let below := if m = Nat.pow 2 52 ∧ 0 < s then 1 else 2
  { low := (4 * m - below) * unit
    value := 4 * m * unit
    high := (4 * m + 2) * unit
    den := Nat.pow 2 (1076 - s)
    closed := m % 2 == 0 }

def Interval.holds (i : Interval) (d : Decimal) : Bool :=
  let num := d.digits * Nat.pow 10 d.exponent.toNat * i.den
  let scale := Nat.pow 10 (-d.exponent).toNat
  if i.closed then i.low * scale ≤ num && num ≤ i.high * scale
  else i.low * scale < num && num < i.high * scale

/-- Which of two equally near decimals is taken. -/
inductive Tie where
  /-- the one with even digits -/
  | even
  /-- the one farther from zero -/
  | away
deriving DecidableEq, Repr

/-- Whether the lower of two neighbours is taken, from its digits, when the value lies `rest / den`
of the way to the upper one. -/
def Tie.takesLower (tie : Tie) (digits rest den : Nat) : Bool :=
  2 * rest < den || (2 * rest == den && tie == .even && digits % 2 == 0)

/-- The decimal of the interval on the grid `10 ^ exponent` that lies nearest to the value, if one
of the value's two neighbours on the grid is in the interval. -/
def Interval.onGrid (tie : Tie) (i : Interval) (exponent : Int) : Option Decimal :=
  let num := i.value * Nat.pow 10 (-exponent).toNat
  let den := i.den * Nat.pow 10 exponent.toNat
  let q := num / den
  let r := num % den
  let lower : Decimal := ⟨q, exponent⟩
  let upper : Decimal := ⟨q + 1, exponent⟩
  match 0 < q && i.holds lower, i.holds upper with
  | true, true => some (if tie.takesLower q r den then lower else upper)
  | true, false => some lower
  | false, true => some upper
  | false, false => none

/-- The shortest decimal that rounds to a positive finite double, and of those the nearest.  Of
seventeen digits one always does, so the search ends there. -/
def shortest (tie : Tie) (x : Binary64) : Decimal :=
  let i := x.interval
  let top := floorLog10 i.value i.den
  let found := (List.range 17).findSome? fun k : Nat => i.onGrid tie (top - (k : Int))
  match found with
  | some d => d.trim 20
  | none => ⟨0, 0⟩

/-! ## Written forms -/

/-- Digits with the point after the first `whole` of them, at least one digit on either side. -/
def pointAfter (digits : List Char) (whole : Int) : List Char :=
  if whole ≤ 0 then
    '0' :: '.' :: (List.replicate (-whole).toNat '0' ++ digits)
  else if (digits.length : Int) ≤ whole then
    digits ++ List.replicate (whole.toNat - digits.length) '0' ++ ['.', '0']
  else
    digits.take whole.toNat ++ '.' :: digits.drop whole.toNat

/-- Digits in scientific notation, with a sign in front of every exponent. -/
def scientific (digits : List Char) (whole : Int) : List Char :=
  let mantissa := match digits with
    | [] => []
    | [d] => [d]
    | d :: rest => d :: '.' :: rest
  let exponent := Digits.signed (whole - 1)
  mantissa ++ 'e' :: (if 1 ≤ whole then '+' :: exponent else exponent)

/-- The form of a finite double when `positional` says, of the number of digits in front of the
point, whether the number is written without an exponent. -/
def writeWith (tie : Tie) (positional : Int → Bool) (x : Binary64) : List Char :=
  let body :=
    if x.isZero then ['0', '.', '0']
    else
      let d := x.shortest tie
      let digits := Digits.decimal d.digits
      let whole := d.exponent + digits.length
      if positional whole then pointAfter digits whole else scientific digits whole
  if x.negative then '-' :: body else body

/-- The form of finite doubles in JSON: an exponent from `1e+16` upwards and below `1e-5`. -/
def compact (x : Binary64) : List Char :=
  x.writeWith .even fun whole => -5 < whole && whole ≤ 16

/-- The form without an exponent, whatever its length. -/
def plain (x : Binary64) : List Char :=
  if x.isNan then ['N', 'a', 'N']
  else if !x.isFinite then (if x.negative then ['-', 'i', 'n', 'f'] else ['i', 'n', 'f'])
  else x.writeWith .away fun _ => true

end Binary64
end TargetControl
