import TargetControl.Text.Digits

/-!
Spans of time, to the nanosecond.

A span is written in the largest unit of seconds, milliseconds, microseconds and nanoseconds that
it reaches, as a decimal without zeros at the end.
-/

namespace TargetControl

/-- A span of time: whole seconds and nanoseconds below a second. -/
structure Duration where
  seconds : Nat
  nanos : Nat
deriving DecidableEq, Repr

namespace Duration

/-- The span of some seconds and any number of nanoseconds. -/
def of (seconds nanos : Nat) : Duration :=
  ⟨seconds + nanos / 1000000000, nanos % 1000000000⟩

/-- The longest span. -/
def longest : Duration := ⟨UInt64.size - 1, 999999999⟩

/-- The digits of `part` out of `10 ^ width`, without zeros at the end. -/
def fraction (width part : Nat) : List Char :=
  ((Digits.padded width part).reverse.dropWhile (· = '0')).reverse

/-- A whole number and a part out of `10 ^ width`, with the point only where the part shows. -/
def decimal (whole width part : Nat) : List Char :=
  match fraction width part with
  | [] => Digits.decimal whole
  | digits => Digits.decimal whole ++ '.' :: digits

/-- The text of a span. -/
def text (d : Duration) : String :=
  if 0 < d.seconds then String.ofList (decimal d.seconds 9 d.nanos ++ ['s'])
  else if 1000000 ≤ d.nanos then
    String.ofList (decimal (d.nanos / 1000000) 6 (d.nanos % 1000000) ++ ['m', 's'])
  else if 1000 ≤ d.nanos then
    String.ofList (decimal (d.nanos / 1000) 3 (d.nanos % 1000) ++ ['µ', 's'])
  else String.ofList (Digits.decimal d.nanos ++ ['n', 's'])

end Duration
end TargetControl
