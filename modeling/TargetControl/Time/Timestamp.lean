import TargetControl.Text.Blank
import TargetControl.Text.Digits

/-!
Points in time, in universal time, to the nanosecond.

A point is a day of the Gregorian calendar and a time of day.  A leap second is the second after
`:59`: its nanoseconds run from one thousand million upwards.  Texts are those of RFC 3339, written
with no fraction or one of three, six or nine digits, whichever is the first to lose nothing.
Reading is more liberal: blanks may stand around the parts of the date and the time, numbers may
be short, and the offset may have no colon.
-/

namespace TargetControl

/-- A day of the Gregorian calendar. -/
structure Date where
  year : Int
  month : Nat
  day : Nat
deriving DecidableEq, Repr

namespace Date

def isLeap (year : Int) : Bool :=
  year % 4 = 0 && (year % 100 ≠ 0 || year % 400 = 0)

def daysIn (year : Int) (month : Nat) : Nat :=
  if month = 2 then (if isLeap year then 29 else 28)
  else if month = 4 || month = 6 || month = 9 || month = 11 then 30
  else 31

/-- The years that points in time can have. -/
def inRange (year : Int) : Bool := -262143 ≤ year && year ≤ 262142

/-- Whether a day is on the calendar. -/
def isValid (d : Date) : Bool :=
  inRange d.year && 1 ≤ d.month && d.month ≤ 12 && 1 ≤ d.day && d.day ≤ daysIn d.year d.month

def next (d : Date) : Date :=
  if d.day < daysIn d.year d.month then { d with day := d.day + 1 }
  else if d.month < 12 then ⟨d.year, d.month + 1, 1⟩
  else ⟨d.year + 1, 1, 1⟩

def previous (d : Date) : Date :=
  if 1 < d.day then { d with day := d.day - 1 }
  else if 1 < d.month then ⟨d.year, d.month - 1, daysIn d.year (d.month - 1)⟩
  else ⟨d.year - 1, 12, 31⟩

end Date

/-- A point in time: a day, the second of the day, and nanoseconds. -/
structure Timestamp where
  date : Date
  second : Nat
  nanos : Nat
deriving DecidableEq, Repr

namespace Timestamp

/-- The start of the year 1970. -/
def epoch : Timestamp := ⟨⟨1970, 1, 1⟩, 0, 0⟩

/-! ## Writing -/

/-- A year, with a sign unless it has four digits. -/
def writeYear (year : Int) : List Char :=
  if 0 ≤ year ∧ year ≤ 9999 then Digits.padded 4 year.natAbs
  else (if year < 0 then '-' else '+') :: Digits.padded 4 year.natAbs

/-- The fraction of a second with its point. -/
def writeFraction (nanos : Nat) : List Char :=
  if nanos = 0 then []
  else if nanos % 1000000 = 0 then '.' :: Digits.padded 3 (nanos / 1000000)
  else if nanos % 1000 = 0 then '.' :: Digits.padded 6 (nanos / 1000)
  else '.' :: Digits.padded 9 nanos

/-- A point in time with the given mark for universal time behind it. -/
def writeWith (zone : List Char) (t : Timestamp) : List Char :=
  let leap := t.nanos / 1000000000
  writeYear t.date.year ++ '-' :: Digits.padded 2 t.date.month ++
    '-' :: Digits.padded 2 t.date.day ++
    'T' :: Digits.padded 2 (t.second / 3600) ++
    ':' :: Digits.padded 2 (t.second / 60 % 60) ++
    ':' :: Digits.padded 2 (t.second % 60 + leap) ++
    writeFraction (t.nanos % 1000000000) ++ zone

def write (t : Timestamp) : List Char := t.writeWith ['Z']

/-- The form with an offset of zero. -/
def writeOffset (t : Timestamp) : List Char := t.writeWith ['+', '0', '0', ':', '0', '0']

/-- The form with `Z`. -/
def text (t : Timestamp) : String := String.ofList t.write

/-- The form with an offset of zero. -/
def offsetText (t : Timestamp) : String := String.ofList t.writeOffset

/-! ## Reading -/

/-- Reads between one and `most` digits. -/
def readDigits (most : Nat) (cs : List Char) : Option (Nat × List Char) :=
  match (cs.take most).takeWhile Digits.isDecimal with
  | [] => none
  | digits => some (Digits.ofDecimal digits, cs.drop digits.length)

/-- Reads a number of at most `most` digits, with blanks in front. -/
def readNumber (most : Nat) (cs : List Char) : Option (Nat × List Char) :=
  readDigits most (trimStart cs)

/-- Reads a year: up to four digits, or a sign and any number of them. -/
def readYear (cs : List Char) : Option (Int × List Char) :=
  match trimStart cs with
  | '-' :: rest => (readDigits rest.length rest).map fun (n, rest) => (-(n : Int), rest)
  | '+' :: rest => (readDigits rest.length rest).map fun (n, rest) => ((n : Int), rest)
  | rest => (readDigits 4 rest).map fun (n, rest) => ((n : Int), rest)

/-- Reads a given character, with blanks in front. -/
def readMark (mark : Char) (cs : List Char) : Option (List Char) :=
  match trimStart cs with
  | c :: rest => if c = mark then some rest else none
  | [] => none

/-- Reads a fraction of a second, if there is one.  Digits after the ninth are passed over. -/
def readFraction : List Char → Option (Nat × List Char)
  | '.' :: rest =>
    match (rest.take 9).takeWhile Digits.isDecimal with
    | [] => none
    | digits =>
      some (Digits.ofDecimal digits * Nat.pow 10 (9 - digits.length),
        (rest.drop digits.length).dropWhile Digits.isDecimal)
  | rest => some (0, rest)

/-- The character that stands between a date and a time. -/
def isSeparator (c : Char) : Bool := c = 'T' || c = 't' || c = ' '

/-- Reads exactly two digits. -/
def readPair : List Char → Option (Nat × List Char)
  | a :: b :: rest =>
    if Digits.isDecimal a && Digits.isDecimal b then
      some (10 * Digits.value a + Digits.value b, rest)
    else none
  | _ => none

def readHoursMinutes (cs : List Char) : Option (Nat × List Char) := do
  let (hours, rest) ← readPair cs
  let (minutes, rest) ← readPair (rest.dropWhile fun c => c = ':' || isBlank c)
  guard (minutes ≤ 59)
  return (60 * hours + minutes, rest)

/-- Reads an offset from universal time, in minutes. -/
def readOffset (cs : List Char) : Option (Int × List Char) :=
  match cs with
  | 'Z' :: rest | 'z' :: rest => some (0, rest)
  | '+' :: rest => (readHoursMinutes rest).map fun (m, rest) => ((m : Int), rest)
  | '-' :: rest | '−' :: rest => (readHoursMinutes rest).map fun (m, rest) => (-(m : Int), rest)
  | u :: t :: c :: rest =>
    if u.toUpper = 'U' && t.toUpper = 'T' && c.toUpper = 'C' then some (0, rest) else none
  | _ => none

/-- Moves a local time back by an offset in minutes that is shorter than a day. -/
def shift (t : Timestamp) (offset : Int) : Timestamp :=
  let s : Int := t.second - 60 * offset
  if s < 0 then ⟨t.date.previous, (s + 86400).toNat, t.nanos⟩
  else if 86400 ≤ s then ⟨t.date.next, (s - 86400).toNat, t.nanos⟩
  else ⟨t.date, s.toNat, t.nanos⟩

/-- Reads a point in time from the whole of a text. -/
def read? (cs : List Char) : Option Timestamp := do
  let (year, cs) ← readYear cs
  let cs ← readMark '-' cs
  let (month, cs) ← readNumber 2 cs
  let cs ← readMark '-' cs
  let (day, cs) ← readNumber 2 cs
  let mark :: cs := cs | none
  guard (isSeparator mark)
  let (hour, cs) ← readNumber 2 cs
  let cs ← readMark ':' cs
  let (minute, cs) ← readNumber 2 cs
  let cs ← readMark ':' cs
  let (second, cs) ← readNumber 2 cs
  let (nanos, cs) ← readFraction cs
  let (offset, cs) ← readOffset (trimStart cs)
  guard (trimStart cs).isEmpty
  let date : Date := ⟨year, month, day⟩
  guard (date.isValid && hour ≤ 23 && minute ≤ 59 && second ≤ 60)
  guard (offset.natAbs < 24 * 60)
  let leap := second / 60
  let t := shift ⟨date, 3600 * hour + 60 * minute + (second - leap), nanos + 1000000000 * leap⟩
    offset
  guard (Date.inRange t.date.year)
  return t

end Timestamp
end TargetControl
