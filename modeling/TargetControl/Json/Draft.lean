import TargetControl.Json.Value

/-!
JSON texts read as far as they go.

`Draft.scan` reads any text whatever.  Where a text stops being JSON the tree records how it
stopped, and nothing after that place is in the tree.  A reader that walks the tree from left to
right therefore meets a fault of the text exactly when it comes to it, after it has judged
everything in front of it: a field of the wrong kind that stands before a missing bracket is
reported as a field of the wrong kind.

Values that are read and values that are only passed over have different rules: a number too large
for a double and an escape that names no character are faults of a value that is read, and no
faults of one that is passed over.
-/

namespace TargetControl
namespace Json

/-- How a text fails to be JSON. -/
inductive Flaw where
  /-- a character stands where it cannot -/
  | malformed
  /-- the text ends too early -/
  | truncated
deriving DecidableEq, Repr

/-- How the items of an array or the members of an object end. -/
inductive Ending where
  /-- with the closing bracket -/
  | closed
  /-- with a flaw in place of a comma or the closing bracket -/
  | broken (flaw : Flaw)
  /-- with a flaw after a comma -/
  | afterComma (flaw : Flaw)
deriving DecidableEq, Repr

/-- A JSON text as far as it could be read. -/
inductive Draft where
  | null
  | bool (b : Bool)
  | number (n : Number)
  /-- a number that overflows a double -/
  | overflow
  | string (s : String)
  /-- a text with an escape that names no character -/
  | unpaired
  | array (items : List Draft) (ending : Ending)
  | object (members : List (Draft × Draft)) (ending : Ending)
  /-- a text that breaks off, with the flaw for a reader and the flaw for one that passes over -/
  | brokenText (reading skipping : Flaw)
  /-- a word or number that breaks off, with the two flaws -/
  | brokenToken (reading skipping : Flaw)
  /-- the end of the text where a value should begin -/
  | missing
deriving Inhabited

/-! ## Blanks and words -/

/-- The blanks of JSON. -/
def isBlank (c : Char) : Bool := c = ' ' || c = '\n' || c = '\t' || c = '\r'

def skipBlanks (cs : List Char) : List Char := cs.dropWhile isBlank

/-- Reads the rest of a word: the text after it, or how the text differs. -/
def expectWord : List Char → List Char → Except Flaw (List Char)
  | [], cs => .ok cs
  | _ :: _, [] => .error .truncated
  | w :: word, c :: cs => if w = c then expectWord word cs else .error .malformed

/-! ## Texts -/

/-- The number of four hexadecimal digits in front of a text.  What has fewer than four bytes left
is cut off. -/
def hexQuad : List Char → Except Flaw (Nat × List Char)
  | a :: b :: c :: d :: rest =>
    match Digits.hexValue? a, Digits.hexValue? b, Digits.hexValue? c, Digits.hexValue? d with
    | some a, some b, some c, some d => .ok (((a * 16 + b) * 16 + c) * 16 + d, rest)
    | _, _, _, _ => .error .malformed
  | cs => if (String.ofList cs).utf8ByteSize < 4 then .error .truncated else .error .malformed

/-- What the front of the inside of a text is. -/
inductive TextStep where
  /-- the closing quotation mark -/
  | close (rest : List Char)
  /-- a character, escaped or not -/
  | char (c : Char) (rest : List Char)
  /-- an escape that names no character, with the flaw that a reader sees -/
  | unpaired (flaw : Flaw) (rest : List Char)
  /-- a flaw for every reader -/
  | stop (flaw : Flaw)

/-- A surrogate that should begin a pair, and the text after it. -/
def pairStep (high : Nat) (rest : List Char) : TextStep :=
  match rest with
  | '\\' :: 'u' :: more =>
    match hexQuad more with
    | .error flaw => .unpaired flaw rest
    | .ok (low, after) =>
      if 0xDC00 ≤ low ∧ low ≤ 0xDFFF then
        .char (Char.ofNat ((high - 0xD800) * 0x400 + (low - 0xDC00) + 0x10000)) after
      else .unpaired .malformed rest
  | [] | ['\\'] => .unpaired .truncated rest
  | _ => .unpaired .malformed rest

/-- The text after a backslash. -/
def escapeStep : List Char → TextStep
  | [] => .stop .truncated
  | '"' :: rest => .char '"' rest
  | '\\' :: rest => .char '\\' rest
  | '/' :: rest => .char '/' rest
  | 'b' :: rest => .char (Char.ofNat 8) rest
  | 'f' :: rest => .char (Char.ofNat 12) rest
  | 'n' :: rest => .char '\n' rest
  | 'r' :: rest => .char '\r' rest
  | 't' :: rest => .char '\t' rest
  | 'u' :: rest =>
    match hexQuad rest with
    | .error flaw => .stop flaw
    | .ok (n, rest) =>
      if 0xDC00 ≤ n ∧ n ≤ 0xDFFF then .unpaired .malformed rest
      else if 0xD800 ≤ n ∧ n ≤ 0xDBFF then pairStep n rest
      else .char (Char.ofNat n) rest
  | _ :: _ => .stop .malformed

/-- The front of the inside of a text. -/
def textStep : List Char → TextStep
  | [] => .stop .truncated
  | '"' :: rest => .close rest
  | '\\' :: rest => escapeStep rest
  | c :: rest => if c.toNat < 32 then .stop .malformed else .char c rest

/-- Reads the inside of a text.  `done` holds the characters so far, the last in front, and `flaw`
the first flaw that a reader has met. -/
def scanText : Nat → List Char → List Char → Option Flaw → Draft × Option (List Char)
  | 0, _, _, _ => (.brokenText .malformed .malformed, none)
  | fuel + 1, cs, done, flaw =>
    match textStep cs with
    | .close rest =>
      match flaw with
      | none => (.string (String.ofList done.reverse), some rest)
      | some _ => (.unpaired, some rest)
    | .char c rest => scanText fuel rest (c :: done) flaw
    | .unpaired f rest => scanText fuel rest done (flaw <|> some f)
    | .stop f => (.brokenText (flaw.getD f) f, none)

/-! ## Numbers -/

/-- The largest significand that is kept exactly. -/
def significandLimit : Nat := UInt64.size

/-- Takes digits into a significand as long as it stays below the limit: the significand and the
digits that are left. -/
def gather : Nat → List Char → Nat × List Char
  | n, [] => (n, [])
  | n, c :: cs =>
    if 10 * n + Digits.value c < significandLimit then gather (10 * n + Digits.value c) cs
    else (n, c :: cs)

/-- The double `n * 10 ^ e` in at most four rounded steps: one power of ten from the table
`1e0, …, 1e308` at a time.  Nothing when it overflows. -/
def scaleDouble : Nat → Binary64 → Int → Option Binary64
  | 0, x, _ => some x
  | fuel + 1, x, e =>
    if e.natAbs ≤ 308 then
      let power := Binary64.ofDecimal false 1 e.natAbs
      let y := if 0 ≤ e then x.times power else x.dividedBy power
      if y.isFinite then some y else none
    else if x.isZero then some x
    else if 0 ≤ e then none
    else scaleDouble fuel (x.dividedBy (Binary64.ofDecimal false 1 308)) (e + 308)

/-- A double from its sign, significand and decimal exponent. -/
def realNumber (neg : Bool) (n : Nat) (e : Int) : Draft :=
  match scaleDouble 4 (Binary64.ofNat n) e with
  | none => .overflow
  | some x => .number (.real (if neg then x.negate else x))

/-- The value of a number from its digits in front of the point, behind it, and the exponent with
its sign. -/
def numberOf (neg : Bool) (whole : List Char) (fraction : Option (List Char))
    (exponent : Option (Bool × List Char)) : Draft :=
  let (n, skipped) := gather 0 whole
  match fraction, exponent with
  | none, none =>
    if skipped ≠ [] then realNumber neg n skipped.length
    else if neg then
      if n = 0 ∨ Nat.pow 2 63 < n then .number (.real (Binary64.ofNat n).negate)
      else .number (.integer (-(n : Int)))
    else .number (.integer n)
  | _, _ =>
    let behind := fraction.getD []
    let (n, unused) := gather n behind
    let start : Int := (skipped.length : Int) - ((behind.length - unused.length : Nat) : Int)
    match exponent with
    | none => realNumber neg n start
    | some (down, digits) =>
      let e := Digits.ofDecimal digits
      if e < Nat.pow 2 31 then realNumber neg n (if down then start - e else start + e)
      else if n ≠ 0 ∧ !down then .overflow
      else .number (.real (if neg then (Binary64.ofNat 0).negate else Binary64.ofNat 0))

/-- What is wrong where a digit should stand. -/
def wantDigit (rest : List Char) : Draft × Option (List Char) :=
  (.brokenToken (if rest.isEmpty then .truncated else .malformed) .malformed, none)

/-- Reads the exponent of a number. -/
def scanExponent (neg : Bool) (whole : List Char) (fraction : Option (List Char))
    (cs : List Char) : Draft × Option (List Char) :=
  let (down, cs) := match cs with
    | '+' :: rest => (false, rest)
    | '-' :: rest => (true, rest)
    | rest => (false, rest)
  match cs.takeWhile Digits.isDecimal with
  | [] => wantDigit cs
  | digits =>
    (numberOf neg whole fraction (some (down, digits)), some (cs.dropWhile Digits.isDecimal))

/-- Reads a number behind its fraction. -/
def scanAfterFraction (neg : Bool) (whole : List Char) (fraction : Option (List Char))
    (cs : List Char) : Draft × Option (List Char) :=
  match cs with
  | 'e' :: rest | 'E' :: rest => scanExponent neg whole fraction rest
  | _ => (numberOf neg whole fraction none, some cs)

/-- Reads a number behind its whole part. -/
def scanAfterWhole (neg : Bool) (whole : List Char) (cs : List Char) :
    Draft × Option (List Char) :=
  match cs with
  | '.' :: rest =>
    match rest.takeWhile Digits.isDecimal with
    | [] => wantDigit rest
    | digits => scanAfterFraction neg whole (some digits) (rest.dropWhile Digits.isDecimal)
  | _ => scanAfterFraction neg whole none cs

/-- Reads a number behind its sign.  A zero in front stands alone. -/
def scanNumber (neg : Bool) (cs : List Char) : Draft × Option (List Char) :=
  match cs.takeWhile Digits.isDecimal with
  | [] => wantDigit cs
  | '0' :: _ :: _ => (.brokenToken .malformed .malformed, none)
  | whole => scanAfterWhole neg whole (cs.dropWhile Digits.isDecimal)

/-! ## Values -/

/-- Reads the rest of a word that stands for a value. -/
def scanWord (word : List Char) (value : Draft) (cs : List Char) : Draft × Option (List Char) :=
  match expectWord word cs with
  | .ok rest => (value, some rest)
  | .error flaw => (.brokenToken flaw flaw, none)

mutual

/-- Reads a value: the tree, and the text after the value when it could be read whole. -/
def scanValue : Nat → List Char → Draft × Option (List Char)
  | 0, _ => (.brokenToken .malformed .malformed, none)
  | fuel + 1, cs =>
    match skipBlanks cs with
    | [] => (.missing, none)
    | '"' :: rest => scanText (rest.length + 1) rest [] none
    | '[' :: rest =>
      match skipBlanks rest with
      | [] => (.array [] (.broken .truncated), none)
      | ']' :: after => (.array [] .closed, some after)
      | _ =>
        let (items, ending, after) := scanItems fuel rest
        (.array items ending, after)
    | '{' :: rest =>
      match skipBlanks rest with
      | [] => (.object [] (.broken .truncated), none)
      | '}' :: after => (.object [] .closed, some after)
      | _ =>
        let (members, ending, after) := scanMembers fuel rest
        (.object members ending, after)
    | 'n' :: rest => scanWord ['u', 'l', 'l'] .null rest
    | 't' :: rest => scanWord ['r', 'u', 'e'] (.bool true) rest
    | 'f' :: rest => scanWord ['a', 'l', 's', 'e'] (.bool false) rest
    | '-' :: rest => scanNumber true rest
    | c :: rest =>
      if Digits.isDecimal c then scanNumber false (c :: rest)
      else (.brokenToken .malformed .malformed, none)

/-- Reads an item and what follows it in an array. -/
def scanItems : Nat → List Char → List Draft × Ending × Option (List Char)
  | 0, _ => ([], .broken .malformed, none)
  | fuel + 1, cs =>
    match scanValue fuel cs with
    | (item, none) => ([item], .broken .malformed, none)
    | (item, some rest) =>
      match skipBlanks rest with
      | [] => ([item], .broken .truncated, none)
      | ']' :: after => ([item], .closed, some after)
      | ',' :: rest =>
        match skipBlanks rest with
        | [] => ([item], .afterComma .truncated, none)
        | ']' :: _ => ([item], .afterComma .malformed, none)
        | _ =>
          let (items, ending, after) := scanItems fuel rest
          (item :: items, ending, after)
      | _ => ([item], .broken .malformed, none)

/-- Reads a member and what follows it in an object. -/
def scanMembers : Nat → List Char → List (Draft × Draft) × Ending × Option (List Char)
  | 0, _ => ([], .broken .malformed, none)
  | fuel + 1, cs =>
    match scanValue fuel cs with
    | (key, none) => ([(key, .missing)], .broken .malformed, none)
    | (key, some rest) =>
      match skipBlanks rest with
      | [] => ([(key, .missing)], .broken .truncated, none)
      | ':' :: rest =>
        match scanValue fuel rest with
        | (value, none) => ([(key, value)], .broken .malformed, none)
        | (value, some rest) =>
          match skipBlanks rest with
          | [] => ([(key, value)], .broken .truncated, none)
          | '}' :: after => ([(key, value)], .closed, some after)
          | ',' :: rest =>
            match skipBlanks rest with
            | [] => ([(key, value)], .afterComma .truncated, none)
            | '}' :: _ => ([(key, value)], .afterComma .malformed, none)
            | _ =>
              let (members, ending, after) := scanMembers fuel rest
              ((key, value) :: members, ending, after)
          | _ => ([(key, value)], .broken .malformed, none)
      | _ => ([(key, .brokenToken .malformed .malformed)], .broken .malformed, none)

end

/-- A text as one value and what follows it. -/
structure Document where
  root : Draft
  /-- whether nothing but blanks follows the value -/
  complete : Bool

def scan (cs : List Char) : Document :=
  match scanValue (2 * cs.length + 2) cs with
  | (root, none) => ⟨root, true⟩
  | (root, some rest) => ⟨root, (skipBlanks rest).isEmpty⟩

/-! ## Trees from drafts and drafts from trees -/

namespace Draft

/-- The flaw of a draft that a reader meets at once, without looking inside brackets. -/
def flaw? : Draft → Option Flaw
  | .overflow | .unpaired => some .malformed
  | .brokenText reading _ | .brokenToken reading _ => some reading
  | .missing => some .truncated
  | _ => none

/-- The text of a key.  A key that is no text is malformed however it goes on. -/
def key : Draft → Except Flaw String
  | .string s => .ok s
  | .brokenText reading _ => .error reading
  | _ => .error .malformed

end Draft

/-- What a reader that has used up all the items does with the ending. -/
def Ending.finish : Ending → Except Flaw Unit
  | .closed => .ok ()
  | .broken flaw | .afterComma flaw => .error flaw

mutual

/-- The value of a draft.  `room` is how many brackets may still be opened inside one another. -/
def Draft.read : Nat → Draft → Except Flaw Json
  | _, .null => .ok .null
  | _, .bool b => .ok (.bool b)
  | _, .number n => .ok (.number n)
  | _, .string s => .ok (.string s)
  | room, .array items ending =>
    if room = 0 then .error .malformed
    else (Draft.readItems (room - 1) items ending).map .array
  | room, .object members ending =>
    if room = 0 then .error .malformed
    else (Draft.readMembers (room - 1) members ending).map .object
  | _, .overflow => .error .malformed
  | _, .unpaired => .error .malformed
  | _, .brokenText reading _ => .error reading
  | _, .brokenToken reading _ => .error reading
  | _, .missing => .error .truncated

def Draft.readItems : Nat → List Draft → Ending → Except Flaw (List Json)
  | _, [], ending => ending.finish.map fun _ => []
  | room, d :: rest, ending => do
    let x ← Draft.read room d
    let xs ← Draft.readItems room rest ending
    return x :: xs

def Draft.readMembers : Nat → List (Draft × Draft) → Ending → Except Flaw (List (String × Json))
  | _, [], ending => ending.finish.map fun _ => []
  | room, (k, d) :: rest, ending => do
    let key ← k.key
    let x ← Draft.read room d
    let xs ← Draft.readMembers room rest ending
    return (key, x) :: xs

end

mutual

/-- Passes over a draft: the first flaw that does not depend on the value. -/
def Draft.skip : Draft → Except Flaw Unit
  | .array items ending => Draft.skipItems items ending
  | .object members ending => Draft.skipMembers members ending
  | .brokenText _ skipping => .error skipping
  | .brokenToken _ skipping => .error skipping
  | .missing => .error .truncated
  | _ => .ok ()

def Draft.skipItems : List Draft → Ending → Except Flaw Unit
  | [], ending => ending.finish
  | d :: rest, ending => do
    Draft.skip d
    Draft.skipItems rest ending

def Draft.skipMembers : List (Draft × Draft) → Ending → Except Flaw Unit
  | [], ending => ending.finish
  | (.string _, d) :: rest, ending | (.unpaired, d) :: rest, ending => do
    Draft.skip d
    Draft.skipMembers rest ending
  | (.brokenText _ skipping, _) :: _, _ => .error skipping
  | (_, _) :: _, _ => .error .malformed

end

mutual

/-- A value as a draft without flaws. -/
def Draft.ofJson : Json → Draft
  | .null => .null
  | .bool b => .bool b
  | .number n => .number n
  | .string s => .string s
  | .array items => .array (Draft.ofItems items) .closed
  | .object members => .object (Draft.ofMembers members) .closed

def Draft.ofItems : List Json → List Draft
  | [] => []
  | x :: rest => Draft.ofJson x :: Draft.ofItems rest

def Draft.ofMembers : List (String × Json) → List (Draft × Draft)
  | [] => []
  | (k, v) :: rest => (.string k, Draft.ofJson v) :: Draft.ofMembers rest

end

/-- How many brackets may stand inside one another in a text that is read. -/
def depthLimit : Nat := 127

def ofText (s : String) : Except Flaw Json := do
  let document := scan s.toList
  let value ← document.root.read depthLimit
  if document.complete then return value else throw .malformed

end Json
end TargetControl
