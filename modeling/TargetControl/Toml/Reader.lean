import TargetControl.Time.Timestamp
import TargetControl.Toml.Table

/-!
Reading TOML documents.

A document is read line by line into tables.  Its value is a tree in which a date or time is an
object with a single member that holds its text.  Any departure from the format makes the whole
document unreadable, so the readers here give nothing where they fail.
-/

namespace TargetControl
namespace Toml

/-! ## Characters -/

def isBlank (c : Char) : Bool := c = ' ' || c = '\t'

def skipBlanks (cs : List Char) : List Char := cs.dropWhile isBlank

def isKeyChar (c : Char) : Bool :=
  let n := c.toNat
  Digits.isDecimal c || (65 ≤ n && n ≤ 90) || (97 ≤ n && n ≤ 122) || c = '-' || c = '_'

/-- The characters of comments: the tab and everything from the space on but the delete
character. -/
def isPlain (c : Char) : Bool := c = '\t' || (32 ≤ c.toNat && c.toNat ≠ 127)

/-- Reads the end of a line. -/
def newline? : List Char → Option (List Char)
  | '\n' :: rest => some rest
  | '\r' :: '\n' :: rest => some rest
  | _ => none

def skipComment : List Char → List Char
  | '#' :: rest => rest.dropWhile isPlain
  | cs => cs

/-- Reads what may follow on a line: blanks, a comment, and the end of the line or document. -/
def lineEnd (cs : List Char) : Option (List Char) :=
  match skipComment (skipBlanks cs) with
  | [] => some []
  | rest => newline? rest

/-- Skips blanks, comments and line ends. -/
def skipSpace : Nat → List Char → List Char
  | 0, cs => cs
  | fuel + 1, cs =>
    match cs with
    | '#' :: rest => skipSpace fuel (rest.dropWhile isPlain)
    | c :: rest =>
      if isBlank c then skipSpace fuel rest
      else
        match newline? (c :: rest) with
        | some rest => skipSpace fuel rest
        | none => c :: rest
    | [] => []

/-! ## Texts -/

/-- Reads a code point of the given number of hexadecimal digits. -/
def codePoint (width : Nat) (cs : List Char) : Option (Char × List Char) := do
  let digits := cs.take width
  guard (digits.length = width)
  let values ← digits.mapM Digits.hexValue?
  let n := values.foldl (fun n d => 16 * n + d) 0
  guard (n < 0xD800 || (0xE000 ≤ n && n < 0x110000))
  return (Char.ofNat n, cs.drop width)

/-- Reads the rest of an escape. -/
def escaped : List Char → Option (Char × List Char)
  | 'b' :: rest => some (Char.ofNat 8, rest)
  | 'f' :: rest => some (Char.ofNat 12, rest)
  | 'n' :: rest => some ('\n', rest)
  | 'r' :: rest => some ('\r', rest)
  | 't' :: rest => some ('\t', rest)
  | '"' :: rest => some ('"', rest)
  | '\\' :: rest => some ('\\', rest)
  | 'u' :: rest => codePoint 4 rest
  | 'U' :: rest => codePoint 8 rest
  | _ => none

/-- Reads the rest of a basic text.  `done` holds the characters so far, the last in front. -/
def basicText : Nat → List Char → List Char → Option (String × List Char)
  | 0, _, _ => none
  | fuel + 1, cs, done =>
    match cs with
    | '"' :: rest => some (String.ofList done.reverse, rest)
    | '\\' :: rest => do
      let (c, rest) ← escaped rest
      basicText fuel rest (c :: done)
    | c :: rest => if isPlain c then basicText fuel rest (c :: done) else none
    | [] => none

/-- Reads the rest of a literal text. -/
def literalText (cs : List Char) : Option (String × List Char) :=
  match cs.dropWhile fun c => c ≠ '\'' && isPlain c with
  | '\'' :: rest => some (String.ofList (cs.takeWhile fun c => c ≠ '\'' && isPlain c), rest)
  | _ => none

/-- Skips blanks and line ends. -/
def skipLines : Nat → List Char → List Char
  | 0, cs => cs
  | fuel + 1, cs =>
    match cs with
    | c :: rest =>
      if isBlank c then skipLines fuel rest
      else
        match newline? (c :: rest) with
        | some rest => skipLines fuel rest
        | none => c :: rest
    | [] => []

/-- Reads the rest of a text of several lines that ends with three marks.  Up to two marks may
stand in front of the closing ones.  In a basic text the mark is the quotation mark and a backslash
begins an escape or, at the end of a line, joins the lines. -/
def longText (mark : Char) (basic : Bool) : Nat → List Char → List Char →
    Option (String × List Char)
  | 0, _, _ => none
  | fuel + 1, cs, done =>
    match cs with
    | [] => none
    | c :: rest =>
      if c = mark then
        let run := (cs.takeWhile (· = mark)).length
        if run < 3 then longText mark basic fuel rest (c :: done)
        else
          let run := min run 5
          some (String.ofList (List.replicate (run - 3) mark ++ done).reverse, cs.drop run)
      else if basic && c = '\\' then
        match newline? (skipBlanks rest) with
        | some rest => longText mark basic fuel (skipLines rest.length rest) done
        | none => do
          let (c, rest) ← escaped rest
          longText mark basic fuel rest (c :: done)
      else
        match newline? (c :: rest) with
        | some rest => longText mark basic fuel rest ('\n' :: done)
        | none => if isPlain c then longText mark basic fuel rest (c :: done) else none

/-- The text behind the opening marks of a text of several lines, without a first line end. -/
def skipFirstLineEnd (cs : List Char) : List Char := (newline? cs).getD cs

/-- Reads a text of any of the four kinds. -/
def anyText (cs : List Char) : Option (String × List Char) :=
  match cs with
  | '"' :: '"' :: '"' :: rest => longText '"' true (rest.length + 1) (skipFirstLineEnd rest) []
  | '"' :: rest => basicText (rest.length + 1) rest []
  | '\'' :: '\'' :: '\'' :: rest =>
    longText '\'' false (rest.length + 1) (skipFirstLineEnd rest) []
  | '\'' :: rest => literalText rest
  | _ => none

/-! ## Keys -/

/-- How deep values and keys may be nested. -/
def depthLimit : Nat := 80

def simpleKey (cs : List Char) : Option (String × List Char) :=
  match cs with
  | '"' :: rest => basicText (rest.length + 1) rest []
  | '\'' :: rest => literalText rest
  | _ =>
    match cs.takeWhile isKeyChar with
    | [] => none
    | key => some (String.ofList key, cs.dropWhile isKeyChar)

/-- Reads keys with dots between them. -/
def dottedKeys : Nat → List Char → Option (List String × List Char)
  | 0, _ => none
  | fuel + 1, cs => do
    let (key, rest) ← simpleKey (skipBlanks cs)
    match skipBlanks rest with
    | '.' :: rest => do
      let (keys, rest) ← dottedKeys fuel rest
      return (key :: keys, rest)
    | rest => return ([key], rest)

/-- Reads a key, as its parts. -/
def keyPath (cs : List Char) : Option (List String × List Char) := do
  let (keys, rest) ← dottedKeys (cs.length + 1) cs
  guard (keys.length < depthLimit)
  return (keys, rest)

/-! ## Numbers -/

/-- Reads digits with single underscores between them; the underscores are dropped. -/
def digitRun (isDigit : Char → Bool) : Nat → List Char → Option (List Char × List Char)
  | 0, _ => none
  | fuel + 1, cs =>
    match cs with
    | c :: rest =>
      if isDigit c then
        match rest with
        | '_' :: more => do
          let (digits, rest) ← digitRun isDigit fuel more
          return (c :: digits, rest)
        | d :: more =>
          if isDigit d then do
            let (digits, rest) ← digitRun isDigit fuel (d :: more)
            return (c :: digits, rest)
          else some ([c], d :: more)
        | [] => some ([c], [])
      else none
    | [] => none

/-- Reads a sign, if there is one: whether it is a minus. -/
def sign : List Char → Bool × List Char
  | '-' :: rest => (true, rest)
  | '+' :: rest => (false, rest)
  | cs => (false, cs)

/-- Reads decimal digits with underscores. -/
def decimalRun (cs : List Char) : Option (List Char × List Char) :=
  digitRun Digits.isDecimal (cs.length + 1) cs

/-- Reads the whole part of a number: a zero, or digits that begin with another digit. -/
def wholePart (cs : List Char) : Option (List Char × List Char) :=
  match cs with
  | '0' :: rest => some (['0'], rest)
  | _ => decimalRun cs

/-- A whole number as a value, if it has sixty-four bits. -/
def wholeNumber (n : Int) : Option Json :=
  if -9223372036854775808 ≤ n ∧ n ≤ 9223372036854775807 then some (.number (.integer n)) else none

/-- Reads the digits of a number in another base. -/
def basedNumber (base : Nat) (cs : List Char) : Option (Json × List Char) := do
  let isDigit (c : Char) : Bool :=
    match Digits.hexValue? c with
    | some d => d < base
    | none => false
  let (digits, rest) ← digitRun isDigit (cs.length + 1) cs
  let n := digits.foldl (fun n c => base * n + (Digits.hexValue? c).getD 0) 0
  return (← wholeNumber n, rest)

def exponentPart (cs : List Char) : Option (Option Int × List Char) :=
  match cs with
  | 'e' :: rest | 'E' :: rest => do
    let (down, rest) := sign rest
    let (digits, rest) ← decimalRun rest
    let e : Int := Digits.ofDecimal digits
    return (some (if down then -e else e), rest)
  | _ => some (none, cs)

/-- A double from its decimal digits.  One that is too large has no value, though its negative
has. -/
def realNumber (neg : Bool) (digits : List Char) (e : Int) : Option Json :=
  let x := Binary64.ofDecimal neg (Digits.ofDecimal digits) e
  if x = Binary64.infinity false then none else some (.number (.real x))

def decimalNumber (cs : List Char) : Option (Json × List Char) := do
  let (neg, rest) := sign cs
  let (whole, rest) ← wholePart rest
  match rest with
  | '.' :: rest => do
    let (fraction, rest) ← decimalRun rest
    let (e, rest) ← exponentPart rest
    return (← realNumber neg (whole ++ fraction) (e.getD 0 - fraction.length), rest)
  | _ => do
    let (e, rest) ← exponentPart rest
    match e with
    | some e => return (← realNumber neg whole e, rest)
    | none =>
      let n : Int := Digits.ofDecimal whole
      return (← wholeNumber (if neg then -n else n), rest)

/-- Reads infinity or a number that is none. -/
def specialNumber (cs : List Char) : Option (Json × List Char) :=
  let (neg, rest) := sign cs
  match rest with
  | 'i' :: 'n' :: 'f' :: rest => some (.number (.real (Binary64.infinity neg)), rest)
  | 'n' :: 'a' :: 'n' :: rest => some (.number (.real Binary64.nan), rest)
  | _ => none

/-! ## Dates and times -/

/-- Reads exactly so many digits. -/
def fixedDigits (width : Nat) (cs : List Char) : Option (Nat × List Char) :=
  let digits := cs.take width
  if digits.length = width && digits.all Digits.isDecimal then
    some (Digits.ofDecimal digits, cs.drop width)
  else none

/-- Reads two digits of a number in a range. -/
def pairIn (least greatest : Nat) (cs : List Char) : Option (Nat × List Char) := do
  let (n, rest) ← fixedDigits 2 cs
  guard (least ≤ n && n ≤ greatest)
  return (n, rest)

/-- Reads a given character. -/
def mark (c : Char) : List Char → Option (List Char)
  | d :: rest => if d = c then some rest else none
  | [] => none

/-- Reads a date: its text, and what follows. -/
def date (cs : List Char) : Option (List Char × List Char) := do
  let (year, rest) ← fixedDigits 4 cs
  let rest ← mark '-' rest
  let (month, rest) ← pairIn 1 12 rest
  let rest ← mark '-' rest
  let (day, rest) ← pairIn 1 31 rest
  guard (day ≤ Date.daysIn year month)
  return (Digits.padded 4 year ++ '-' :: Digits.padded 2 month ++ '-' :: Digits.padded 2 day, rest)

/-- The fraction of a second as it is kept: nine digits at most, without zeros at the end. -/
def keptFraction (digits : List Char) : List Char :=
  match ((digits.take 9).reverse.dropWhile (· = '0')).reverse with
  | [] => []
  | kept => '.' :: kept

/-- Reads a time of day: its text, and what follows. -/
def time (cs : List Char) : Option (List Char × List Char) := do
  let (hour, rest) ← pairIn 0 23 cs
  let rest ← mark ':' rest
  let (minute, rest) ← pairIn 0 59 rest
  let rest ← mark ':' rest
  let (second, rest) ← pairIn 0 60 rest
  let text := Digits.padded 2 hour ++ ':' :: Digits.padded 2 minute ++ ':' :: Digits.padded 2 second
  match rest with
  | '.' :: more =>
    match more.takeWhile Digits.isDecimal with
    | [] => return (text, rest)
    | digits => return (text ++ keptFraction digits, more.dropWhile Digits.isDecimal)
  | _ => return (text, rest)

/-- Reads the hours and minutes of an offset: its text, and what follows. -/
def offsetDigits (neg : Bool) (cs : List Char) : Option (List Char × List Char) := do
  let (hours, rest) ← pairIn 0 23 cs
  let rest ← mark ':' rest
  let (minutes, rest) ← pairIn 0 59 rest
  let sign := if neg && 0 < hours + minutes then '-' else '+'
  return (sign :: Digits.padded 2 hours ++ ':' :: Digits.padded 2 minutes, rest)

def offset (cs : List Char) : Option (List Char × List Char) :=
  match cs with
  | 'Z' :: rest | 'z' :: rest => some (['Z'], rest)
  | '+' :: rest => offsetDigits false rest
  | '-' :: rest => offsetDigits true rest
  | _ => some ([], cs)

/-- The value of a date or time. -/
def moment (text : List Char) : Json :=
  .object [("$__toml_private_datetime", .string (String.ofList text))]

/-- Whether a time stands behind a date: a separator and two digits of an hour with a colon. -/
def timeFollows : List Char → Option (List Char)
  | c :: rest =>
    if c = 'T' || c = 't' || c = ' ' then
      match pairIn 0 23 rest with
      | some (_, ':' :: _) => some rest
      | _ => none
    else none
  | [] => none

def dateTime (cs : List Char) : Option (Json × List Char) :=
  match cs with
  | _ :: _ :: ':' :: _ => do
    let (text, rest) ← time cs
    return (moment text, rest)
  | _ => do
    let (day, rest) ← date cs
    match timeFollows rest with
    | none => return (moment day, rest)
    | some rest => do
      let (clock, rest) ← time rest
      let (zone, rest) ← offset rest
      return (moment (day ++ 'T' :: clock ++ zone), rest)

/-- Whether digits begin a date or time rather than a number. -/
def looksLikeMoment : List Char → Bool
  | a :: b :: ':' :: _ => Digits.isDecimal a && Digits.isDecimal b
  | a :: b :: c :: d :: '-' :: _ => [a, b, c, d].all Digits.isDecimal
  | _ => false

/-- Reads a number, a date or a time. -/
def numberOrMoment (cs : List Char) : Option (Json × List Char) :=
  if looksLikeMoment cs then dateTime cs
  else
    match cs with
    | '0' :: 'x' :: rest => basedNumber 16 rest
    | '0' :: 'o' :: rest => basedNumber 8 rest
    | '0' :: 'b' :: rest => basedNumber 2 rest
    | _ =>
      match (sign cs).2 with
      | 'i' :: _ | 'n' :: _ => specialNumber cs
      | _ => decimalNumber cs

/-! ## Values -/

mutual

/-- Reads a value.  `depth` counts the arrays and inline tables around it. -/
def value : Nat → Nat → List Char → Option (Json × List Char)
  | 0, _, _ => none
  | fuel + 1, depth, cs =>
    match cs with
    | '"' :: _ | '\'' :: _ => (anyText cs).map fun (s, rest) => (.string s, rest)
    | '[' :: rest =>
      if depth + 1 < depthLimit then do
        let (items, rest) ← arrayItems fuel (depth + 1) (skipSpace rest.length rest)
        return (.array items, rest)
      else none
    | '{' :: rest =>
      if depth + 1 < depthLimit then
        match skipBlanks rest with
        | '}' :: rest => some (.object [], rest)
        | _ => do
          let (items, rest) ← inlineItems fuel (depth + 1) [] rest
          return (.object (Node.itemsToJson items), rest)
      else none
    | 't' :: 'r' :: 'u' :: 'e' :: rest => some (.bool true, rest)
    | 'f' :: 'a' :: 'l' :: 's' :: 'e' :: rest => some (.bool false, rest)
    | 'i' :: _ | 'n' :: _ => specialNumber cs
    | c :: _ =>
      if Digits.isDecimal c || c = '+' || c = '-' then numberOrMoment cs else none
    | [] => none

/-- Reads the items of an array and its closing bracket. -/
def arrayItems : Nat → Nat → List Char → Option (List Json × List Char)
  | 0, _, _ => none
  | fuel + 1, depth, cs =>
    match cs with
    | ']' :: rest => some ([], rest)
    | _ => do
      let (v, rest) ← value fuel depth cs
      match skipSpace rest.length rest with
      | ',' :: rest => do
        let (items, rest) ← arrayItems fuel depth (skipSpace rest.length rest)
        return (v :: items, rest)
      | ']' :: rest => return ([v], rest)
      | _ => none

/-- Reads the members of an inline table and its closing brace. -/
def inlineItems : Nat → Nat → Items → List Char → Option (Items × List Char)
  | 0, _, _, _ => none
  | fuel + 1, depth, items, cs => do
    let (keys, rest) ← keyPath cs
    let (front, key) ← Draft.splitLast keys
    let rest ← mark '=' rest
    let (v, rest) ← value fuel depth (skipBlanks rest)
    let items ← items.assign front key v
    match skipBlanks rest with
    | ',' :: rest => inlineItems fuel depth items rest
    | '}' :: rest => some (items, rest)
    | _ => none

end

/-! ## Documents -/

/-- Reads a header behind its opening bracket. -/
def header (d : Draft) (cs : List Char) : Option (Draft × List Char) :=
  match cs with
  | '[' :: rest => do
    let (keys, rest) ← keyPath rest
    let rest ← mark ']' rest
    let rest ← mark ']' rest
    let rest ← lineEnd rest
    return (← d.openElement keys, rest)
  | _ => do
    let (keys, rest) ← keyPath cs
    let rest ← mark ']' rest
    let rest ← lineEnd rest
    return (← d.openTable keys, rest)

/-- Reads a line with a key and its value. -/
def assignment (d : Draft) (cs : List Char) : Option (Draft × List Char) := do
  let (keys, rest) ← keyPath cs
  let (front, key) ← Draft.splitLast keys
  let rest ← mark '=' rest
  let rest := skipBlanks rest
  let (v, rest) ← value (2 * rest.length + 2) 0 rest
  let rest ← lineEnd rest
  return (← d.assign front key v, rest)

/-- Reads the lines of a document. -/
def lines : Nat → Draft → List Char → Option Draft
  | 0, _, _ => none
  | fuel + 1, d, cs =>
    match skipBlanks cs with
    | [] => some d
    | '#' :: rest => do
      let rest ← lineEnd ('#' :: rest)
      lines fuel d rest
    | '[' :: rest => do
      let (d, rest) ← header d rest
      lines fuel d rest
    | c :: rest =>
      if c = '\n' || c = '\r' then do
        let rest ← newline? (c :: rest)
        lines fuel d rest
      else do
        let (d, rest) ← assignment d (c :: rest)
        lines fuel d rest

/-- Reads a whole document, after a byte order mark if there is one. -/
def document (s : String) : Option Json := do
  let cs := match s.toList with
    | '\uFEFF' :: rest => rest
    | cs => cs
  let d ← lines (cs.length + 1) Draft.start cs
  let items ← d.close
  return .object (Node.itemsToJson items)

end Toml
end TargetControl
