/-!
Paths as texts.

A path is a text with slashes between its segments.  Empty segments and single dots carry no
meaning, except that a dot may begin a relative path.  `parent?` cuts a path behind the segment
before the last one that counts; `join` continues a path with another, which takes over when it
begins at the root.
-/

namespace TargetControl
namespace Path

/-- The segments of a path, the empty ones among them. -/
def segments : List Char → List (List Char)
  | [] => [[]]
  | c :: rest =>
    if c = '/' then [] :: segments rest
    else
      match segments rest with
      | [] => [[c]]
      | first :: others => (c :: first) :: others

def counts (segment : List Char) : Bool := !(segment = [] || segment = ['.'])

/-- Whether a path begins at the root. -/
def isAbsolute : List Char → Bool
  | '/' :: _ => true
  | _ => false

/-- The front of a path that is no segment: the slash of the root, or a dot by itself. -/
def head (path : List Char) : List Char :=
  match path with
  | '/' :: _ => ['/']
  | ['.'] => ['.']
  | '.' :: '/' :: _ => ['.']
  | _ => []

/-- Drops from the back of a reversed path up to the end of a segment that counts. -/
def dropIdle : Nat → List Char → List Char
  | 0, reversed => reversed
  | fuel + 1, reversed =>
    match reversed with
    | '/' :: rest => dropIdle fuel rest
    | ['.'] => []
    | '.' :: '/' :: rest => dropIdle fuel rest
    | _ => reversed

/-- The part of a path behind its head, without idle segments at the end. -/
def body (path : List Char) : List Char :=
  let rest := (path.drop (head path).length).reverse
  (dropIdle rest.length rest).reverse

/-- A path without its last segment, if it has one.  The dot at the front of a relative path is
its last segment when nothing else is left. -/
def parent? (path : List Char) : Option (List Char) :=
  match body path with
  | [] => if head path = ['.'] then some [] else none
  | rest =>
    let front := rest.reverse.dropWhile (· ≠ '/')
    some (head path ++ (dropIdle front.length front).reverse)

/-- A path continued with another. -/
def join (path other : List Char) : List Char :=
  if isAbsolute other then other
  else
    match path.getLast? with
    | none => other
    | some c => if c = '/' then path ++ other else path ++ '/' :: other

end Path
end TargetControl
