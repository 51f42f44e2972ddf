import TargetControl.Decode.Cause

/-!
Reading single values and named alternatives from a draft.

A value comes either straight from a text or from a tree that was read before it was known what it
is for.  The two differ where an alternative is asked for: in a text anything but a quotation mark
or a brace is malformed, in a tree it is a value of the wrong type.
-/

namespace TargetControl
namespace Decode

open Json (Draft Ending Flaw)

/-- Where a value comes from. -/
inductive Source where
  /-- straight from a text -/
  | text
  /-- from a complete tree -/
  | tree
deriving DecidableEq, Repr

/-- How many brackets may be opened inside a field of a record at the top of a source.  A tree has
been read before, so its depth has no bound of its own. -/
def Source.room : Source → Nat
  | .text => Json.depthLimit - 1
  | .tree => 1000000

/-- The failure for a value of the wrong type.  A flaw in the value itself comes first. -/
def wrongType {α : Type} (expected : String) : Draft → Result α
  | .null => unfit (.invalidType .null expected)
  | .bool b => unfit (.invalidType (.boolean b) expected)
  | .number n => unfit (.invalidType (.number n) expected)
  | .string s => unfit (.invalidType (.text s) expected)
  | .array .. => unfit (.invalidType .sequence expected)
  | .object .. => unfit (.invalidType .map expected)
  | .overflow | .unpaired => flawed .malformed
  | .brokenText reading _ | .brokenToken reading _ => flawed reading
  | .missing => flawed .truncated

/-- Reads a truth value. -/
def bool : Draft → Result Bool
  | .bool b => .ok b
  | d => wrongType "a boolean" d

def text (expected : String) : Draft → Result String
  | .string s => .ok s
  | d => wrongType expected d

/-- Reads a natural number of the given number of bits. -/
def unsigned (bits : Nat) (expected : String) : Draft → Result Nat
  | .number (.integer n) =>
    if 0 ≤ n ∧ n < Nat.pow 2 bits then .ok n.toNat
    else unfit (.invalidValue (.number (.integer n)) expected)
  | d => wrongType expected d

/-- Reads null as nothing and anything else as something. -/
def optional {α : Type} (read : Draft → Result α) : Draft → Result (Option α)
  | .null => .ok none
  | d => (read d).map some

/-- The items of a sequence. -/
def sequence {α : Type} (read : Draft → Result α) : List Draft → Ending → Result (List α)
  | [], ending => (lift ending.finish).map fun _ => []
  | d :: rest, ending => do
    let x ← read d
    let xs ← sequence read rest ending
    return x :: xs

/-- Reads a sequence. -/
def list {α : Type} (read : Draft → Result α) : Draft → Result (List α)
  | .array items ending => sequence read items ending
  | d => wrongType "a sequence" d

/-- Looks up the name of an alternative. -/
def lookup {α : Type} (name : α → String) (all : List α) (given : String) : Result α :=
  match all.find? fun a => name a = given with
  | some a => .ok a
  | none => unfit (.unknownVariant given (all.map name))

/-- Reads the name of an alternative and nothing else. -/
def identifier {α : Type} (name : α → String) (all : List α) : Draft → Result α
  | .string s => lookup name all s
  | d => wrongType "variant identifier" d

/-- Reads the empty value beside the name of an alternative.  In a tree an empty object will do. -/
def unit (source : Source) : Draft → Result Unit
  | .null => .ok ()
  | .object [] .closed =>
    if source = .tree then .ok () else unfit (.invalidType .map "unit")
  | d => wrongType "unit" d

/-- What follows the only member of an object that stands for an alternative. -/
def onlyMember {α : Type} (value : α) (rest : List (Draft × Draft)) (ending : Ending) :
    Result α :=
  match rest, ending with
  | [], .closed => .ok value
  | [], .broken flaw => flawed flaw
  | _, _ => flawed .malformed

/-- Reads an alternative without data: its name, or an object with its name and null. -/
def variant {α : Type} (name : α → String) (all : List α) (source : Source) : Draft → Result α
  | .string s => lookup name all s
  | .unpaired => flawed .malformed
  | .brokenText reading _ => flawed reading
  | .missing => flawed .truncated
  | .object members ending =>
    match source, members with
    | .text, [] =>
      match ending with
      | .broken flaw => flawed flaw
      | _ => flawed .malformed
    | .text, (key, value) :: rest => do
      let chosen ← lookup name all (← lift key.key)
      unit source value
      onlyMember chosen rest ending
    | .tree, [(key, value)] => do
      let chosen ← identifier name all key
      unit source value
      return chosen
    | .tree, _ => unfit (.invalidValue .map "map with a single key")
  | d =>
    match source with
    | .text => flawed .malformed
    | .tree => wrongType "string or map" d

end Decode
end TargetControl
