import TargetControl.Decode.Scalar

/-!
Reading records.

A record is described by its fields in the order of their declaration.  It is read from an object,
in which the fields may stand in any order and members of other names are passed over, or from an
array that holds the fields in their order.  A field may not stand twice, and one that is absent
must have a default.
-/

namespace TargetControl
namespace Decode

open Json (Draft Ending Flaw)

/-- A field of a record that is being built in a value of type `σ`. -/
structure FieldReader (σ : Type) where
  name : String
  /-- puts the field's value into the record -/
  read : Draft → σ → Result σ
  /-- puts the default into the record, where there is one -/
  absent : Option (σ → σ)

/-- The length of a record, in words. -/
def elements (n : Nat) : String :=
  String.ofList (Digits.decimal n) ++ (if n = 1 then " element" else " elements")

/-- Reads the members of an object into a record: the record, and the names that were there. -/
def readMembers {σ : Type} (fields : List (FieldReader σ)) :
    List (Draft × Draft) → Ending → List String → σ → Result (σ × List String)
  | [], ending, seen, s => (lift ending.finish).map fun _ => (s, seen)
  | (key, value) :: rest, ending, seen, s => do
    let key ← lift key.key
    match fields.find? fun f => f.name = key with
    | none =>
      lift value.skip
      readMembers fields rest ending seen s
    | some f =>
      if seen.contains key then unfit (.duplicateField key)
      else do
        let s ← f.read value s
        readMembers fields rest ending (key :: seen) s

/-- Puts the defaults of the fields that were not there into a record. -/
def fillAbsent {σ : Type} (seen : List String) : List (FieldReader σ) → σ → Result σ
  | [], s => .ok s
  | f :: rest, s =>
    if seen.contains f.name then fillAbsent seen rest s
    else
      match f.absent with
      | some fill => fillAbsent seen rest (fill s)
      | none => unfit (.missingField f.name)

/-- Reads the items of an array into a record, the fields in their order. -/
def readItems {σ : Type} (source : Source) (expected : String) :
    List (FieldReader σ) → Nat → List Draft → Ending → σ → Result σ
  | [], _, [], .closed, s => .ok s
  | [], _, [], .broken flaw, _ => flawed flaw
  | [], count, rest, _, _ =>
    match source with
    | .text => flawed .malformed
    | .tree => unfit (.invalidLength (count + rest.length) (elements count ++ " in sequence"))
  | f :: fields, count, item :: rest, ending, s => do
    let s ← f.read item s
    readItems source expected fields (count + 1) rest ending s
  | f :: fields, count, [], ending, s => do
    lift ending.finish
    match f.absent with
    | some fill => readItems source expected fields (count + 1) [] ending (fill s)
    | none => unfit (.invalidLength count expected)

/-- Reads a record that is called `title` in messages. -/
def record {σ : Type} (source : Source) (title : String) (fields : List (FieldReader σ)) (start : σ) :
    Draft → Result σ
  | .object members ending => do
    let (s, seen) ← readMembers fields members ending [] start
    fillAbsent seen fields s
  | .array items ending =>
    readItems source (title ++ " with " ++ elements fields.length) fields 0 items ending start
  | d => wrongType title d

/-- Reads the value of a whole text, behind which nothing may follow. -/
def document {α : Type} (read : Draft → Result α) (s : String) : Result α := do
  let document := Json.scan s.toList
  let value ← read document.root
  if document.complete then return value else flawed .malformed

end Decode
end TargetControl
