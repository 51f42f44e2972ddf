import TargetControl.Decode.Record
import TargetControl.Json.Writer

/-!
Values that pass between a caller and the memory of a target.

The data form of a value is an object with its kind and its content.  When the content comes first
it is kept as a tree until the kind is known.  An array of the two is read as well.
-/

namespace TargetControl

/-- A value read from memory or written to it. -/
inductive MemoryValue where
  /-- one word of the size that was asked for -/
  | word (w : UInt64)
  /-- several words in a row -/
  | words (ws : List UInt64)
  /-- bytes as they are -/
  | raw (bytes : List UInt8)
deriving DecidableEq, Repr

namespace MemoryValue

inductive Kind where
  | word
  | words
  | raw
deriving DecidableEq, Repr

namespace Kind

def all : List Kind := [.word, .words, .raw]

def name : Kind → String
  | .word => "word"
  | .words => "words"
  | .raw => "raw"

end Kind

/-- The content of a value in its data form. -/
def content : MemoryValue → Json
  | .word w => .ofNat w.toNat
  | .words ws => .array (ws.map fun w => .ofNat w.toNat)
  | .raw bytes => .array (bytes.map fun b => .ofNat b.toNat)

def kind : MemoryValue → Kind
  | .word _ => .word
  | .words _ => .words
  | .raw _ => .raw

def toJson (v : MemoryValue) : Json :=
  .object [("kind", .string v.kind.name), ("value", v.content)]

/-! ## Reading -/

open Json (Draft Ending)
open Decode

def ofContent (kind : Kind) (d : Draft) : Result MemoryValue :=
  match kind with
  | .word => (unsigned 64 "u64" d).map fun n => .word (UInt64.ofNat n)
  | .words => (list (unsigned 64 "u64") d).map fun ns => .words (ns.map UInt64.ofNat)
  | .raw => (list (unsigned 8 "u8") d).map fun ns => .raw (ns.map UInt8.ofNat)

/-- The two members that count. -/
inductive Part where
  | kind
  | content
deriving DecidableEq

def Part.name : Part → String
  | .kind => "kind"
  | .content => "value"

/-- The next member that counts, and the members after it. -/
def nextPart : List (Draft × Draft) → Ending →
    Result (Option (Part × Draft × List (Draft × Draft)))
  | [], ending => (lift ending.finish).map fun _ => none
  | (key, value) :: rest, ending => do
    let key ← lift key.key
    if key = Part.kind.name then return some (.kind, value, rest)
    else if key = Part.content.name then return some (.content, value, rest)
    else
      lift value.skip
      nextPart rest ending

/-- Ends the reading of an object in which both members have been found. -/
def endParts (v : MemoryValue) (rest : List (Draft × Draft)) (ending : Ending) :
    Result MemoryValue := do
  match ← nextPart rest ending with
  | none => return v
  | some (part, _, _) => unfit (.duplicateField part.name)

/-- Reads the members of an object. -/
def decodeMembers (members : List (Draft × Draft)) (ending : Ending) : Result MemoryValue := do
  match ← nextPart members ending with
  | none => unfit (.missingField Part.kind.name)
  | some (.kind, d, rest) =>
    let kind ← variant Kind.name Kind.all .text d
    match ← nextPart rest ending with
    | none => unfit (.missingField Part.content.name)
    | some (.kind, _, _) => unfit (.duplicateField Part.kind.name)
    | some (.content, d, rest) => endParts (← ofContent kind d) rest ending
  | some (.content, d, rest) =>
    let tree ← lift (d.read Source.text.room)
    match ← nextPart rest ending with
    | none => unfit (.missingField Part.kind.name)
    | some (.content, _, _) => unfit (.duplicateField Part.content.name)
    | some (.kind, d, rest) =>
      let kind ← variant Kind.name Kind.all .text d
      endParts (← ofContent kind (Draft.ofJson tree)) rest ending

/-- What a value is called in messages. -/
def title : String := "adjacently tagged enum MemoryValue"

/-- Reads the items of an array. -/
def decodeItems (items : List Draft) (ending : Ending) : Result MemoryValue := do
  match items with
  | [] =>
    lift ending.finish
    unfit (.invalidLength 0 title)
  | d :: rest =>
    let kind ← identifier Kind.name Kind.all d
    match rest with
    | [] =>
      lift ending.finish
      unfit (.invalidLength 1 title)
    | d :: rest =>
      let v ← ofContent kind d
      match rest, ending with
      | [], .closed => return v
      | [], .broken flaw => flawed flaw
      | _, _ => flawed .malformed

def decode : Draft → Result MemoryValue
  | .object members ending => decodeMembers members ending
  | .array items ending => decodeItems items ending
  | d => wrongType title d

end MemoryValue
end TargetControl
