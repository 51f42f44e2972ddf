import TargetControl.Decode.Record
import TargetControl.Json.Writer

/-!
Breakpoints: their numbers and the options they are inserted with.

The options start from a plain, permanent software breakpoint on all threads, and each setter
changes one of them.  Their data form is an object with the fields in a fixed order, the condition
only where there is one.
-/

namespace TargetControl

/-- The number a backend gives to a breakpoint or watchpoint. -/
structure BreakpointId where
  number : UInt32
deriving DecidableEq, Repr

namespace BreakpointId

/-- The text of a number. -/
def text (id : BreakpointId) : String :=
  String.ofList ('#' :: Digits.decimal id.number.toNat)

instance : LT BreakpointId := ⟨fun a b => a.number < b.number⟩

instance (a b : BreakpointId) : Decidable (a < b) :=
  inferInstanceAs (Decidable (a.number < b.number))

/-- The number that follows, back to zero after the last. -/
def next (id : BreakpointId) : BreakpointId := ⟨id.number + 1⟩

def toJson (id : BreakpointId) : Json := .ofNat id.number.toNat

def decode (d : Json.Draft) : Decode.Result BreakpointId :=
  (Decode.unsigned 32 "u32" d).map fun n => ⟨UInt32.ofNat n⟩

end BreakpointId

/-- What to insert a breakpoint with. -/
structure BreakpointOptions where
  /-- ask for a hardware breakpoint -/
  hardware : Bool
  /-- remove it after its first hit -/
  temporary : Bool
  /-- take the location for a pattern and insert at every match -/
  regex : Bool
  /-- stop only where this expression holds -/
  condition : Option String
  /-- hits to ignore before stopping -/
  ignoreCount : UInt32
  /-- the thread it is for; zero means all of them -/
  thread : UInt32
deriving DecidableEq, Repr

namespace BreakpointOptions

/-- A plain, permanent software breakpoint on all threads. -/
def plain : BreakpointOptions := ⟨false, false, false, none, 0, 0⟩

/-- A change to one option. -/
inductive Setter where
  | hardware
  | temporary
  | regex
  | condition (text : String)
  | ignoreCount (n : UInt32)
  | thread (n : UInt32)
deriving DecidableEq, Repr

def apply (o : BreakpointOptions) : Setter → BreakpointOptions
  | .hardware => { o with hardware := true }
  | .temporary => { o with temporary := true }
  | .regex => { o with regex := true }
  | .condition text => { o with condition := some text }
  | .ignoreCount n => { o with ignoreCount := n }
  | .thread n => { o with thread := n }

def build (setters : List Setter) : BreakpointOptions := setters.foldl apply plain

def toJson (o : BreakpointOptions) : Json :=
  .object <|
    [("hardware", .bool o.hardware), ("temporary", .bool o.temporary), ("regex", .bool o.regex)] ++
    (match o.condition with
      | some text => [("condition", .string text)]
      | none => []) ++
    [("ignore_count", .ofNat o.ignoreCount.toNat), ("thread", .ofNat o.thread.toNat)]

/-- The fields of the data form. -/
def fields : List (Decode.FieldReader BreakpointOptions) :=
  [ ⟨"hardware", fun d o => do return { o with hardware := ← Decode.bool d }, none⟩,
    ⟨"temporary", fun d o => do return { o with temporary := ← Decode.bool d }, none⟩,
    ⟨"regex", fun d o => do return { o with regex := ← Decode.bool d }, none⟩,
    ⟨"condition",
      fun d o => do return { o with condition := ← Decode.optional (Decode.text "a string") d },
      some id⟩,
    ⟨"ignore_count",
      fun d o => do return { o with ignoreCount := UInt32.ofNat (← Decode.unsigned 32 "u32" d) },
      none⟩,
    ⟨"thread",
      fun d o => do return { o with thread := UInt32.ofNat (← Decode.unsigned 32 "u32" d) },
      none⟩ ]

def decode (d : Json.Draft) : Decode.Result BreakpointOptions :=
  Decode.record .text "struct BreakpointOptions" fields plain d

end BreakpointOptions
end TargetControl
