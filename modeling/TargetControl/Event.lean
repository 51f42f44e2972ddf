import TargetControl.Capability
import TargetControl.Decode.Record
import TargetControl.Json.Writer
import TargetControl.Lifecycle
import TargetControl.Time.Timestamp

/-!
What a target tells its sinks.

An event is a change of state, or a backend attached or released, with the name of the target and
the time.  The data form is an object that begins with the kind of event.  It is read with the
kind anywhere among the members: the others are kept as trees until the kind is known.
-/

namespace TargetControl

/-- What happened to a target. -/
inductive Change where
  | state (before after : State)
  | attached (kind : Capability)
  | detached (kind : Capability)
deriving DecidableEq, Repr

/-- Something that happened to a named target at some time. -/
structure Event where
  target : String
  change : Change
  time : Timestamp
deriving DecidableEq, Repr

namespace Change

/-- The kinds of change. -/
inductive Kind where
  | state
  | attached
  | detached
deriving DecidableEq, Repr

def Kind.all : List Kind := [.state, .attached, .detached]

/-- The name of a kind of change in data. -/
def Kind.name : Kind → String
  | .state => "state_changed"
  | .attached => "protocol_attached"
  | .detached => "protocol_detached"

def kind : Change → Kind
  | .state .. => .state
  | .attached _ => .attached
  | .detached _ => .detached

/-- A change in one line. -/
def message : Change → String
  | .state a b => "State changed from " ++ a.name ++ " to " ++ b.name
  | .attached kind => "Attached " ++ kind.name ++ " protocol"
  | .detached kind => "Detached " ++ kind.name ++ " protocol"

/-- The members of the data form that say what changed. -/
def members : Change → List (String × Json)
  | .state a b => [("from", .string a.name), ("to", .string b.name)]
  | .attached kind | .detached kind => [("protocol", .string kind.name)]

end Change

namespace Event

def type (e : Event) : String := e.change.kind.name

def message (e : Event) : String := e.change.message

/-- The key of the kind of event in the data form. -/
def typeKey : String := "event_type"

/-- The data form with a given text for the time. -/
def toJsonAt (e : Event) (time : String) : Json :=
  .object ((typeKey, .string e.type) :: ("target", .string e.target) ::
    e.change.members ++ [("timestamp", .string time)])

def toJson (e : Event) : Json := e.toJsonAt e.time.text

/-- The changes of state among some events. -/
def transitions (events : List Event) : List (State × State) :=
  events.filterMap fun e =>
    match e.change with
    | .state a b => some (a, b)
    | _ => none

/-- Whether each change of state begins where the one before it ended. -/
def chained : List (State × State) → Bool
  | (_, b) :: (c, d) :: rest => b = c && chained ((c, d) :: rest)
  | _ => true

/-! ## Reading -/

open Json (Draft Ending)
open Decode

/-- Reads a point in time. -/
def decodeTime (d : Draft) : Result Timestamp := do
  let s ← text "an RFC 3339 formatted date and time string" d
  match Timestamp.read? s.toList with
  | some t => return t
  | none => unfit .unreadable

def decodeState (d : Draft) : Result State := variant State.name State.all .tree d

def decodeCapability (d : Draft) : Result Capability :=
  variant Capability.name Capability.all .tree d

/-- The field with the name of the target. -/
def targetField : FieldReader Event :=
  ⟨"target", fun d e => do return { e with target := ← text "a string" d }, none⟩

def timeField : FieldReader Event :=
  ⟨"timestamp", fun d e => do return { e with time := ← decodeTime d }, none⟩

def capabilityField (change : Capability → Change) : FieldReader Event :=
  ⟨"protocol", fun d e => do return { e with change := change (← decodeCapability d) }, none⟩

/-- The field with the state before. -/
def fromField : FieldReader Event :=
  ⟨"from",
    fun d e => do
      let a ← decodeState d
      return { e with change := match e.change with
        | .state _ b => .state a b
        | c => c },
    none⟩

/-- The field with the state after. -/
def toField : FieldReader Event :=
  ⟨"to",
    fun d e => do
      let b ← decodeState d
      return { e with change := match e.change with
        | .state a _ => .state a b
        | c => c },
    none⟩

def fields : Change.Kind → List (FieldReader Event)
  | .state => [targetField, fromField, toField, timeField]
  | .attached => [targetField, capabilityField .attached, timeField]
  | .detached => [targetField, capabilityField .detached, timeField]

/-- What an event of a kind is called in messages. -/
def title : Change.Kind → String
  | .state => "struct variant TargetEvent::StateChanged"
  | .attached => "struct variant TargetEvent::ProtocolAttached"
  | .detached => "struct variant TargetEvent::ProtocolDetached"

/-- The event that the reading of a kind starts from.  Every field of the kind replaces a part of
it. -/
def blank : Change.Kind → Event
  | .state => ⟨"", .state .created .created, .epoch⟩
  | .attached => ⟨"", .attached .execution, .epoch⟩
  | .detached => ⟨"", .detached .execution, .epoch⟩

/-- The event of a kind that a tree of its other parts gives. -/
def ofTree (kind : Change.Kind) (tree : Json) : Result Event :=
  record .tree (title kind) (fields kind) (blank kind) (Draft.ofJson tree)

/-- Reads the members of an object: the kind of event, if it is there, and the other members. -/
def decodeMembers : List (Draft × Draft) → Ending → Option Change.Kind → List (String × Json) →
    Result (Option Change.Kind × List (String × Json))
  | [], ending, kind, others => (lift ending.finish).map fun _ => (kind, others.reverse)
  | (key, value) :: rest, ending, kind, others => do
    let key ← lift key.key
    if key = typeKey then
      match kind with
      | some _ => unfit (.duplicateField typeKey)
      | none =>
        let k ← identifier Change.Kind.name Change.Kind.all value
        decodeMembers rest ending (some k) others
    else
      let v ← lift (value.read Source.text.room)
      decodeMembers rest ending kind ((key, v) :: others)

def decode : Draft → Result Event
  | .object members ending => do
    match ← decodeMembers members ending none [] with
    | (none, _) => unfit (.missingField typeKey)
    | (some kind, others) => ofTree kind (.object others)
  | .array [] ending => do
    lift ending.finish
    unfit (.missingField typeKey)
  | .array (first :: rest) ending => do
    let kind ← identifier Change.Kind.name Change.Kind.all first
    let items ← lift (Draft.readItems Source.text.room rest ending)
    ofTree kind (.array items)
  | d => wrongType "internally tagged enum TargetEvent" d

end Event
end TargetControl
