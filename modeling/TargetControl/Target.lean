import TargetControl.Device.Bench
import TargetControl.Status
import TargetControl.Text.Quoted

/-!
A target, and the setup that is run when it is initialized.

A target holds its name, the pair that waiters look at, the devices in its slots, the entries that
were set beside its state, and its setup with the number of runs of it so far.  A setup is given by
what each run does: steps that the target takes part in, and then a failure or none.
-/

namespace TargetControl

/-- A device to attach: the one with a label, made with the given fittings if there is none. -/
structure Attachment where
  kind : Capability
  label : String
  fittings : Fittings

/-! ## Setups -/

/-- What a setup does to its target, which is whatever a caller can do. -/
inductive SetupStep where
  /-- asks the target to initialize itself, from within -/
  | nested
  | report (state : State)
  | attach (attachment : Attachment)
  /-- attaches, whatever the answer -/
  | offer (attachment : Attachment)
  /-- makes a request, whatever the answer -/
  | act (request : Request)
  | setEntry (key : String) (value : Json)
  | removeEntry (key : String)
  | shutdown

/-- One run of a setup.  It ends early, as a failure, with an attachment that is refused; an offer
that is refused is passed over. -/
structure SetupRun where
  steps : List SetupStep
  failure : Option Failure

/-- The runs of a setup by their numbers, the first of which is one.

A setup does not look at its target: but for a refusal that ends a run, what it does depends on the
number of the run alone.  A law about one lab loses nothing by that, since what a setup that looks
does there is what some setup does that does not.  A law that compares two labs is about setups that
do the same in both. -/
abbrev Setup := Nat → SetupRun

/-- A setup that does the same in every run but fails in the first few. -/
structure Rehearsal where
  /-- how many runs fail -/
  failures : Nat
  /-- whether the target is asked to initialize itself from within -/
  nested : Bool
  states : List State
  attachments : List Attachment
  /-- whether also the runs that fail attach -/
  attachesBeforeFailing : Bool
  failure : Failure

/-- The setup of a rehearsal: the nested request first, then the reports, then the attachments. -/
def Rehearsal.setup (r : Rehearsal) : Setup := fun run =>
  let failing := decide (run ≤ r.failures)
  { steps :=
      (if r.nested then [.nested] else []) ++ r.states.map .report ++
      (if !failing || r.attachesBeforeFailing then r.attachments.map .attach else [])
    failure := if failing then some r.failure else none }

/-! ## Targets -/

structure Target where
  name : String
  cell : Cell
  slots : Slots Device
  entries : Entries
  /-- whether it has been initialized, or is being so -/
  initialized : Bool
  setup : Option Setup
  /-- the runs of the setup so far -/
  runs : Nat

namespace Target

def new (name : String) (setup : Option Setup) : Target :=
  { name, cell := .fresh, slots := .empty, entries := .empty, initialized := false, setup, runs := 0 }

/-- The status at this moment. -/
def status (t : Target) : Status := .merge t.cell.state t.entries

/-! ## Descriptions -/

def settledText (t : Target) : String := if t.cell.settled then "true" else "false"

/-- The description of a target in one line. -/
def describe (t : Target) : String :=
  "Target \x7b name: " ++ Quoted.text t.name ++ ", state: " ++ t.cell.state.label ++
    ", settled: " ++ t.settledText ++ ", protocols: " ++ t.slots.describe ++ " \x7d"

/-- The capabilities a target has, one to a line. -/
def describeSlots (t : Target) : String :=
  match t.slots.attached with
  | [] => "[]"
  | kinds => "[\n" ++ String.join (kinds.map fun k => "        " ++ k.label ++ ",\n") ++ "    ]"

/-- The description of a target with each part on a line of its own. -/
def describeInLines (t : Target) : String :=
  "Target \x7b\n    name: " ++ Quoted.text t.name ++ ",\n    state: " ++ t.cell.state.label ++
    ",\n    settled: " ++ t.settledText ++ ",\n    protocols: " ++ t.describeSlots ++ ",\n\x7d"

/-- The description of what reports to a target. -/
def describeReporter (t : Target) : String :=
  "StateReporter \x7b target: " ++ Quoted.text t.name ++ " \x7d"

end Target
end TargetControl
