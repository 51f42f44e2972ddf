/-!
The states of a target, and the pair that waiters look at.

Backends report states and the target trusts them, so there is no table of transitions.  What the
target adds is one bit: `settled` is false from the moment a request to run, halt or step is let
through until the next report arrives.  A waiter is released by a settled pair whose state is
stopped or exited, so it never takes the state from before its own request for an answer to it.
-/

namespace TargetControl

/-- The states a target passes through. -/
inductive State where
  | created
  | initialized
  | stopped
  | running
  | synching
  | exited
deriving DecidableEq, Repr, Inhabited

namespace State

def all : List State := [.created, .initialized, .stopped, .running, .synching, .exited]

/-- The name of a state in messages and data. -/
def name : State → String
  | .created => "created"
  | .initialized => "initialized"
  | .stopped => "stopped"
  | .running => "running"
  | .synching => "synching"
  | .exited => "exited"

/-- The name of a state in descriptions. -/
def label : State → String
  | .created => "Created"
  | .initialized => "Initialized"
  | .stopped => "Stopped"
  | .running => "Running"
  | .synching => "Synching"
  | .exited => "Exited"

def ofName? (s : String) : Option State := all.find? fun state => state.name = s

theorem ofName?_name (s : State) : ofName? s.name = some s := by
  cases s <;> rfl

end State

/-- A state, and whether it has been reported since the last request that changes it. -/
structure Cell where
  state : State
  settled : Bool
deriving DecidableEq, Repr

/-- How a wait ends. -/
inductive Release where
  | stopped
  | exited
deriving DecidableEq, Repr

namespace Cell

/-- The pair of a new target. -/
def fresh : Cell := ⟨.created, false⟩

/-- The pair after a report. -/
def publish (state : State) (_ : Cell) : Cell := ⟨state, true⟩

/-- The pair after a request that changes the state has been let through. -/
def unsettle (c : Cell) : Cell := { c with settled := false }

/-- How the pair releases a waiter, if it does. -/
def release? (c : Cell) : Option Release :=
  if c.settled then
    match c.state with
    | .stopped => some .stopped
    | .exited => some .exited
    | _ => none
  else none

@[simp] theorem publish_state (s : State) (c : Cell) : (c.publish s).state = s := rfl

@[simp] theorem publish_settled (s : State) (c : Cell) : (c.publish s).settled = true := rfl

@[simp] theorem unsettle_state (c : Cell) : c.unsettle.state = c.state := rfl

@[simp] theorem unsettle_settled (c : Cell) : c.unsettle.settled = false := rfl

/-- A pair that is not settled releases nobody. -/
theorem release?_unsettle (c : Cell) : c.unsettle.release? = none := rfl

end Cell
end TargetControl
