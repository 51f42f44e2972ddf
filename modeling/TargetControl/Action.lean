import TargetControl.Failure

/-!
The ten actions that a target guards.

Each action needs the capability of one slot and one state.  The slot is looked at first, then the
state, so a missing backend is reported whatever the state is.  Letting an action through that
changes the state of execution unsettles the pair in the same step, so whoever waits after it is
released by a report that comes later.
-/

namespace TargetControl

/-- What a caller asks of a target and only a backend can do. -/
inductive Action where
  | cont
  | stop
  | step
  | readMemory
  | writeMemory
  | readRegister
  | writeRegister
  | setBreakpoint
  | setWatchpoint
  | removeBreakpoint
deriving DecidableEq, Repr, Inhabited

namespace Action

def all : List Action :=
  [.cont, .stop, .step, .readMemory, .writeMemory, .readRegister, .writeRegister, .setBreakpoint,
    .setWatchpoint, .removeBreakpoint]

def name : Action → String
  | .cont => "cont"
  | .stop => "stop"
  | .step => "step"
  | .readMemory => "read_memory"
  | .writeMemory => "write_memory"
  | .readRegister => "read_register"
  | .writeRegister => "write_register"
  | .setBreakpoint => "set_breakpoint"
  | .setWatchpoint => "set_watchpoint"
  | .removeBreakpoint => "remove_breakpoint"

/-- The capability whose slot serves an action. -/
def capability : Action → Capability
  | .readMemory | .writeMemory => .memory
  | .readRegister | .writeRegister => .register
  | _ => .execution

/-- The state in which an action is let through. -/
def required : Action → State
  | .stop => .running
  | _ => .stopped

/-- Whether letting an action through unsettles the pair. -/
def unsettles : Action → Bool
  | .cont | .stop | .step => true
  | _ => false

/-- The pair after an action has been let through. -/
def mark (a : Action) (cell : Cell) : Cell := if a.unsettles then cell.unsettle else cell

/-- Lets an action through with what its slot holds and the pair of the target, or says what stands
in its way. -/
def check {α : Type} (a : Action) (slot : Option α) (cell : Cell) : Except Obstacle (α × Cell) :=
  match slot with
  | none => .error (.unavailable a.capability)
  | some held =>
    if cell.state = a.required then .ok (held, a.mark cell)
    else .error (.wrongState a.required cell.state)

@[simp] theorem mark_state (a : Action) (cell : Cell) : (a.mark cell).state = cell.state := by
  unfold mark
  split <;> rfl

theorem check_none {α : Type} (a : Action) (cell : Cell) :
    a.check (none : Option α) cell = .error (.unavailable a.capability) := rfl

/-- An action whose slot is occupied is let through exactly in the state it needs. -/
theorem check_some {α : Type} (a : Action) (held : α) (cell : Cell) :
    a.check (some held) cell =
      if cell.state = a.required then .ok (held, a.mark cell)
      else .error (.wrongState a.required cell.state) := rfl

end Action
end TargetControl
