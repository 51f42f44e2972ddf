import TargetControl.Device.Reply
import TargetControl.Text.Keyed

/-!
A processor: a device for the control of execution.

A processor keeps a log of the requests it has taken and the breakpoints that are inserted, and
reports the states that its requests lead to.  A direct processor reports them before it answers.
A queued one puts them in a queue, from which they are delivered one by one and in order; once it
has been shut down it puts nothing more there, but what is in the queue is still delivered.

A request is first checked by itself, then a fault that was armed is given back in its place, and
only then is it logged and carried out.
-/

namespace TargetControl

/-- How a processor reports. -/
inductive Delivery where
  /-- within the request -/
  | direct
  /-- later, through a queue -/
  | queued
deriving DecidableEq, Repr

namespace Processor

/-- What can be asked of a processor. -/
inductive Request where
  | cont
  | stop
  | step
  | setBreakpoint (location : String) (options : BreakpointOptions)
  | setWatchpoint (subject : String) (write read : Bool)
  | removeBreakpoint (id : BreakpointId)
deriving DecidableEq, Repr

/-- What is inserted under a number. -/
inductive Insertion where
  | breakpoint (location : String) (options : BreakpointOptions)
  | watchpoint (subject : String) (write read : Bool)
deriving DecidableEq, Repr

namespace Request

/-- Why a request is refused for its own sake: a breakpoint needs a location, and a watchpoint
something to watch for. -/
def objection? : Request → Option BackendFault
  | .setBreakpoint location _ =>
    if location = "" then some (.rejected "empty breakpoint location") else none
  | .setWatchpoint _ write read =>
    if !write && !read then some (.rejected "watchpoint must trigger on read or write") else none
  | _ => none

/-- The states that carrying out a request leads through. -/
def states : Request → List State
  | .cont => [.running]
  | .stop => [.stopped]
  | .step => [.running, .stopped]
  | _ => []

/-- What a request inserts. -/
def insertion? : Request → Option Insertion
  | .setBreakpoint location options => some (.breakpoint location options)
  | .setWatchpoint subject write read => some (.watchpoint subject write read)
  | _ => none

end Request
end Processor

structure Processor where
  delivery : Delivery
  /-- whether the queue still takes reports -/
  isOpen : Bool
  /-- reports that have not been delivered -/
  queue : List State
  /-- the requests that were taken, oldest first -/
  calls : List Processor.Request
  inserted : Keyed BreakpointId Processor.Insertion
  /-- the number of the next insertion -/
  nextId : BreakpointId
  /-- the fault that the next request gets -/
  armed : Option BackendFault
  shutdowns : Nat
deriving Repr

namespace Processor

def new (delivery : Delivery) : Processor :=
  { delivery, isOpen := true, queue := [], calls := [], inserted := [], nextId := ⟨1⟩,
    armed := none, shutdowns := 0 }

/-- Arms a fault, in place of one that may be armed already. -/
def arm (p : Processor) (fault : BackendFault) : Processor := { p with armed := some fault }

/-- Reports some states: those to be delivered at once, or the processor with them in its queue. -/
def report (p : Processor) (states : List State) : Processor × List State :=
  match p.delivery with
  | .direct => (p, states)
  | .queued => (if p.isOpen then { p with queue := p.queue ++ states } else p, [])

/-- Inserts under the next number. -/
def insert (p : Processor) (entry : Insertion) : Processor × BreakpointId :=
  ({ p with inserted := Keyed.insert p.nextId entry p.inserted, nextId := p.nextId.next }, p.nextId)

/-- Changes the breakpoints as a request says. -/
def carryOut (p : Processor) : Request → Processor × Reply
  | .cont | .stop | .step => (p, .done)
  | .setBreakpoint location options =>
    let (p, id) := p.insert (.breakpoint location options)
    (p, .breakpoint id)
  | .setWatchpoint subject write read =>
    let (p, id) := p.insert (.watchpoint subject write read)
    (p, .breakpoint id)
  | .removeBreakpoint id =>
    ({ p with inserted := Keyed.erase id p.inserted }, .flag (Keyed.find? id p.inserted).isSome)

/-- A processor after a request, its answer, and the states to be delivered at once. -/
structure Response where
  processor : Processor
  outcome : Except BackendFault Reply
  states : List State

def serve (p : Processor) (r : Request) : Response :=
  match r.objection? with
  | some fault => ⟨p, .error fault, []⟩
  | none =>
    match p.armed with
    | some fault => ⟨{ p with armed := none }, .error fault, []⟩
    | none =>
      let (p, reply) := { p with calls := p.calls ++ [r] }.carryOut r
      let (p, states) := p.report r.states
      ⟨p, .ok reply, states⟩

/-- Shuts the processor down: nothing more goes into its queue. -/
def shutdown (p : Processor) : Processor :=
  { p with isOpen := false, shutdowns := p.shutdowns + 1 }

/-- The oldest report in the queue, and the processor without it. -/
def next? (p : Processor) : Option (State × Processor) :=
  match p.queue with
  | [] => none
  | s :: rest => some (s, { p with queue := rest })

/-- What a processor reports is delivered at once or added to its queue. -/
theorem report_direct {p : Processor} (h : p.delivery = .direct) (states : List State) :
    p.report states = (p, states) := by
  simp only [report, h]

theorem report_queued {p : Processor} (h : p.delivery = .queued) (hp : p.isOpen = true)
    (states : List State) :
    p.report states = ({ p with queue := p.queue ++ states }, []) := by
  simp only [report, h, hp, if_true]

theorem report_closed {p : Processor} (h : p.delivery = .queued) (hp : p.isOpen = false)
    (states : List State) : p.report states = (p, []) := by
  simp [report, h, hp]

end Processor
end TargetControl
