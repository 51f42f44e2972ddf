import TargetControl.Lab

/-!
Operations: everything that can be done in a lab, one step at a time.

A run is a list of operations.  What a caller does through the target, what a device does of its
own accord and what is done to a device behind the target's back are all operations, so a law over
all runs is a law over all lists.
-/

namespace TargetControl

/-- What is done in a lab. -/
inductive Operation where
  /-- a new device is put on the bench -/
  | install (label : String) (part : Part) (fittings : Fittings)
  | addSink (sink : Sink)
  | attach (attachment : Attachment)
  | init
  | shutdown
  | report (state : State)
  | act (request : Request)
  /-- a wait during which others report -/
  | wait (states : List State)
  /-- a wait with a limit, from some moment on, during which nobody reports -/
  | waitFor (limit : Duration) (now : Instant)
  | setEntry (key : String) (value : Json)
  | removeEntry (key : String)
  /-- the oldest report in the queue of a processor arrives -/
  | deliver (handle : Nat)
  /-- a request goes straight to a device -/
  | serve (handle : Nat) (request : Request)
  /-- a processor reports of its own accord -/
  | signal (handle : Nat) (states : List State)
  /-- a processor is made to fail its next request -/
  | arm (handle : Nat) (fault : BackendFault)
  | load (handle : Nat) (address : UInt64) (data : List UInt8)
  /-- a device is shut down, but not by the target -/
  | close (part : Part) (handle : Nat)

/-- The answer to an operation. -/
inductive Answer where
  | done
  | reply (reply : Reply)
  /-- the value that an entry had -/
  | previous (value : Option Json)
  /-- a wait that nothing has released -/
  | blocked
deriving DecidableEq

namespace Lab

/-- Does one thing in a lab. -/
def perform (lab : Lab) : Operation → Lab × Except Failure Answer
  | .install label part fittings =>
    (lab.setBench (lab.bench.install label part fittings).1, .ok .done)
  | .addSink sink => (lab.addSink sink, .ok .done)
  | .attach attachment =>
    let (lab, outcome) := lab.attachLabelled attachment
    (lab, outcome.map fun _ => .done)
  | .init =>
    let (lab, outcome) := lab.init
    (lab, outcome.map fun _ => .done)
  | .shutdown => (lab.shutdown, .ok .done)
  | .report state => (lab.report state, .ok .done)
  | .act request =>
    let (lab, outcome) := lab.act request
    (lab, outcome.map .reply)
  | .wait states =>
    match lab.wait states with
    | (lab, some told) => (lab, told.map fun _ => .done)
    | (lab, none) => (lab, .ok .blocked)
  | .waitFor limit now =>
    match lab.waitFor limit now with
    | (lab, some told) => (lab, told.map fun _ => .done)
    | (lab, none) => (lab, .ok .blocked)
  | .setEntry key value =>
    let (lab, previous) := lab.setEntry key value
    (lab, .ok (.previous previous))
  | .removeEntry key =>
    let (lab, previous) := lab.removeEntry key
    (lab, .ok (.previous previous))
  | .deliver handle => (lab.deliver handle, .ok .done)
  | .serve handle request =>
    let (lab, outcome) := lab.serve (request.part, handle) request
    (lab, outcome.map .reply)
  | .signal handle states => (lab.signal handle states, .ok .done)
  | .arm handle fault =>
    (lab.setProcessor handle ((lab.bench.processors handle).arm fault), .ok .done)
  | .load handle address data =>
    (lab.setMemory handle ((lab.bench.memories handle).load address data), .ok .done)
  | .close part handle =>
    let (lab, outcome) := lab.close (part, handle)
    (lab, outcome.map fun _ => .done)

def run (lab : Lab) (operations : List Operation) : Lab :=
  operations.foldl (fun lab operation => (lab.perform operation).1) lab

@[simp] theorem run_nil (lab : Lab) : lab.run [] = lab := rfl

@[simp] theorem run_cons (lab : Lab) (operation : Operation) (rest : List Operation) :
    lab.run (operation :: rest) = (lab.perform operation).1.run rest := rfl

theorem run_append (lab : Lab) (first second : List Operation) :
    lab.run (first ++ second) = (lab.run first).run second := List.foldl_append

end Lab
end TargetControl
