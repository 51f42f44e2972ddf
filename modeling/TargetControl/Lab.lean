import TargetControl.Config
import TargetControl.Sink
import TargetControl.Target
import TargetControl.Time.Instant

/-!
A lab: one target with the devices that serve it and the sinks that hear of it.

A target acts through its devices.  Letting a request through and handing it to a device are two
steps, so a device may report states before it answers, and each report is published and told to
the sinks by itself.  Every change of the target that is told to the sinks is a report, an
attachment or a release.
-/

namespace TargetControl

structure Lab where
  target : Target
  bench : Bench
  /-- the sinks in the order in which they were added -/
  sinks : List Sink
  outlets : Outlets
  /-- the time that events carry -/
  now : Timestamp

namespace Lab

/-- A lab with a new target and nothing else. -/
def new (name : String) (setup : Option Setup) (files : FileTree) (now : Timestamp) : Lab :=
  { target := .new name setup, bench := .empty, sinks := [], outlets := .ofFiles files, now }

def addSink (lab : Lab) (sink : Sink) : Lab := { lab with sinks := lab.sinks ++ [sink] }

def tell (lab : Lab) (change : Change) : Lab :=
  { lab with outlets := Sink.dispatch lab.sinks ⟨lab.target.name, change, lab.now⟩ lab.outlets }

/-! ## Devices -/

def setBench (lab : Lab) (bench : Bench) : Lab := { lab with bench }

/-- The lab with a processor in the state it has come to. -/
def setProcessor (lab : Lab) (handle : Nat) (device : Processor) : Lab :=
  lab.setBench { lab.bench with processors := Family.put lab.bench.processors handle device }

/-- The lab with a memory in the state it has come to. -/
def setMemory (lab : Lab) (handle : Nat) (device : Memory) : Lab :=
  lab.setBench { lab.bench with memories := Family.put lab.bench.memories handle device }

/-! ## Configuration -/

/-- The sink for the text log of a configuration, if there is one, with its directory made. -/
def addTextLog (lab : Lab) (config : Config) : Lab × Except Failure Unit :=
  match config.outputDirectory, config.logPath with
  | some dir, some path =>
    let (files, made) := lab.outlets.files.makeAll dir.toList
    let lab := { lab with outlets := { lab.outlets with files } }
    match made with
    | .error fault => (lab, .error (.file dir fault))
    | .ok () => (lab.addSink (.text path config.logSource), .ok ())
  | _, _ => (lab, .ok ())

/-- A lab with a target that is configured. -/
def ofConfig (config : Config) (setup : Option Setup) (files : FileTree) (now : Timestamp) :
    Except Failure Lab :=
  let lab := new config.name setup files now
  match lab.addTextLog config with
  | (_, .error failure) => .error failure
  | (lab, .ok ()) =>
    let lab :=
      match config.eventLog with
      | some path => lab.addSink (.jsonl path)
      | none => lab
    .ok { lab with target := { lab.target with entries := config.status } }

/-! ## Reports -/

def publish (lab : Lab) (state : State) : Lab :=
  { lab with target := { lab.target with cell := lab.target.cell.publish state } }

/-- Takes a report: the state is published, and the sinks are told of the change. -/
def report (lab : Lab) (state : State) : Lab :=
  (lab.publish state).tell (.state lab.target.cell.state state)

/-- Takes reports in turn. -/
def reportAll (lab : Lab) (states : List State) : Lab := states.foldl report lab

/-- Takes the oldest report from the queue of a processor, if there is one. -/
def deliver (lab : Lab) (handle : Nat) : Lab :=
  match (lab.bench.processors handle).next? with
  | none => lab
  | some (state, device) => (lab.setProcessor handle device).report state

/-- Takes all the reports from the queue of a processor. -/
def deliverAll (lab : Lab) (handle : Nat) : Lab :=
  (lab.bench.processors handle).queue.foldl (fun lab _ => lab.deliver handle) lab

/-- Takes all the reports from all queues, one processor after another. -/
def settle (lab : Lab) : Lab := (List.range lab.bench.installed).foldl deliverAll lab

/-! ## Slots -/

def fillSlot (lab : Lab) (kind : Capability) (device : Device) : Lab :=
  { lab with target := { lab.target with slots := lab.target.slots.fill kind device } }

/-- Attaches a device, if its slot is empty. -/
def attach (lab : Lab) (kind : Capability) (device : Device) : Lab × Except Failure Unit :=
  if lab.target.slots.has kind then (lab, .error (.alreadyAttached lab.target.name kind))
  else ((lab.fillSlot kind device).tell (.attached kind), .ok ())

/-- Attaches the device with a label. -/
def attachLabelled (lab : Lab) (a : Attachment) : Lab × Except Failure Unit :=
  let (bench, device) := lab.bench.obtain a.label a.kind.part a.fittings
  (lab.setBench bench).attach a.kind device

/-- Shuts down the device that a slot held, if it held one, and takes the reports that it makes
meanwhile.  The release is told whether or not the device fails. -/
def release (lab : Lab) (kind : Capability) : Option Device → Lab
  | none => lab
  | some device =>
    let r := lab.bench.shutdown device
    ((lab.setBench r.bench).reportAll r.states).tell (.detached kind)

/-- Empties the slots. -/
def takeSlots (lab : Lab) : Lab :=
  { lab with target := { lab.target with slots := .empty } }

/-- Releases what some slots held, one capability after another. -/
def releaseAll (lab : Lab) (slots : Slots Device) (kinds : List Capability) : Lab :=
  kinds.foldl (fun l kind => l.release kind (slots kind)) lab

/-- Empties all slots, then releases what they held, in the order of the capabilities.  A target
that goes out of use is shut down in the same way. -/
def shutdown (lab : Lab) : Lab := lab.takeSlots.releaseAll lab.target.slots Capability.all

/-! ## Requests -/

/-- Hands a request to a device and takes the reports that it makes before it answers. -/
def serve (lab : Lab) (device : Device) (request : Request) : Lab × Except Failure Reply :=
  let r := lab.bench.serve device request
  ((lab.setBench r.bench).reportAll r.states, r.outcome.mapError .backend)

/-- Sets the pair that waiters look at. -/
def setCell (lab : Lab) (cell : Cell) : Lab := { lab with target := { lab.target with cell } }

/-- Makes a request of the target.  One that is refused changes nothing; one that is let through
goes to the device in its slot. -/
def act (lab : Lab) (request : Request) : Lab × Except Failure Reply :=
  let action := request.action
  match action.check (lab.target.slots action.capability) lab.target.cell with
  | .error obstacle => (lab, .error (.refused ⟨action.name, obstacle⟩))
  | .ok (device, cell) => (lab.setCell cell).serve device request

/-- Shuts a device down behind the back of the target that may hold it, and takes the reports that
it makes meanwhile. -/
def close (lab : Lab) (device : Device) : Lab × Except Failure Unit :=
  let r := lab.bench.shutdown device
  ((lab.setBench r.bench).reportAll r.states, r.outcome.mapError .backend)

/-- Has a processor report states of its own accord. -/
def signal (lab : Lab) (handle : Nat) (states : List State) : Lab :=
  let (device, states) := (lab.bench.processors handle).report states
  (lab.setProcessor handle device).reportAll states

/-! ## Entries -/

/-- Sets an entry, and gives the value it had before. -/
def setEntry (lab : Lab) (key : String) (value : Json) : Lab × Option Json :=
  let entries := lab.target.entries
  ({ lab with target := { lab.target with entries := entries.insert key value } }, entries.find? key)

def removeEntry (lab : Lab) (key : String) : Lab × Option Json :=
  let entries := lab.target.entries
  ({ lab with target := { lab.target with entries := entries.erase key } }, entries.find? key)

/-! ## Initialization -/

def setInitialized (lab : Lab) (flag : Bool) : Lab :=
  { lab with target := { lab.target with initialized := flag } }

def countRun (lab : Lab) : Lab :=
  { lab with target := { lab.target with runs := lab.target.runs + 1 } }

/-- Takes one step of a setup; `nested` is what a request from within does. -/
def setupStep (nested : Lab → Lab × Except Failure Unit) (lab : Lab) :
    SetupStep → Lab × Except Failure Unit
  | .nested => nested lab
  | .report state => (lab.report state, .ok ())
  | .attach a => lab.attachLabelled a
  | .offer a => ((lab.attachLabelled a).1, .ok ())
  | .act request => ((lab.act request).1, .ok ())
  | .setEntry key value => ((lab.setEntry key value).1, .ok ())
  | .removeEntry key => ((lab.removeEntry key).1, .ok ())
  | .shutdown => (lab.shutdown, .ok ())

/-- Takes the steps of a setup up to the first that fails. -/
def setupSteps (nested : Lab → Lab × Except Failure Unit) :
    List SetupStep → Lab → Lab × Except Failure Unit
  | [], lab => (lab, .ok ())
  | step :: rest, lab =>
    match setupStep nested lab step with
    | (lab, .error failure) => (lab, .error failure)
    | (lab, .ok ()) => setupSteps nested rest lab

def runSetup (nested : Lab → Lab × Except Failure Unit) (setup : Setup) (lab : Lab) :
    Lab × Except Failure Unit :=
  let lab := lab.countRun
  let run := setup lab.target.runs
  match setupSteps nested run.steps lab with
  | (lab, .error failure) => (lab, .error failure)
  | (lab, .ok ()) =>
    match run.failure with
    | some failure => (lab, .error failure)
    | none => (lab, .ok ())

/-- Initializes the target, with room for a number of requests from within one another.  The
target counts as initialized while its setup runs, and afterwards unless the setup fails, so a
request from within finds nothing to do. -/
def initWithin : Nat → Lab → Lab × Except Failure Unit
  | 0, lab => (lab, .ok ())
  | room + 1, lab =>
    if lab.target.initialized then (lab, .ok ())
    else
      let lab := lab.setInitialized true
      match lab.target.setup with
      | none => (lab, .ok ())
      | some setup =>
        match runSetup (initWithin room) setup lab with
        | (lab, .error failure) => (lab.setInitialized false, .error failure)
        | (lab, .ok ()) => (lab, .ok ())

/-- Initializes the target.  Room for one request from within is enough, since none of them runs
the setup. -/
def init (lab : Lab) : Lab × Except Failure Unit := initWithin 2 lab

/-! ## Waiting -/

/-- What a release tells the waiter. -/
def released (lab : Lab) : Release → Except Failure Unit
  | .stopped => .ok ()
  | .exited => .error (.exited lab.target.name)

/-- What a wait that looks now is told, if it is released. -/
def wait? (lab : Lab) : Option (Except Failure Unit) := lab.target.cell.release?.map lab.released

/-- Goes on waiting through some reports, looking after each.  What the waiter is told is what the
first look that releases it finds; the reports are all taken in any case. -/
def waitThrough (lab : Lab) : List State → Lab × Option (Except Failure Unit)
  | [] => (lab, none)
  | state :: rest =>
    let lab := lab.report state
    let (after, later) := waitThrough lab rest
    (after, lab.wait?.or later)

/-- Waits while others report some states.  They begin when the waiter has been found to wait. -/
def wait (lab : Lab) (states : List State) : Lab × Option (Except Failure Unit) :=
  match lab.wait? with
  | some told => (lab, some told)
  | none => lab.waitThrough states

/-- What a waiter sleeps through, and when it wakes to look again. -/
structure Nap where
  states : List State
  woken : Instant

/-- A look of a waiter with a limit: at the pair, and then at the clock if there is a deadline. -/
def look (lab : Lab) (limit : Duration) (deadline : Option Instant) (now : Instant) :
    Option (Except Failure Unit) :=
  match lab.wait? with
  | some told => some told
  | none =>
    match deadline with
    | none => none
    | some deadline =>
      if deadline.nanos ≤ now.nanos then some (.error (.timedOut lab.target.name limit)) else none

/-- Looks now and after every nap, until a look ends the wait. -/
def waitUntil (limit : Duration) (deadline : Option Instant) (now : Instant) :
    List Nap → Lab → Lab × Option (Except Failure Unit)
  | [], lab => (lab, lab.look limit deadline now)
  | nap :: rest, lab =>
    match lab.look limit deadline now with
    | some told => (lab, some told)
    | none => waitUntil limit deadline nap.woken rest (lab.reportAll nap.states)

/-- Waits with a limit that begins to run now, while nothing is reported.  The waiter sleeps up to
its deadline; where the end of the limit is no moment, there is none to wake it. -/
def waitFor (lab : Lab) (limit : Duration) (now : Instant) : Lab × Option (Except Failure Unit) :=
  let deadline := now.after? limit
  waitUntil limit deadline now (deadline.map fun d => ⟨[], d⟩).toList lab

end Lab
end TargetControl
