import TargetControl.Device.Guest
import TargetControl.Device.Peripheral
import TargetControl.Family

/-!
The bench: the devices that are there, whether or not a target holds them.

A device is known by its part, which says what kind of device it is, and by a handle.  Handles are
given out one after another and never again.  A label stands for one device; putting another device
under it leaves the first as it is, so a target that holds the first still reaches it.
-/

namespace TargetControl

/-- The kinds of device. -/
inductive Part where
  | processor
  | memory
  | registers
  | peripheral
  | guest
deriving DecidableEq, Repr

/-- What a device is known by. -/
abbrev Device := Part × Nat

/-- The kind of device that is made for a slot. -/
def Capability.part : Capability → Part
  | .execution => .processor
  | .memory => .memory
  | .register => .registers
  | .signal | .monitor | .remoteMemory => .peripheral

/-- The kind of device that a request is for. -/
def Request.part : Request → Part
  | .processor _ => .processor
  | .memory _ => .memory
  | .registers _ => .registers

/-- What a device is made with.  Each kind of device takes what concerns it. -/
structure Fittings where
  /-- how a processor reports -/
  delivery : Delivery
  /-- the names in a register file -/
  names : List String
  /-- whether releasing a peripheral fails -/
  failing : Bool
  /-- how a guest behaves -/
  script : Script := .silent

/-- A processor that reports directly, the registers of a small processor, and a peripheral that
can be released. -/
def Fittings.plain : Fittings :=
  { delivery := .direct, names := RegisterFile.standardNames, failing := false }

/-- The devices by their handles, the labels of some of them, and the number of handles given
out. -/
structure Bench where
  processors : Nat → Processor
  memories : Nat → Memory
  registers : Nat → RegisterFile
  peripherals : Nat → Peripheral
  guests : Nat → Guest
  labels : Keyed String Device
  installed : Nat

namespace Bench

/-- A bench without labels.  What stands under the handles that have not been given out does not
matter. -/
def empty : Bench :=
  { processors := fun _ => .new .direct
    memories := fun _ => .new
    registers := fun _ => .new []
    peripherals := fun _ => .new false
    guests := fun _ => .new .silent
    labels := []
    installed := 0 }

/-! ## Installing -/

/-- Puts a new device on the bench, under a label. -/
def install (b : Bench) (label : String) (part : Part) (fittings : Fittings) : Bench × Device :=
  let handle := b.installed
  let b := { b with
    labels := Keyed.insert label (part, handle) b.labels, installed := handle + 1 }
  (match part with
    | .processor =>
      { b with processors := Family.put b.processors handle (.new fittings.delivery) }
    | .memory => { b with memories := Family.put b.memories handle .new }
    | .registers => { b with registers := Family.put b.registers handle (.new fittings.names) }
    | .peripheral => { b with peripherals := Family.put b.peripherals handle (.new fittings.failing) }
    | .guest => { b with guests := Family.put b.guests handle (.new fittings.script) },
    (part, handle))

/-- The device with a label, if it can serve where one of a kind is asked for.  Otherwise one of
that kind is made. -/
def obtain (b : Bench) (label : String) (part : Part) (fittings : Fittings) : Bench × Device :=
  match Keyed.find? label b.labels with
  | some device =>
    if device.1 = part ∨ device.1 = .guest then (b, device) else b.install label part fittings
  | none => b.install label part fittings

/-! ## Requests and release -/

/-- A bench after a request, the answer to it, and the states to be delivered at once. -/
structure Response where
  bench : Bench
  outcome : Except BackendFault Reply
  states : List State

/-- Hands a request to the device that serves it. -/
def serve (b : Bench) (device : Device) (request : Request) : Response :=
  match device, request with
  | (.guest, handle), request =>
    let r := (b.guests handle).serve request
    ⟨{ b with guests := Family.put b.guests handle r.guest }, r.outcome, r.states⟩
  | (_, handle), .processor request =>
    let r := (b.processors handle).serve request
    ⟨{ b with processors := Family.put b.processors handle r.processor }, r.outcome, r.states⟩
  | (_, handle), .memory request =>
    let (device, outcome) := (b.memories handle).serve request
    ⟨{ b with memories := Family.put b.memories handle device }, outcome, []⟩
  | (_, handle), .registers request =>
    let (device, outcome) := (b.registers handle).serve request
    ⟨{ b with registers := Family.put b.registers handle device }, outcome, []⟩

/-- A bench after a release, how the release went, and the states to be delivered at once. -/
structure Release where
  bench : Bench
  outcome : Except BackendFault Unit
  states : List State

/-- Shuts a device down. -/
def shutdown (b : Bench) : Device → Release
  | (.processor, handle) =>
    ⟨{ b with processors := Family.put b.processors handle (b.processors handle).shutdown },
      .ok (), []⟩
  | (.memory, handle) =>
    ⟨{ b with memories := Family.put b.memories handle (b.memories handle).shutdown }, .ok (), []⟩
  | (.registers, handle) =>
    ⟨{ b with registers := Family.put b.registers handle (b.registers handle).shutdown },
      .ok (), []⟩
  | (.peripheral, handle) =>
    let (device, outcome) := (b.peripherals handle).shutdown
    ⟨{ b with peripherals := Family.put b.peripherals handle device }, outcome, []⟩
  | (.guest, handle) =>
    let (device, outcome, states) := (b.guests handle).shutdown
    ⟨{ b with guests := Family.put b.guests handle device }, outcome, states⟩

/-- How often a device has been shut down. -/
def shutdowns (b : Bench) : Part → Nat → Nat
  | .processor, handle => (b.processors handle).shutdowns
  | .memory, handle => (b.memories handle).shutdowns
  | .registers, handle => (b.registers handle).shutdowns
  | .peripheral, handle => (b.peripherals handle).shutdowns
  | .guest, handle => (b.guests handle).shutdowns

/-- Shutting a device down counts for that device alone. -/
theorem shutdowns_shutdown (b : Bench) (device : Device) (part : Part) (handle : Nat) :
    (b.shutdown device).bench.shutdowns part handle =
      b.shutdowns part handle + if (part, handle) = device then 1 else 0 := by
  obtain ⟨part', handle'⟩ := device
  cases part' <;> cases part <;>
    simp only [shutdown, shutdowns, Family.put_apply, Prod.mk.injEq, reduceCtorEq, false_and,
      true_and, if_false, Nat.add_zero] <;>
    split <;> simp_all [Processor.shutdown, Memory.shutdown, RegisterFile.shutdown,
      Peripheral.shutdown, Guest.shutdown]

end Bench
end TargetControl
