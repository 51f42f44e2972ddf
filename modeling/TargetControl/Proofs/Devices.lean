import TargetControl.Device.Bench

/-!
What calls on a bench do to each device.

A bench keeps its devices in a family for each part.  Here they are seen one at a time: a request is
one call on the device that serves it, and leaves every other device as it is.  How often a device
has been shut down changes by shutting it down and by nothing else.
-/

namespace TargetControl

/-! ## One device -/

/-- A device with all that it holds. -/
inductive DeviceState where
  | processor (p : Processor)
  | memory (m : Memory)
  | registers (f : RegisterFile)
  | peripheral (p : Peripheral)
  | guest (g : Guest)

namespace DeviceState

/-- A device after a call, its answer, and the states that it reports before it answers. -/
structure Served where
  device : DeviceState
  outcome : Except BackendFault Reply
  states : List State

/-- One call on a device.  A device of a part serves the requests for its part, a guest serves all,
and otherwise there is nothing to call. -/
def serve : DeviceState → Request → Option Served
  | .processor p, .processor r =>
    some ⟨.processor (p.serve r).processor, (p.serve r).outcome, (p.serve r).states⟩
  | .memory m, .memory r => some ⟨.memory (m.serve r).1, (m.serve r).2, []⟩
  | .registers f, .registers r => some ⟨.registers (f.serve r).1, (f.serve r).2, []⟩
  | .guest g, r => some ⟨.guest (g.serve r).guest, (g.serve r).outcome, (g.serve r).states⟩
  | _, _ => none

end DeviceState

/-! ## Counters of the devices -/

theorem Processor.report_shutdowns (p : Processor) (states : List State) :
    (p.report states).1.shutdowns = p.shutdowns := by
  unfold Processor.report
  cases p.delivery with
  | direct => rfl
  | queued => cases h : p.isOpen <;> rfl

theorem Processor.carryOut_shutdowns (p : Processor) (r : Processor.Request) :
    (p.carryOut r).1.shutdowns = p.shutdowns := by
  cases r <;> rfl

theorem Processor.serve_shutdowns (p : Processor) (r : Processor.Request) :
    (p.serve r).processor.shutdowns = p.shutdowns := by
  unfold Processor.serve
  cases r.objection? with
  | some fault => rfl
  | none =>
    cases p.armed with
    | some fault => rfl
    | none =>
      show ((Processor.carryOut _ r).1.report r.states).1.shutdowns = p.shutdowns
      rw [Processor.report_shutdowns, Processor.carryOut_shutdowns]

theorem Processor.next?_shutdowns {p q : Processor} {s : State} (h : p.next? = some (s, q)) :
    q.shutdowns = p.shutdowns := by
  unfold Processor.next? at h
  cases hq : p.queue with
  | nil => simp [hq] at h
  | cons first rest =>
    simp only [hq, Option.some.injEq, Prod.mk.injEq] at h
    rw [← h.2]

theorem Memory.serve_shutdowns (m : Memory) (r : Memory.Request) :
    (m.serve r).1.shutdowns = m.shutdowns := by
  cases r with
  | read address size words raw =>
    show (m.read address size words raw).1.shutdowns = m.shutdowns
    unfold Memory.read
    split <;> rfl
  | write address size value words raw =>
    show (m.write address size value words raw).1.shutdowns = m.shutdowns
    unfold Memory.write
    repeat' split
    all_goals rfl

theorem RegisterFile.serve_shutdowns (f : RegisterFile) (r : RegisterFile.Request) :
    (f.serve r).1.shutdowns = f.shutdowns := by
  cases r with
  | read name => rfl
  | write name value =>
    show (f.write name value).1.shutdowns = f.shutdowns
    unfold RegisterFile.write
    split <;> rfl

namespace Bench

/-- What a device holds. -/
def device (b : Bench) : Device → DeviceState
  | (.processor, handle) => .processor (b.processors handle)
  | (.memory, handle) => .memory (b.memories handle)
  | (.registers, handle) => .registers (b.registers handle)
  | (.peripheral, handle) => .peripheral (b.peripherals handle)
  | (.guest, handle) => .guest (b.guests handle)

/-! ## Requests -/

/-- Handing a request to a device that can serve it is one call on that device. -/
theorem device_serve (b : Bench) {d : Device} {request : Request}
    (h : d.1 = request.part ∨ d.1 = .guest) :
    (b.device d).serve request = some ⟨(b.serve d request).bench.device d,
      (b.serve d request).outcome, (b.serve d request).states⟩ := by
  obtain ⟨part, handle⟩ := d
  cases part <;> cases request <;> simp [Request.part] at h <;>
    simp only [device, serve, DeviceState.serve, Family.put_same]

/-- Handing a request to a device that can serve it leaves every other device as it is. -/
theorem device_serve_of_ne (b : Bench) {d : Device} {request : Request}
    (h : d.1 = request.part ∨ d.1 = .guest) {other : Device} (hne : other ≠ d) :
    (b.serve d request).bench.device other = b.device other := by
  obtain ⟨part, handle⟩ := d
  obtain ⟨part', handle'⟩ := other
  have hhandle : part' = part → handle' ≠ handle := fun hp hh => hne (by rw [hp, hh])
  cases part <;> cases request <;> simp [Request.part] at h <;> cases part' <;>
    simp only [reduceCtorEq, false_implies, true_implies] at hhandle <;>
    simp only [device, serve, Family.put_apply, if_neg, hhandle, not_false_eq_true]

theorem heard_serve (b : Bench) (handle : Nat) (request : Request) :
    ((b.serve (.guest, handle) request).bench.guests handle).heard =
      (b.guests handle).heard ++ [request] := by
  show (Family.put b.guests handle ((b.guests handle).serve request).guest handle).heard = _
  rw [Family.put_same]
  rfl

/-! ## Steadiness -/

/-- Between two benches no device has been made, labelled or shut down. -/
structure Steady (a b : Bench) : Prop where
  labels : b.labels = a.labels
  installed : b.installed = a.installed
  shutdowns : ∀ part handle, b.shutdowns part handle = a.shutdowns part handle

theorem Steady.refl (b : Bench) : Steady b b := ⟨rfl, rfl, fun _ _ => rfl⟩

theorem steady_putProcessor (b : Bench) (handle : Nat) {p : Processor}
    (h : p.shutdowns = (b.processors handle).shutdowns) :
    Steady b { b with processors := Family.put b.processors handle p } := by
  refine ⟨rfl, rfl, fun part k => ?_⟩
  cases part with
  | processor => exact Family.put_keeps Processor.shutdowns h k
  | _ => rfl

theorem steady_putMemory (b : Bench) (handle : Nat) {m : Memory}
    (h : m.shutdowns = (b.memories handle).shutdowns) :
    Steady b { b with memories := Family.put b.memories handle m } := by
  refine ⟨rfl, rfl, fun part k => ?_⟩
  cases part with
  | memory => exact Family.put_keeps Memory.shutdowns h k
  | _ => rfl

theorem steady_putRegisters (b : Bench) (handle : Nat) {f : RegisterFile}
    (h : f.shutdowns = (b.registers handle).shutdowns) :
    Steady b { b with registers := Family.put b.registers handle f } := by
  refine ⟨rfl, rfl, fun part k => ?_⟩
  cases part with
  | registers => exact Family.put_keeps RegisterFile.shutdowns h k
  | _ => rfl

theorem steady_putGuest (b : Bench) (handle : Nat) {g : Guest}
    (h : g.shutdowns = (b.guests handle).shutdowns) :
    Steady b { b with guests := Family.put b.guests handle g } := by
  refine ⟨rfl, rfl, fun part k => ?_⟩
  cases part with
  | guest => exact Family.put_keeps Guest.shutdowns h k
  | _ => rfl

/-- No request makes, labels or shuts down a device. -/
theorem steady_serve (b : Bench) (d : Device) (request : Request) :
    Steady b (b.serve d request).bench := by
  obtain ⟨part, handle⟩ := d
  have hguest : Steady b (b.serve (.guest, handle) request).bench :=
    steady_putGuest b handle rfl
  cases part with
  | guest => exact hguest
  | _ =>
    cases request with
    | processor r => exact steady_putProcessor b handle (Processor.serve_shutdowns _ r)
    | memory r => exact steady_putMemory b handle (Memory.serve_shutdowns _ r)
    | registers r => exact steady_putRegisters b handle (RegisterFile.serve_shutdowns _ r)

/-! ## Shutting down and installing -/

@[simp] theorem shutdown_labels (b : Bench) (d : Device) :
    (b.shutdown d).bench.labels = b.labels := by
  obtain ⟨part, handle⟩ := d
  cases part <;> rfl

@[simp] theorem shutdown_installed (b : Bench) (d : Device) :
    (b.shutdown d).bench.installed = b.installed := by
  obtain ⟨part, handle⟩ := d
  cases part <;> rfl

@[simp] theorem install_device (b : Bench) (label : String) (part : Part) (fittings : Fittings) :
    (b.install label part fittings).2 = (part, b.installed) := rfl

@[simp] theorem install_labels (b : Bench) (label : String) (part : Part) (fittings : Fittings) :
    (b.install label part fittings).1.labels =
      Keyed.insert label (part, b.installed) b.labels := by
  cases part <;> rfl

@[simp] theorem install_installed (b : Bench) (label : String) (part : Part)
    (fittings : Fittings) : (b.install label part fittings).1.installed = b.installed + 1 := by
  cases part <;> rfl

/-- A new device has not been shut down, and making it shuts none down. -/
theorem shutdowns_install (b : Bench) (label : String) (part : Part) (fittings : Fittings)
    (part' : Part) (handle : Nat) :
    (b.install label part fittings).1.shutdowns part' handle =
      if (part', handle) = (part, b.installed) then 0 else b.shutdowns part' handle := by
  cases part <;> cases part' <;>
    simp only [install, shutdowns, Family.put_apply, Prod.mk.injEq, reduceCtorEq, false_and,
      true_and, if_false] <;>
    split <;> rfl

/-- A device is obtained by its label where one is there that serves, and made otherwise. -/
theorem obtain_cases (b : Bench) (label : String) (part : Part) (fittings : Fittings) :
    (∃ d, Keyed.find? label b.labels = some d ∧ (d.1 = part ∨ d.1 = .guest) ∧
      b.obtain label part fittings = (b, d)) ∨
    b.obtain label part fittings = b.install label part fittings := by
  cases h : Keyed.find? label b.labels with
  | none =>
    right
    simp only [Bench.obtain, h]
  | some d =>
    by_cases hd : d.1 = part ∨ d.1 = .guest
    · left
      refine ⟨d, rfl, hd, ?_⟩
      simp only [Bench.obtain, h, if_pos hd]
    · right
      simp only [Bench.obtain, h, if_neg hd]

/-- A device that has been obtained can serve where it was asked for. -/
theorem obtain_part (b : Bench) (label : String) (part : Part) (fittings : Fittings) :
    (b.obtain label part fittings).2.1 = part ∨ (b.obtain label part fittings).2.1 = .guest := by
  rcases obtain_cases b label part fittings with ⟨d, _, hd, heq⟩ | heq
  · rw [heq]
    exact hd
  · rw [heq]
    exact Or.inl rfl

/-- A device that has been obtained has a label. -/
theorem obtain_labelled (b : Bench) (label : String) (part : Part) (fittings : Fittings) :
    Keyed.find? label (b.obtain label part fittings).1.labels =
      some (b.obtain label part fittings).2 := by
  rcases obtain_cases b label part fittings with ⟨d, hfind, _, heq⟩ | heq
  · rw [heq]
    exact hfind
  · rw [heq, install_labels, install_device, Keyed.find?_insert, if_pos rfl]

end Bench
end TargetControl
