import TargetControl.Proofs.Devices
import TargetControl.Proofs.Frame

/-!
Two labs side by side.

Two labs are alike if they differ in their devices and in whether the target counts as initialized,
and in nothing else.  How far they may differ in these is given by two relations, of which the one
between the benches has to outlast the making and the shutting down of devices.

A target looks at its devices only to call on them.  So whatever a caller does to two labs that are
alike, except for a request or an initialization, has the same answer in both and leaves them alike.
-/

namespace TargetControl

/-- A relation between benches that outlasts whatever a target does to its devices but requests. -/
structure Bench.Likeness (B : Bench → Bench → Prop) : Prop where
  labels : ∀ {x y}, B x y → y.labels = x.labels
  installed : ∀ {x y}, B x y → y.installed = x.installed
  install : ∀ {x y}, B x y → ∀ label part fittings,
    B (x.install label part fittings).1 (y.install label part fittings).1
  shutdown : ∀ {x y}, B x y → ∀ device, B (x.shutdown device).bench (y.shutdown device).bench ∧
    (y.shutdown device).outcome = (x.shutdown device).outcome ∧
    (y.shutdown device).states = (x.shutdown device).states

theorem Bench.Likeness.obtain {B : Bench → Bench → Prop} (like : Likeness B) {x y : Bench}
    (h : B x y) (label : String) (part : Part) (fittings : Fittings) :
    B (x.obtain label part fittings).1 (y.obtain label part fittings).1 ∧
      (y.obtain label part fittings).2 = (x.obtain label part fittings).2 := by
  have hinstall : B (x.install label part fittings).1 (y.install label part fittings).1 ∧
      (y.install label part fittings).2 = (x.install label part fittings).2 := by
    refine ⟨like.install h label part fittings, ?_⟩
    rw [install_device, install_device, like.installed h]
  rw [Bench.obtain, Bench.obtain, like.labels h]
  cases Keyed.find? label x.labels with
  | none => exact hinstall
  | some device =>
    by_cases hserves : device.1 = part ∨ device.1 = .guest
    · simp only [if_pos hserves]
      exact ⟨h, trivial⟩
    · simp only [if_neg hserves]
      exact hinstall

/-- Whether an operation asks a device for something, or runs a setup, which may. -/
def Operation.asks : Operation → Bool
  | .init | .act _ | .deliver _ | .serve .. | .signal .. | .arm .. | .load .. => true
  | _ => false

namespace Lab

/-- Does one thing after another, with the answers. -/
def play (step : Lab → Operation → Lab × Except Failure Answer) (lab : Lab) :
    List Operation → Lab × List (Except Failure Answer)
  | [] => (lab, [])
  | operation :: rest =>
    let later := play step (step lab operation).1 rest
    (later.1, (step lab operation).2 :: later.2)

theorem play_append (step : Lab → Operation → Lab × Except Failure Answer) (lab : Lab)
    (first second : List Operation) :
    play step lab (first ++ second) =
      ((play step (play step lab first).1 second).1,
        (play step lab first).2 ++ (play step (play step lab first).1 second).2) := by
  induction first generalizing lab with
  | nil => rfl
  | cons operation rest ih =>
    rw [List.cons_append, play, ih]
    rfl

/-! ## Changes apart from the devices -/

/-- A change of a lab that neither depends on the devices and the flag nor touches them. -/
structure Apart (change : Lab → Lab) : Prop where
  commutes : ∀ lab flag bench, change ((lab.setInitialized flag).setBench bench) =
    ((change lab).setInitialized flag).setBench bench
  flag : ∀ lab, (change lab).target.initialized = lab.target.initialized
  bench : ∀ lab, (change lab).bench = lab.bench

namespace Apart

theorem tell (c : Change) : Apart fun lab => lab.tell c :=
  ⟨fun _ _ _ => rfl, fun _ => rfl, fun _ => rfl⟩

theorem report (s : State) : Apart fun lab => lab.report s :=
  ⟨fun _ _ _ => rfl, fun _ => rfl, fun _ => rfl⟩

theorem setCell (cell : Cell) : Apart fun lab => lab.setCell cell :=
  ⟨fun _ _ _ => rfl, fun _ => rfl, fun _ => rfl⟩

theorem fillSlot (kind : Capability) (device : Device) : Apart fun lab => lab.fillSlot kind device :=
  ⟨fun _ _ _ => rfl, fun _ => rfl, fun _ => rfl⟩

theorem takeSlots : Apart fun lab => lab.takeSlots := ⟨fun _ _ _ => rfl, fun _ => rfl, fun _ => rfl⟩

theorem addSink (sink : Sink) : Apart fun lab => lab.addSink sink :=
  ⟨fun _ _ _ => rfl, fun _ => rfl, fun _ => rfl⟩

theorem setEntry (key : String) (value : Json) : Apart fun lab => (lab.setEntry key value).1 :=
  ⟨fun _ _ _ => rfl, fun _ => rfl, fun _ => rfl⟩

theorem removeEntry (key : String) : Apart fun lab => (lab.removeEntry key).1 :=
  ⟨fun _ _ _ => rfl, fun _ => rfl, fun _ => rfl⟩

theorem countRun : Apart fun lab => lab.countRun := ⟨fun _ _ _ => rfl, fun _ => rfl, fun _ => rfl⟩

theorem reportAll (states : List State) : Apart fun lab => lab.reportAll states := by
  refine ⟨fun lab flag bench => ?_, fun lab => ?_, fun lab => lab.reportAll_bench states⟩
  · induction states generalizing lab with
    | nil => rfl
    | cons s rest ih => exact ih (lab.report s)
  · rw [reportAll_target]

end Apart

/-! ## Likeness -/

/-- Two labs that differ in a flag and in their devices only, as two relations allow. -/
def Alike (F : Bool → Bool → Prop) (B : Bench → Bench → Prop) (a b : Lab) : Prop :=
  ∃ flag bench, F a.target.initialized flag ∧ B a.bench bench ∧
    b = (a.setInitialized flag).setBench bench

namespace Alike

variable {F : Bool → Bool → Prop} {B : Bench → Bench → Prop} {a b : Lab}

theorem flags (h : Alike F B a b) : F a.target.initialized b.target.initialized := by
  obtain ⟨flag, bench, hflag, hbench, rfl⟩ := h
  exact hflag

theorem benches (h : Alike F B a b) : B a.bench b.bench := by
  obtain ⟨flag, bench, hflag, hbench, rfl⟩ := h
  exact hbench

theorem target (h : Alike F B a b) :
    b.target = { a.target with initialized := b.target.initialized } := by
  obtain ⟨flag, bench, hflag, hbench, rfl⟩ := h
  rfl

theorem cell (h : Alike F B a b) : b.target.cell = a.target.cell := by
  rw [h.target]

theorem slots (h : Alike F B a b) : b.target.slots = a.target.slots := by
  rw [h.target]

theorem name (h : Alike F B a b) : b.target.name = a.target.name := by
  rw [h.target]

theorem entries (h : Alike F B a b) : b.target.entries = a.target.entries := by
  rw [h.target]

theorem change (h : Alike F B a b) {change : Lab → Lab} (apart : Apart change) :
    Alike F B (change a) (change b) := by
  obtain ⟨flag, bench, hflag, hbench, rfl⟩ := h
  refine ⟨flag, bench, ?_, ?_, apart.commutes a flag bench⟩
  · rw [apart.flag]
    exact hflag
  · rw [apart.bench]
    exact hbench

theorem setBench (h : Alike F B a b) {x y : Bench} (hbench : B x y) :
    Alike F B (a.setBench x) (b.setBench y) := by
  obtain ⟨flag, bench, hflag, _, rfl⟩ := h
  exact ⟨flag, y, hflag, hbench, rfl⟩

/-- Calls on the devices leave two labs alike if the same states are reported in the course of
them. -/
theorem call (h : Alike F B a b) {x y : Bench} (hbench : B x y) (states : List State) :
    Alike F B ((a.setBench x).reportAll states) ((b.setBench y).reportAll states) :=
  (h.setBench hbench).change (.reportAll states)

/-! ## Slots -/

theorem attach (h : Alike F B a b) (kind : Capability) (device : Device) :
    Alike F B (a.attach kind device).1 (b.attach kind device).1 ∧
      (b.attach kind device).2 = (a.attach kind device).2 := by
  cases hslot : a.target.slots kind with
  | some held =>
    have hhas : a.target.slots.has kind = true := Slots.has_of_some hslot
    have hhas' : b.target.slots.has kind = true := by
      rw [h.slots]
      exact hhas
    rw [attach_of_has hhas, attach_of_has hhas', h.name]
    exact ⟨h, rfl⟩
  | none =>
    have hslot' : b.target.slots kind = none := by
      rw [h.slots]
      exact hslot
    rw [attach_of_none hslot, attach_of_none hslot']
    exact ⟨(h.change (.fillSlot kind device)).change (.tell (.attached kind)), rfl⟩

theorem attachLabelled (like : Bench.Likeness B) (h : Alike F B a b) (x : Attachment) :
    Alike F B (a.attachLabelled x).1 (b.attachLabelled x).1 ∧
      (b.attachLabelled x).2 = (a.attachLabelled x).2 := by
  obtain ⟨hbench, hdevice⟩ := like.obtain h.benches x.label x.kind.part x.fittings
  have hset : Alike F B (a.setBench (a.obtained x).1) (b.setBench (b.obtained x).1) :=
    h.setBench hbench
  have hsame : (b.obtained x).2 = (a.obtained x).2 := hdevice
  rw [attachLabelled_eq, attachLabelled_eq, hsame]
  exact hset.attach x.kind (a.obtained x).2

theorem release (like : Bench.Likeness B) (h : Alike F B a b) (kind : Capability)
    (slot : Option Device) : Alike F B (a.release kind slot) (b.release kind slot) := by
  cases slot with
  | none => exact h
  | some device =>
    obtain ⟨hbench, -, hstates⟩ := like.shutdown h.benches device
    rw [release_some, release_some, hstates]
    exact (h.call hbench _).change (.tell (.detached kind))

theorem releaseAll (like : Bench.Likeness B) (h : Alike F B a b) (slots : Slots Device)
    (kinds : List Capability) : Alike F B (a.releaseAll slots kinds) (b.releaseAll slots kinds) := by
  induction kinds generalizing a b with
  | nil => exact h
  | cons kind kinds ih => exact ih (h.release like kind (slots kind))

theorem shutdown (like : Bench.Likeness B) (h : Alike F B a b) :
    Alike F B a.shutdown b.shutdown := by
  rw [Lab.shutdown, Lab.shutdown, h.slots]
  exact (h.change .takeSlots).releaseAll like a.target.slots Capability.all

theorem close (like : Bench.Likeness B) (h : Alike F B a b) (device : Device) :
    Alike F B (a.close device).1 (b.close device).1 ∧
      (b.close device).2 = (a.close device).2 := by
  obtain ⟨hbench, houtcome, hstates⟩ := like.shutdown h.benches device
  rw [Lab.close, Lab.close, houtcome, hstates]
  exact ⟨h.call hbench _, rfl⟩

/-! ## Requests -/

/-- A request is refused in both labs, or it is let through to the same device. -/
theorem act_cases (h : Alike F B a b) (request : Request) :
    (∃ failure, a.act request = (a, .error failure) ∧ b.act request = (b, .error failure)) ∨
    ∃ cell device, a.act request = (a.setCell cell).serve device request ∧
      b.act request = (b.setCell cell).serve device request := by
  have hslots := h.slots
  have hcell := h.cell
  cases hslot : a.target.slots request.action.capability with
  | none =>
    have hslot' : b.target.slots request.action.capability = none := by
      rw [hslots]
      exact hslot
    exact .inl ⟨_, act_of_vacant hslot, act_of_vacant hslot'⟩
  | some device =>
    have hslot' : b.target.slots request.action.capability = some device := by
      rw [hslots]
      exact hslot
    by_cases hstate : a.target.cell.state = request.action.required
    · have hstate' : b.target.cell.state = request.action.required := by
        rw [hcell]
        exact hstate
      refine .inr ⟨_, device, act_of_passes hslot hstate, ?_⟩
      rw [act_of_passes hslot' hstate', hcell]
    · have hstate' : b.target.cell.state ≠ request.action.required := by
        rw [hcell]
        exact hstate
      refine .inl ⟨_, act_of_wrongState hslot hstate, ?_⟩
      rw [act_of_wrongState hslot' hstate', hcell]

/-! ## Waiting -/

theorem wait? (h : Alike F B a b) : b.wait? = a.wait? := by
  have hreleased : b.released = a.released := by
    funext r
    cases r with
    | stopped => rfl
    | exited =>
      show Except.error (Failure.exited b.target.name) = .error (.exited a.target.name)
      rw [h.name]
  rw [Lab.wait?, Lab.wait?, h.cell, hreleased]

theorem waitThrough (h : Alike F B a b) (states : List State) :
    Alike F B (a.waitThrough states).1 (b.waitThrough states).1 ∧
      (b.waitThrough states).2 = (a.waitThrough states).2 := by
  induction states generalizing a b with
  | nil => exact ⟨h, rfl⟩
  | cons s rest ih =>
    have hfirst := h.change (.report s)
    obtain ⟨hafter, htold⟩ := ih hfirst
    refine ⟨hafter, ?_⟩
    show (b.report s).wait?.or ((b.report s).waitThrough rest).2 =
      (a.report s).wait?.or ((a.report s).waitThrough rest).2
    rw [hfirst.wait?, htold]

theorem wait (h : Alike F B a b) (states : List State) :
    Alike F B (a.wait states).1 (b.wait states).1 ∧ (b.wait states).2 = (a.wait states).2 := by
  rw [Lab.wait, Lab.wait, h.wait?]
  cases a.wait? with
  | some told => exact ⟨h, rfl⟩
  | none => exact h.waitThrough states

theorem waitFor (h : Alike F B a b) (limit : Duration) (now : Instant) :
    (b.waitFor limit now).2 = (a.waitFor limit now).2 := by
  rw [waitFor_eq, waitFor_eq, h.wait?, h.name]

/-! ## Operations -/

theorem perform (like : Bench.Likeness B) (h : Alike F B a b) {operation : Operation}
    (unasked : operation.asks = false) :
    Alike F B (a.perform operation).1 (b.perform operation).1 ∧
      (b.perform operation).2 = (a.perform operation).2 := by
  cases operation with
  | init | act | deliver | serve | signal | arm | load => cases unasked
  | install label part fittings =>
    exact ⟨h.setBench (like.install h.benches label part fittings), rfl⟩
  | addSink sink => exact ⟨h.change (.addSink sink), rfl⟩
  | attach x =>
    obtain ⟨hafter, houtcome⟩ := h.attachLabelled like x
    exact ⟨hafter, congrArg (Except.map fun _ => Answer.done) houtcome⟩
  | shutdown => exact ⟨h.shutdown like, rfl⟩
  | report state => exact ⟨h.change (.report state), rfl⟩
  | wait states =>
    obtain ⟨hafter, htold⟩ := h.wait states
    rw [perform_wait, perform_wait, htold]
    exact ⟨hafter, rfl⟩
  | waitFor limit now =>
    rw [perform_waitFor, perform_waitFor, h.waitFor limit now]
    exact ⟨h, rfl⟩
  | setEntry key value =>
    refine ⟨h.change (.setEntry key value), ?_⟩
    show Except.ok (Answer.previous (b.target.entries.find? key)) = _
    rw [h.entries]
    rfl
  | removeEntry key =>
    refine ⟨h.change (.removeEntry key), ?_⟩
    show Except.ok (Answer.previous (b.target.entries.find? key)) = _
    rw [h.entries]
    rfl
  | close part handle =>
    obtain ⟨hafter, houtcome⟩ := h.close like (part, handle)
    exact ⟨hafter, congrArg (Except.map fun _ => Answer.done) houtcome⟩

end Alike
end Lab
end TargetControl
