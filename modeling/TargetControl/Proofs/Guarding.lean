import TargetControl.Proofs.Chronicle

/-!
What a guarded request does.

The terms of a request are written out, one row for each of the ten.  A request whose slot is empty
is refused whatever the state is, and one that comes in another state than it needs is refused with
both states named.  Neither changes anything.  A request that is let through is one call on the
device in its slot, with what the device answers handed on as it is.  Where the request unsettles
the pair, it does so before the call, so a report that the device makes within the call settles it
again.
-/

namespace TargetControl

/-! ## Terms -/

/-- What a request needs, and whether it unsettles the pair. -/
structure Terms where
  name : String
  kind : Capability
  required : State
  unsettles : Bool
deriving DecidableEq

def Request.terms : Request → Terms
  | .processor .cont => ⟨"cont", .execution, .stopped, true⟩
  | .processor .stop => ⟨"stop", .execution, .running, true⟩
  | .processor .step => ⟨"step", .execution, .stopped, true⟩
  | .processor (.setBreakpoint ..) => ⟨"set_breakpoint", .execution, .stopped, false⟩
  | .processor (.setWatchpoint ..) => ⟨"set_watchpoint", .execution, .stopped, false⟩
  | .processor (.removeBreakpoint _) => ⟨"remove_breakpoint", .execution, .stopped, false⟩
  | .memory (.read ..) => ⟨"read_memory", .memory, .stopped, false⟩
  | .memory (.write ..) => ⟨"write_memory", .memory, .stopped, false⟩
  | .registers (.read _) => ⟨"read_register", .register, .stopped, false⟩
  | .registers (.write ..) => ⟨"write_register", .register, .stopped, false⟩

/-- The action of a request keeps its terms. -/
theorem Request.terms_eq (request : Request) :
    request.terms = ⟨request.action.name, request.action.capability, request.action.required,
      request.action.unsettles⟩ := by
  cases request with
  | processor r => cases r <;> rfl
  | memory r => cases r <;> rfl
  | registers r => cases r <;> rfl

theorem Request.part_kind (request : Request) : request.terms.kind.part = request.part := by
  cases request with
  | processor r => cases r <;> rfl
  | memory r => cases r <;> rfl
  | registers r => cases r <;> rfl

theorem Action.mark_eq (a : Action) (cell : Cell) :
    a.mark cell = ⟨cell.state, cell.settled && !a.unsettles⟩ := by
  rw [mark]
  cases a.unsettles with
  | true => rw [if_pos rfl, Bool.not_true, Bool.and_false]; rfl
  | false => rw [if_neg Bool.false_ne_true, Bool.not_false, Bool.and_true]

/-! ## Slots -/

namespace Lab

/-- Every slot holds a device of the part that is made for it, or a guest. -/
def Fitting (lab : Lab) : Prop :=
  ∀ kind device, lab.target.slots kind = some device → device.1 = kind.part ∨ device.1 = .guest

theorem fitting_of_empty {lab : Lab} (h : lab.target.slots = .empty) : lab.Fitting := by
  intro kind device hheld
  rw [h] at hheld
  cases hheld

end Lab

theorem Move.fitting {tampered : Prop} {a b : Lab} {moments : List Moment}
    (hmove : Move tampered a moments b) (h : a.Fitting) : b.Fitting := by
  cases hmove with
  | idle hidle =>
    rw [Lab.Fitting, hidle.slots]
    exact h
  | install label part fittings => exact h
  | report s => exact h
  | pass slot state => exact h
  | @attach kind device label vacant fits labelled =>
    intro k d hheld
    rw [Lab.slots_attached] at hheld
    split at hheld
    · next hk =>
      cases hheld
      rw [hk]
      exact fits
    · exact h k d hheld
  | shutdown =>
    obtain ⟨cell, htarget⟩ := a.shutdown_target
    exact Lab.fitting_of_empty (by rw [htarget])
  | close device ht => exact h

theorem Lab.Reachable.fitting {lab : Lab} (h : lab.Reachable) : lab.Fitting := by
  obtain ⟨start, operations, hstart, rfl⟩ := h
  have hpath := start.path_run_any operations
  exact hpath.keeps Move.fitting (fitting_of_empty hstart.fresh.2.1)

/-! ## The contract -/

/-- The lab when a request has been let through and no device has been called yet. -/
def Lab.past (lab : Lab) (request : Request) : Lab :=
  lab.setCell ⟨lab.target.cell.state, lab.target.cell.settled && !request.terms.unsettles⟩

/-- A request has been one call on a device, and nothing else has happened but the reports that the
device made within the call. -/
structure Forwarded (lab : Lab) (request : Request) (device : Device)
    (served : DeviceState.Served) (after : Lab) (outcome : Except Failure Reply) : Prop where
  call : (lab.bench.device device).serve request = some served
  called : after.bench.device device = served.device
  /-- a guest keeps what it is asked, so it was asked once -/
  heard : ∀ handle, device = (.guest, handle) →
    (after.bench.guests handle).heard = (lab.bench.guests handle).heard ++ [request]
  others : ∀ other, other ≠ device → after.bench.device other = lab.bench.device other
  bench : Bench.Steady lab.bench after.bench
  /-- the answer, or the fault as it is -/
  outcome : outcome = served.outcome.mapError .backend
  target : after.target = { lab.target with cell := after.target.cell }
  /-- without a report the request has unsettled the pair, or left it -/
  silent : served.states = [] → after.target.cell = (lab.past request).target.cell
  /-- a report within the call comes after that, so it settles the pair -/
  reported : ∀ before s, served.states = before ++ [s] → after.target.cell = ⟨s, true⟩
  /-- the pair is unsettled before the device is called -/
  first : ∃ rest, lab.trail (.act request) = ⟨.passed request, lab.past request⟩ :: rest
  told : Lab.Told lab (Lab.transitions lab.target.cell.state served.states) after

/-- What becomes of a request. -/
structure GuardContract (lab : Lab) (request : Request) : Prop where
  vacant : lab.target.slots request.terms.kind = none →
    lab.act request =
      (lab, .error (.refused ⟨request.terms.name, .unavailable request.terms.kind⟩))
  wrongState : ∀ device, lab.target.slots request.terms.kind = some device →
    lab.target.cell.state ≠ request.terms.required →
    lab.act request = (lab, .error (.refused ⟨request.terms.name,
      .wrongState request.terms.required lab.target.cell.state⟩))
  forwarded : ∀ device, lab.target.slots request.terms.kind = some device →
    lab.target.cell.state = request.terms.required →
    ∃ served, Forwarded lab request device served (lab.act request).1 (lab.act request).2

namespace Lab

theorem past_eq (lab : Lab) (request : Request) :
    lab.past request = lab.setCell (request.action.mark lab.target.cell) := by
  rw [past, Action.mark_eq, request.terms_eq]

theorem act_forwarded {lab : Lab} {request : Request} {device : Device}
    (hslot : lab.target.slots request.action.capability = some device)
    (hstate : lab.target.cell.state = request.action.required)
    (hfits : device.1 = request.part ∨ device.1 = .guest) :
    ∃ served, Forwarded lab request device served (lab.act request).1 (lab.act request).2 := by
  have hact : lab.act request = (lab.past request).serve device request := by
    rw [act_of_passes hslot hstate, past_eq]
  have htrail : lab.trail (.act request) =
      ⟨.passed request, lab.past request⟩ :: (lab.past request).serveTrail device request := by
    rw [trail, actTrail, hslot, Action.check_some, if_pos hstate, past_eq]
  have hcell : ((lab.past request).serve device request).1.target.cell =
      Cell.publishAll (lab.bench.serve device request).states (lab.past request).target.cell := by
    rw [serve_target]
    rfl
  rw [hact]
  refine ⟨⟨(lab.bench.serve device request).bench.device device,
    (lab.bench.serve device request).outcome, (lab.bench.serve device request).states⟩, ?_⟩
  refine
    { call := lab.bench.device_serve hfits
      called := by rw [serve_bench]; rfl
      heard := fun handle hguest => ?_
      others := fun other hne => ?_
      bench := ?_
      outcome := serve_outcome _ device request
      target := by rw [serve_target]; rfl
      silent := fun hnone => ?_
      reported := fun before s hlast => ?_
      first := ⟨_, htrail⟩
      told := ?_ }
  · rw [serve_bench, hguest]
    exact lab.bench.heard_serve handle request
  · rw [serve_bench]
    exact lab.bench.device_serve_of_ne hfits hne
  · rw [serve_bench]
    exact lab.bench.steady_serve device request
  · have hstates : (lab.bench.serve device request).states = [] := hnone
    rw [hcell, hstates, Cell.publishAll_nil]
  · have hstates : (lab.bench.serve device request).states = before ++ [s] := hlast
    rw [hcell, hstates, Cell.publishAll_eq, List.getLast?_concat]
  · exact (Told.setCell lab _).trans (told_serve (lab.past request) device request)

theorem Reachable.forwarded {lab : Lab} (h : lab.Reachable) {request : Request} {device : Device}
    (hslot : lab.target.slots request.terms.kind = some device)
    (hstate : lab.target.cell.state = request.terms.required) :
    ∃ served, Forwarded lab request device served (lab.act request).1 (lab.act request).2 := by
  have hfits := h.fitting request.terms.kind device hslot
  rw [request.part_kind] at hfits
  rw [request.terms_eq] at hslot hstate
  exact act_forwarded hslot hstate hfits

theorem act_refused_vacant {lab : Lab} {request : Request}
    (hslot : lab.target.slots request.terms.kind = none) :
    lab.act request =
      (lab, .error (.refused ⟨request.terms.name, .unavailable request.terms.kind⟩)) := by
  rw [request.terms_eq] at hslot ⊢
  exact act_of_vacant hslot

theorem act_refused_state {lab : Lab} {request : Request} {device : Device}
    (hslot : lab.target.slots request.terms.kind = some device)
    (hstate : lab.target.cell.state ≠ request.terms.required) :
    lab.act request = (lab, .error (.refused ⟨request.terms.name,
      .wrongState request.terms.required lab.target.cell.state⟩)) := by
  rw [request.terms_eq] at hslot hstate ⊢
  exact act_of_wrongState hslot hstate

end Lab

/-- After every run, every request is refused without any change or is one call on the device in its
slot. -/
theorem guard_contract {lab : Lab} (h : lab.Reachable) (request : Request) :
    GuardContract lab request where
  vacant := fun hslot => Lab.act_refused_vacant hslot
  wrongState := fun _ hslot hstate => Lab.act_refused_state hslot hstate
  forwarded := fun _ hslot hstate => h.forwarded hslot hstate

theorem guard_contract_halted :
    Lab.halted.target.slots .execution = some (.processor, 0) ∧
      Lab.halted.target.cell.state = .stopped ∧ GuardContract Lab.halted (.processor .cont) :=
  ⟨rfl, rfl, guard_contract Lab.reachable_halted _⟩

end TargetControl
