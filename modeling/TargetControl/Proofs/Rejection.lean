import TargetControl.Proofs.Guarding
import TargetControl.Proofs.Waiting

/-!
Requests that a device rejects.

The pair is unsettled when a request is let through, which is before the device is called.  A device
that then rejects the request without a report leaves it so.  The state is the one from before, but
a wait that would have been over at once now goes on to the next report that releases it.
-/

namespace TargetControl

/-- What a request that unsettles the pair has come to when its device has rejected it and has not
reported. -/
structure AfterRejection (lab after : Lab) (fault : BackendFault)
    (outcome : Except Failure Reply) : Prop where
  outcome : outcome = .error (.backend fault)
  state : after.target.cell.state = lab.target.cell.state
  settled : after.target.cell.settled = false
  kept : after.target.cell = lab.target.cell ↔ lab.target.cell.settled = false
  waits : Blocked after

theorem afterRejection {lab after : Lab} {fault : BackendFault} {outcome : Except Failure Reply}
    (houtcome : outcome = .error (.backend fault))
    (hcell : after.target.cell = ⟨lab.target.cell.state, false⟩) :
    AfterRejection lab after fault outcome := by
  have hblocked : after.wait? = none := by
    rw [Lab.wait?, hcell]
    rfl
  refine
    { outcome := houtcome
      state := by rw [hcell]
      settled := by rw [hcell]
      kept := ?_
      waits := Lab.blocked hblocked }
  rw [hcell]
  constructor
  · intro hkept
    rw [← hkept]
  · intro hsettled
    rw [← hsettled]

/-- A request that unsettles the pair leaves it so when its device rejects it without a report. -/
theorem request_rejected {lab : Lab} (h : lab.Reachable) {request : Request}
    (hunsettles : request.terms.unsettles = true) {device : Device}
    (hslot : lab.target.slots request.terms.kind = some device)
    (hstate : lab.target.cell.state = request.terms.required) {served : DeviceState.Served}
    (hcall : (lab.bench.device device).serve request = some served) {fault : BackendFault}
    (hfault : served.outcome = .error fault) (hsilent : served.states = []) :
    AfterRejection lab (lab.act request).1 fault (lab.act request).2 := by
  obtain ⟨served', hforwarded⟩ := h.forwarded hslot hstate
  have hsame : served' = served := Option.some.inj (hforwarded.call.symm.trans hcall)
  rw [hsame] at hforwarded
  refine afterRejection ?_ ?_
  · rw [hforwarded.outcome, hfault]
    rfl
  · rw [hforwarded.silent hsilent, Lab.past, hunsettles, Bool.not_true, Bool.and_false]
    rfl

/-- A target that has been reported to have stopped, with a processor that fails its next
request. -/
def Lab.armed : Lab := bare.run
  [.attach ⟨.execution, "cpu", .plain⟩, .report .stopped, .arm 0 .timeout]

theorem Lab.reachable_armed : armed.Reachable := ⟨bare, _, initial_bare, rfl⟩

theorem request_rejected_armed :
    Lab.armed.wait? = some (.ok ()) ∧
      AfterRejection Lab.armed (Lab.armed.act (.processor .cont)).1 .timeout
        (Lab.armed.act (.processor .cont)).2 :=
  ⟨rfl, @request_rejected Lab.armed Lab.reachable_armed (.processor .cont) rfl (.processor, 0) rfl
    rfl _ rfl .timeout rfl rfl⟩

/-- The pair is not kept by a request that is rejected without a report, and a wait that would have
been over goes on. -/
theorem rejection_loses_pair :
    Lab.armed.Reachable ∧ Lab.armed.wait? = some (.ok ()) ∧
      (Lab.armed.act (.processor .cont)).2 = .error (.backend .timeout) ∧
      (Lab.armed.bench.serve (.processor, 0) (.processor .cont)).states = [] ∧
      (Lab.armed.act (.processor .cont)).1.target.cell ≠ Lab.armed.target.cell ∧
      (Lab.armed.act (.processor .cont)).1.wait? = none :=
  ⟨Lab.reachable_armed, rfl, rfl, rfl, by decide, rfl⟩

end TargetControl
