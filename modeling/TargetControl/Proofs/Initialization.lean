import TargetControl.Proofs.Edits
import TargetControl.Proofs.Frame

/-!
Initialization without the requests from within.

No step of a setup changes whether the target counts as initialized, and it does so from before the
first step on.  A request from within therefore finds nothing to do, and `init_eq` gives the
initialization of a target with such requests left out.
-/

namespace TargetControl
namespace Lab

/-- What a request from within does: nothing. -/
def quiet (lab : Lab) : Lab × Except Failure Unit := (lab, .ok ())

/-- Takes one step of a setup that is running. -/
def take (lab : Lab) (step : SetupStep) : Lab × Except Failure Unit := setupStep quiet lab step

theorem setupStep_of_ne (nested : Lab → Lab × Except Failure Unit) (lab : Lab) {step : SetupStep}
    (h : step ≠ .nested) : setupStep nested lab step = lab.take step := by
  cases step with
  | nested => exact absurd rfl h
  | _ => rfl

/-- Goes on from something that has not failed. -/
def andThen (r : Lab × Except Failure Unit) (next : Lab → Lab × Except Failure Unit) :
    Lab × Except Failure Unit :=
  match r with
  | (lab, .error failure) => (lab, .error failure)
  | (lab, .ok ()) => next lab

theorem setupSteps_cons (nested : Lab → Lab × Except Failure Unit) (step : SetupStep)
    (rest : List SetupStep) (lab : Lab) :
    setupSteps nested (step :: rest) lab =
      andThen (setupStep nested lab step) (setupSteps nested rest) := rfl

theorem andThen_keeps {I : Lab → Prop} {r : Lab × Except Failure Unit}
    {next : Lab → Lab × Except Failure Unit} (h : I r.1) (hnext : ∀ lab, I lab → I (next lab).1) :
    I (andThen r next).1 := by
  obtain ⟨lab, outcome⟩ := r
  cases outcome with
  | error failure => exact h
  | ok done => exact hnext lab h

theorem andThen_congr {r : Lab × Except Failure Unit} {next next' : Lab → Lab × Except Failure Unit}
    (h : r.2 = .ok () → next r.1 = next' r.1) : andThen r next = andThen r next' := by
  obtain ⟨lab, outcome⟩ := r
  cases outcome with
  | error failure => rfl
  | ok done => exact h rfl

theorem initWithin_of_initialized {lab : Lab} (h : lab.target.initialized = true) (room : Nat) :
    initWithin room lab = quiet lab := by
  cases room with
  | zero => rfl
  | succ room => rw [initWithin, if_pos h, quiet]

theorem setupStep_within {lab : Lab} (h : lab.target.initialized = true) (room : Nat)
    (step : SetupStep) : setupStep (initWithin room) lab step = lab.take step := by
  cases step with
  | nested => exact initWithin_of_initialized h room
  | _ => rfl

/-- A step of a setup changes the pair of the target and its slots, and its entries by what it
edits. -/
theorem take_edited (lab : Lab) (step : SetupStep) :
    ∃ cell slots, (lab.take step).1.target =
      { lab.target with cell, slots, entries := Edit.applyAll step.edits lab.target.entries } := by
  cases step with
  | nested => exact ⟨lab.target.cell, lab.target.slots, rfl⟩
  | report state => exact ⟨_, lab.target.slots, rfl⟩
  | attach a =>
    obtain ⟨slots, h⟩ := attachLabelled_target lab a
    exact ⟨lab.target.cell, slots, h⟩
  | offer a =>
    obtain ⟨slots, h⟩ := attachLabelled_target lab a
    exact ⟨lab.target.cell, slots, h⟩
  | act request =>
    obtain ⟨cell, h⟩ := act_target lab request
    exact ⟨cell, lab.target.slots, h⟩
  | setEntry key value => exact ⟨lab.target.cell, lab.target.slots, rfl⟩
  | removeEntry key => exact ⟨lab.target.cell, lab.target.slots, rfl⟩
  | shutdown =>
    obtain ⟨cell, h⟩ := shutdown_target lab
    exact ⟨cell, .empty, h⟩

/-- A step of a setup leaves the target initialized if it was, and its setup as it is. -/
theorem take_target (lab : Lab) (step : SetupStep) :
    ∃ cell slots entries, (lab.take step).1.target = { lab.target with cell, slots, entries } := by
  obtain ⟨cell, slots, h⟩ := take_edited lab step
  exact ⟨cell, slots, _, h⟩

theorem take_initialized (lab : Lab) (step : SetupStep) :
    (lab.take step).1.target.initialized = lab.target.initialized := by
  obtain ⟨cell, slots, entries, h⟩ := take_target lab step
  rw [h]

/-- Only an attachment that is no offer can fail. -/
theorem attach_of_take_error {lab : Lab} {step : SetupStep} {failure : Failure}
    (h : (lab.take step).2 = .error failure) : ∃ a, step = .attach a := by
  cases step with
  | attach a => exact ⟨a, rfl⟩
  | _ => cases h

theorem setupSteps_within (room : Nat) (steps : List SetupStep) {lab : Lab}
    (h : lab.target.initialized = true) :
    setupSteps (initWithin room) steps lab = setupSteps quiet steps lab := by
  induction steps generalizing lab with
  | nil => rfl
  | cons step rest ih =>
    have hnext : (lab.take step).1.target.initialized = true :=
      (take_initialized lab step).trans h
    rw [setupSteps_cons, setupSteps_cons, setupStep_within h room step]
    exact andThen_congr fun _ => ih hnext

theorem runSetup_within (room : Nat) (setup : Setup) {lab : Lab}
    (h : lab.target.initialized = true) :
    runSetup (initWithin room) setup lab = runSetup quiet setup lab := by
  have hcount : lab.countRun.target.initialized = true := h
  rw [runSetup, runSetup, setupSteps_within room _ hcount]

/-- How a run ends whose steps have ended in some way. -/
def ending (run : SetupRun) : Except Failure Unit → Except Failure Unit
  | .error failure => .error failure
  | .ok () =>
    match run.failure with
    | some failure => .error failure
    | none => .ok ()

theorem runSetup_eq (nested : Lab → Lab × Except Failure Unit) (setup : Setup) (lab : Lab) :
    runSetup nested setup lab =
      ((setupSteps nested (setup (lab.target.runs + 1)).steps lab.countRun).1,
        ending (setup (lab.target.runs + 1))
          (setupSteps nested (setup (lab.target.runs + 1)).steps lab.countRun).2) := by
  have hruns : lab.countRun.target.runs = lab.target.runs + 1 := rfl
  rw [runSetup, hruns]
  cases setupSteps nested (setup (lab.target.runs + 1)).steps lab.countRun with
  | mk after outcome =>
    cases outcome with
    | error failure => rfl
    | ok done =>
      simp only [ending]
      cases (setup (lab.target.runs + 1)).failure <;> rfl

/-- The lab after a run of a setup is the one after its steps. -/
theorem runSetup_fst (setup : Setup) (lab : Lab) :
    (runSetup quiet setup lab).1 =
      (setupSteps quiet (setup (lab.target.runs + 1)).steps lab.countRun).1 := by
  rw [runSetup_eq]

/-- The target does not count as initialized after a run of its setup that failed. -/
def concluded : Lab × Except Failure Unit → Lab × Except Failure Unit
  | (lab, .error failure) => (lab.setInitialized false, .error failure)
  | (lab, .ok ()) => (lab, .ok ())

theorem concluded_fst (r : Lab × Except Failure Unit) :
    ∃ flag, (concluded r).1 = r.1.setInitialized flag := by
  obtain ⟨lab, outcome⟩ := r
  cases outcome with
  | error failure => exact ⟨false, rfl⟩
  | ok done => exact ⟨lab.target.initialized, rfl⟩

theorem concluded_keeps {I : Lab → Prop} {r : Lab × Except Failure Unit} (h : I r.1)
    (hset : ∀ lab flag, I lab → I (lab.setInitialized flag)) : I (concluded r).1 := by
  obtain ⟨flag, hflag⟩ := concluded_fst r
  rw [hflag]
  exact hset r.1 flag h

/-- An initialization that fails ends with what the run left, but for the flag. -/
theorem of_concluded_error {r : Lab × Except Failure Unit} {after : Lab} {failure : Failure}
    (h : concluded r = (after, .error failure)) :
    r.2 = .error failure ∧ after = r.1.setInitialized false := by
  obtain ⟨lab, outcome⟩ := r
  cases outcome with
  | error own =>
    cases h
    exact ⟨rfl, rfl⟩
  | ok done => cases h

theorem initWithin_eq (room : Nat) (lab : Lab) :
    initWithin (room + 1) lab =
      if lab.target.initialized then (lab, .ok ())
      else
        match lab.target.setup with
        | none => (lab.setInitialized true, .ok ())
        | some setup => concluded (runSetup quiet setup (lab.setInitialized true)) := by
  rw [initWithin]
  split
  · rfl
  · show (match lab.target.setup with
      | none => _
      | some setup => _) = _
    cases lab.target.setup with
    | none => rfl
    | some setup =>
      have hset : (lab.setInitialized true).target.initialized = true := rfl
      simp only
      rw [runSetup_within room setup hset]
      rfl

/-- What initialization does.  Requests from within are left out. -/
theorem init_eq (lab : Lab) :
    lab.init =
      if lab.target.initialized then (lab, .ok ())
      else
        match lab.target.setup with
        | none => (lab.setInitialized true, .ok ())
        | some setup => concluded (runSetup quiet setup (lab.setInitialized true)) :=
  initWithin_eq 1 lab

/-- More room for requests from within one another makes no difference. -/
theorem initWithin_succ (room : Nat) (lab : Lab) : initWithin (room + 1) lab = lab.init :=
  (initWithin_eq room lab).trans (init_eq lab).symm

/-- A request from within is an initialization like any other. -/
theorem init_unfold (lab : Lab) :
    lab.init =
      if lab.target.initialized then (lab, .ok ())
      else
        match lab.target.setup with
        | none => (lab.setInitialized true, .ok ())
        | some setup => concluded (runSetup init setup (lab.setInitialized true)) := by
  rw [init_eq]
  cases lab.target.setup with
  | none => rfl
  | some setup =>
    have hset : (lab.setInitialized true).target.initialized = true := rfl
    have hwithin := runSetup_within 2 setup hset
    exact congrArg (fun r => if lab.target.initialized then (lab, .ok ()) else concluded r)
      hwithin.symm

theorem setupSteps_target (steps : List SetupStep) (lab : Lab) :
    ∃ cell slots entries, (setupSteps quiet steps lab).1.target =
      { lab.target with cell, slots, entries } := by
  have hsteps : ∀ (steps : List SetupStep) (start : Lab),
      (∃ cell slots entries, start.target = { lab.target with cell, slots, entries }) →
      ∃ cell slots entries, (setupSteps quiet steps start).1.target =
        { lab.target with cell, slots, entries } := by
    intro steps
    induction steps with
    | nil => exact fun start hstart => hstart
    | cons step rest ih =>
      rintro start ⟨_, _, _, hstart⟩
      obtain ⟨cell, slots, entries, htake⟩ := take_target start step
      rw [hstart] at htake
      exact andThen_keeps (r := start.take step) ⟨cell, slots, entries, htake⟩ ih
  exact hsteps steps lab ⟨lab.target.cell, lab.target.slots, lab.target.entries, rfl⟩

theorem init_setup (lab : Lab) : lab.init.1.target.setup = lab.target.setup := by
  rw [init_eq]
  split
  · rfl
  · cases hsetup : lab.target.setup with
    | none => exact hsetup
    | some setup =>
      obtain ⟨flag, hflag⟩ := concluded_fst (runSetup quiet setup (lab.setInitialized true))
      obtain ⟨cell, slots, entries, hsteps⟩ :=
        setupSteps_target (setup (lab.target.runs + 1)).steps (lab.setInitialized true).countRun
      show (concluded (runSetup quiet setup (lab.setInitialized true))).1.target.setup = some setup
      rw [hflag, runSetup_fst]
      exact (congrArg Target.setup hsteps).trans hsetup

/-- Of the operations only initialization changes more of a target than its pair, its slots and, by
an edit, its entries. -/
theorem perform_edited (lab : Lab) {operation : Operation} (h : operation ≠ .init) :
    ∃ cell slots, (lab.perform operation).1.target =
      { lab.target with
        cell, slots, entries := Edit.applyAll operation.edits lab.target.entries } := by
  have hreports : ∀ (start : Lab) (states : List State), start.target = lab.target →
      ∃ cell slots, (start.reportAll states).target = { lab.target with cell, slots } := by
    intro start states hstart
    rw [reportAll_target, hstart]
    exact ⟨_, lab.target.slots, rfl⟩
  cases operation with
  | init => exact absurd rfl h
  | install | addSink | arm | load => exact hreports _ [] rfl
  | waitFor limit now =>
    rw [perform_waitFor]
    exact hreports lab [] rfl
  | attach a => exact take_edited lab (.attach a)
  | shutdown => exact take_edited lab .shutdown
  | report state => exact take_edited lab (.report state)
  | act request => exact take_edited lab (.act request)
  | setEntry key value => exact take_edited lab (.setEntry key value)
  | removeEntry key => exact take_edited lab (.removeEntry key)
  | wait states =>
    rw [perform_wait, wait]
    cases lab.wait? with
    | some told => exact hreports lab [] rfl
    | none => exact waitThrough_fst lab states ▸ hreports lab states rfl
  | deliver handle =>
    show ∃ cell slots, (lab.deliver handle).target = { lab.target with cell, slots }
    rw [deliver]
    cases (lab.bench.processors handle).next? with
    | none => exact hreports lab [] rfl
    | some next => exact hreports (lab.setProcessor handle next.2) [next.1] rfl
  | serve handle request => exact hreports (lab.setBench _) _ rfl
  | signal handle states => exact hreports (lab.setProcessor handle _) _ rfl
  | close part handle => exact hreports (lab.setBench _) _ rfl

/-- Of the operations only initialization changes more of a target than its pair, its slots and its
entries. -/
theorem perform_target (lab : Lab) {operation : Operation} (h : operation ≠ .init) :
    ∃ cell slots entries, (lab.perform operation).1.target =
      { lab.target with cell, slots, entries } := by
  obtain ⟨cell, slots, htarget⟩ := perform_edited lab h
  exact ⟨cell, slots, _, htarget⟩

theorem perform_setup (lab : Lab) (operation : Operation) :
    (lab.perform operation).1.target.setup = lab.target.setup := by
  by_cases h : operation = .init
  · rw [h]
    exact init_setup lab
  · obtain ⟨cell, slots, entries, htarget⟩ := perform_target lab h
    rw [htarget]

theorem run_setup (lab : Lab) (operations : List Operation) :
    (lab.run operations).target.setup = lab.target.setup := by
  induction operations generalizing lab with
  | nil => rfl
  | cons operation rest ih => exact (ih _).trans (lab.perform_setup operation)

end Lab
end TargetControl
