import TargetControl.Proofs.Devices
import TargetControl.Proofs.Initialization

/-!
The chronicle of a run: what happens in it, moment by moment.

A lab keeps no record of the reports it takes and the requests it lets through.  The chronicle
computes one beside the run.  Each operation has a trail, read off what the operation finds, and the
trails of a run follow one another.

`path_run` ties the two together.  A run is a path of small moves, each of which leaves in the
chronicle what it does, and a move that leaves nothing changes neither the pair nor the slots.  So a
law that every move keeps holds at every moment of every run.
-/

namespace TargetControl

/-- What a chronicle tells of. -/
inductive Happening where
  /-- a report is taken, and the state that it replaces -/
  | reported (before after : State)
  /-- a request is let through -/
  | passed (request : Request)
  | attached (kind : Capability) (device : Device)
  /-- a device is shut down by the target that holds it -/
  | released (kind : Capability) (device : Device)
deriving DecidableEq

/-- Something that happens, and the lab when it just has. -/
structure Moment where
  what : Happening
  lab : Lab

namespace Lab

/-! ## Trails -/

def reportTrail (lab : Lab) : List State → List Moment
  | [] => []
  | s :: rest =>
    ⟨.reported lab.target.cell.state s, lab.report s⟩ :: (lab.report s).reportTrail rest

def attachTrail (lab : Lab) (a : Attachment) : List Moment :=
  match lab.attachLabelled a with
  | (_, .error _) => []
  | (after, .ok ()) => [⟨.attached a.kind (lab.obtained a).2, after⟩]

def serveTrail (lab : Lab) (device : Device) (request : Request) : List Moment :=
  let r := lab.bench.serve device request
  (lab.setBench r.bench).reportTrail r.states

def actTrail (lab : Lab) (request : Request) : List Moment :=
  let action := request.action
  match action.check (lab.target.slots action.capability) lab.target.cell with
  | .error _ => []
  | .ok (device, cell) =>
    ⟨.passed request, lab.setCell cell⟩ :: (lab.setCell cell).serveTrail device request

def releaseTrail (lab : Lab) (kind : Capability) : Option Device → List Moment
  | none => []
  | some device =>
    let r := lab.bench.shutdown device
    ⟨.released kind device, lab.setBench r.bench⟩ :: (lab.setBench r.bench).reportTrail r.states

def releasesTrail (slots : Slots Device) : List Capability → Lab → List Moment
  | [], _ => []
  | kind :: kinds, lab =>
    lab.releaseTrail kind (slots kind) ++
      releasesTrail slots kinds (lab.release kind (slots kind))

def shutdownTrail (lab : Lab) : List Moment :=
  releasesTrail lab.target.slots Capability.all lab.takeSlots

def takeTrail (lab : Lab) : SetupStep → List Moment
  | .report state => lab.reportTrail [state]
  | .attach a | .offer a => lab.attachTrail a
  | .act request => lab.actTrail request
  | .shutdown => lab.shutdownTrail
  | .nested | .setEntry .. | .removeEntry _ => []

def setupTrail : List SetupStep → Lab → List Moment
  | [], _ => []
  | step :: rest, lab =>
    lab.takeTrail step ++
      match lab.take step with
      | (_, .error _) => []
      | (after, .ok ()) => setupTrail rest after

def initTrail (lab : Lab) : List Moment :=
  if lab.target.initialized then []
  else
    match lab.target.setup with
    | none => []
    | some setup =>
      setupTrail (setup (lab.target.runs + 1)).steps (lab.setInitialized true).countRun

/-- What happens in the course of an operation. -/
def trail (lab : Lab) : Operation → List Moment
  | .attach a => lab.attachTrail a
  | .init => lab.initTrail
  | .shutdown => lab.shutdownTrail
  | .report state => lab.reportTrail [state]
  | .act request => lab.actTrail request
  | .wait states =>
    match lab.wait? with
    | some _ => []
    | none => lab.reportTrail states
  | .deliver handle =>
    match (lab.bench.processors handle).next? with
    | none => []
    | some (state, device) => (lab.setProcessor handle device).reportTrail [state]
  | .serve handle request => lab.serveTrail (request.part, handle) request
  | .signal handle states =>
    let (device, states) := (lab.bench.processors handle).report states
    (lab.setProcessor handle device).reportTrail states
  | .close part handle =>
    let r := lab.bench.shutdown (part, handle)
    (lab.setBench r.bench).reportTrail r.states
  | .install .. | .addSink _ | .waitFor .. | .setEntry .. | .removeEntry _ | .arm .. | .load .. => []

/-- What happens in the course of a run. -/
def chronicle (lab : Lab) : List Operation → List Moment
  | [] => []
  | operation :: rest => lab.trail operation ++ (lab.perform operation).1.chronicle rest

end Lab

/-! ## Moves -/

/-- Between two labs nothing happens that a chronicle tells of. -/
structure Idle (a b : Lab) : Prop where
  cell : b.target.cell = a.target.cell
  slots : b.target.slots = a.target.slots
  bench : Bench.Steady a.bench b.bench

theorem Idle.ofBench {a b : Lab} (hcell : b.target.cell = a.target.cell)
    (hslots : b.target.slots = a.target.slots) (hbench : b.bench = a.bench) : Idle a b :=
  ⟨hcell, hslots, by rw [hbench]; exact .refl _⟩

theorem Idle.setBench (a : Lab) {b : Bench} (h : Bench.Steady a.bench b) : Idle a (a.setBench b) :=
  ⟨rfl, rfl, h⟩

/-- A move, and what it leaves in the chronicle.  Devices are shut down from elsewhere only in runs
that are tampered with. -/
inductive Move (tampered : Prop) : Lab → List Moment → Lab → Prop where
  | idle {a b : Lab} (h : Idle a b) : Move tampered a [] b
  | install (a : Lab) (label : String) (part : Part) (fittings : Fittings) :
    Move tampered a [] (a.setBench (a.bench.install label part fittings).1)
  | report (a : Lab) (s : State) :
    Move tampered a [⟨.reported a.target.cell.state s, a.report s⟩] (a.report s)
  | pass {a : Lab} {request : Request} {device : Device}
    (slot : a.target.slots request.action.capability = some device)
    (state : a.target.cell.state = request.action.required) :
    Move tampered a
      [⟨.passed request, a.setCell (request.action.mark a.target.cell)⟩]
      (a.setCell (request.action.mark a.target.cell))
  | attach {a : Lab} {kind : Capability} {device : Device} {label : String}
    (vacant : a.target.slots kind = none)
    (fits : device.1 = kind.part ∨ device.1 = .guest)
    (labelled : Keyed.find? label a.bench.labels = some device) :
    Move tampered a
      [⟨.attached kind device, (a.fillSlot kind device).tell (.attached kind)⟩]
      ((a.fillSlot kind device).tell (.attached kind))
  | shutdown (a : Lab) : Move tampered a a.shutdownTrail a.shutdown
  | close (a : Lab) (device : Device) (h : tampered) :
    Move tampered a [] (a.setBench (a.bench.shutdown device).bench)

/-- Moves one after another. -/
inductive Path (tampered : Prop) : Lab → List Moment → Lab → Prop where
  | refl (a : Lab) : Path tampered a [] a
  | move {a b c : Lab} {first rest : List Moment} (h : Move tampered a first b)
    (later : Path tampered b rest c) : Path tampered a (first ++ rest) c

namespace Path

variable {tampered : Prop} {a b c : Lab}

theorem one {moments : List Moment} (h : Move tampered a moments b) :
    Path tampered a moments b := by
  have hpath := Path.move h (.refl b)
  rwa [List.append_nil] at hpath

theorem trans {first second : List Moment} (hab : Path tampered a first b)
    (hbc : Path tampered b second c) : Path tampered a (first ++ second) c := by
  induction hab with
  | refl => exact hbc
  | move h _ ih =>
    rw [List.append_assoc]
    exact .move h (ih hbc)

theorem idle (h : Idle a b) : Path tampered a [] b := one (.idle h)

/-- An invariant of the moves is one of the paths. -/
theorem keeps {I : Lab → Prop}
    (step : ∀ {a b : Lab} {moments : List Moment}, Move tampered a moments b → I a → I b)
    {moments : List Moment} (h : Path tampered a moments b) (ha : I a) : I b := by
  induction h with
  | refl => exact ha
  | move hmove _ ih => exact ih (step hmove ha)

end Path

/-! ## Runs are paths -/

namespace Lab

variable {tampered : Prop}

theorem path_reportAll (lab : Lab) (states : List State) :
    Path tampered lab (lab.reportTrail states) (lab.reportAll states) := by
  induction states generalizing lab with
  | nil => exact .refl lab
  | cons s rest ih => exact .move (.report lab s) (ih (lab.report s))

theorem path_attachLabelled (lab : Lab) (a : Attachment) :
    Path tampered lab (lab.attachTrail a) (lab.attachLabelled a).1 := by
  -- the device is there or is made, and then the slot is looked at
  have hobtain : Path tampered lab [] (lab.setBench (lab.obtained a).1) := by
    rcases lab.bench.obtain_cases a.label a.kind.part a.fittings with ⟨d, _, _, heq⟩ | heq
    · rw [obtained, heq]
      exact .refl lab
    · rw [obtained, heq]
      exact .one (.install lab a.label a.kind.part a.fittings)
  rw [attachTrail, attachLabelled_eq]
  cases h : lab.target.slots a.kind with
  | some held =>
    have hhas : (lab.setBench (lab.obtained a).1).target.slots.has a.kind = true :=
      Slots.has_of_some h
    rw [attach_of_has hhas]
    exact hobtain
  | none =>
    have hnone : (lab.setBench (lab.obtained a).1).target.slots a.kind = none := h
    rw [attach_of_none hnone]
    exact hobtain.trans (.one (.attach hnone (Bench.obtain_part ..) (Bench.obtain_labelled ..)))

theorem path_serve (lab : Lab) (device : Device) (request : Request) :
    Path tampered lab (lab.serveTrail device request) (lab.serve device request).1 :=
  (Path.idle (.setBench lab (lab.bench.steady_serve device request))).trans (path_reportAll _ _)

theorem path_act (lab : Lab) (request : Request) :
    Path tampered lab (lab.actTrail request) (lab.act request).1 := by
  cases hslot : lab.target.slots request.action.capability with
  | none =>
    rw [act_of_vacant hslot, actTrail, hslot]
    exact .refl lab
  | some device =>
    by_cases hstate : lab.target.cell.state = request.action.required
    · rw [act_of_passes hslot hstate, actTrail, hslot, Action.check_some, if_pos hstate]
      exact .move (.pass hslot hstate) (path_serve _ device request)
    · rw [act_of_wrongState hslot hstate, actTrail, hslot, Action.check_some, if_neg hstate]
      exact .refl lab

theorem path_take (lab : Lab) (step : SetupStep) :
    Path tampered lab (lab.takeTrail step) (lab.take step).1 := by
  cases step with
  | nested => exact .refl lab
  | report state => exact path_reportAll lab [state]
  | attach a | offer a => exact path_attachLabelled lab a
  | act request => exact path_act lab request
  | setEntry key value => exact .idle (.ofBench rfl rfl rfl)
  | removeEntry key => exact .idle (.ofBench rfl rfl rfl)
  | shutdown => exact .one (.shutdown lab)

theorem path_setupSteps (steps : List SetupStep) (lab : Lab) :
    Path tampered lab (setupTrail steps lab) (setupSteps quiet steps lab).1 := by
  induction steps generalizing lab with
  | nil => exact .refl lab
  | cons step rest ih =>
    have hfirst := @path_take tampered lab step
    rw [setupTrail, setupSteps]
    rw [take] at hfirst ⊢
    revert hfirst
    cases setupStep quiet lab step with
    | mk after outcome =>
      intro hfirst
      cases outcome with
      | error failure =>
        rw [List.append_nil]
        exact hfirst
      | ok done => exact hfirst.trans (ih after)

theorem path_init (lab : Lab) : Path tampered lab lab.initTrail lab.init.1 := by
  rw [initTrail, init_eq]
  split
  · exact .refl lab
  · cases lab.target.setup with
    | none => exact .idle (.ofBench rfl rfl rfl)
    | some setup =>
      have hstart : Path tampered lab [] (lab.setInitialized true).countRun :=
        .idle (.ofBench rfl rfl rfl)
      have hsteps := hstart.trans (path_setupSteps (setup (lab.target.runs + 1)).steps _)
      obtain ⟨flag, hflag⟩ := concluded_fst (runSetup quiet setup (lab.setInitialized true))
      have hend : ∀ after : Lab, Path tampered after [] (after.setInitialized flag) :=
        fun after => .idle (.ofBench rfl rfl rfl)
      have hpath := hsteps.trans (hend _)
      rw [List.nil_append, List.append_nil] at hpath
      show Path tampered lab _ (concluded (runSetup quiet setup (lab.setInitialized true))).1
      rw [hflag, runSetup_fst]
      exact hpath

/-- An operation is a path.  Without a closing from elsewhere it is free of tampering. -/
theorem path_perform (lab : Lab) (operation : Operation)
    (h : tampered ∨ ∀ part handle, operation ≠ .close part handle) :
    Path tampered lab (lab.trail operation) (lab.perform operation).1 := by
  cases operation with
  | install label part fittings => exact .one (.install lab label part fittings)
  | addSink sink => exact .idle (.ofBench rfl rfl rfl)
  | attach a => exact path_attachLabelled lab a
  | init => exact path_init lab
  | shutdown => exact .one (.shutdown lab)
  | report state => exact path_reportAll lab [state]
  | act request => exact path_act lab request
  | wait states =>
    rw [trail, perform_wait, wait]
    cases lab.wait? with
    | some told => exact .refl lab
    | none =>
      show Path tampered lab (lab.reportTrail states) (lab.waitThrough states).1
      rw [waitThrough_fst]
      exact path_reportAll lab states
  | waitFor limit now =>
    rw [perform_waitFor]
    exact .refl lab
  | setEntry key value => exact .idle (.ofBench rfl rfl rfl)
  | removeEntry key => exact .idle (.ofBench rfl rfl rfl)
  | deliver handle =>
    show Path tampered lab _ (lab.deliver handle)
    rw [trail, deliver]
    cases hnext : (lab.bench.processors handle).next? with
    | none => exact .refl lab
    | some next =>
      obtain ⟨state, device⟩ := next
      have hsteady := lab.bench.steady_putProcessor handle (Processor.next?_shutdowns hnext)
      exact (Path.idle (.setBench lab hsteady)).trans
        (path_reportAll (lab.setProcessor handle device) [state])
  | serve handle request => exact path_serve lab (request.part, handle) request
  | signal handle states =>
    have hsteady := lab.bench.steady_putProcessor handle
      (Processor.report_shutdowns (lab.bench.processors handle) states)
    exact (Path.idle (.setBench lab hsteady)).trans (path_reportAll _ _)
  | arm handle fault => exact .idle (.setBench lab (lab.bench.steady_putProcessor handle rfl))
  | load handle address data => exact .idle (.setBench lab (lab.bench.steady_putMemory handle rfl))
  | close part handle =>
    have ht : tampered := h.resolve_right fun hne => hne part handle rfl
    exact (Path.one (.close lab (part, handle) ht)).trans (path_reportAll _ _)

/-- A run is a path, and its chronicle is what the moves on the path leave. -/
theorem path_run (lab : Lab) (operations : List Operation)
    (h : tampered ∨ ∀ part handle, .close part handle ∉ operations) :
    Path tampered lab (lab.chronicle operations) (lab.run operations) := by
  induction operations generalizing lab with
  | nil => exact .refl lab
  | cons operation rest ih =>
    have hfirst : tampered ∨ ∀ part handle, operation ≠ .close part handle :=
      h.imp_right fun hno part handle heq => hno part handle (heq ▸ List.mem_cons_self)
    have hrest : tampered ∨ ∀ part handle, .close part handle ∉ rest :=
      h.imp_right fun hno part handle hmem => hno part handle (List.mem_cons_of_mem _ hmem)
    exact (path_perform lab operation hfirst).trans (ih _ hrest)

theorem path_run_any (lab : Lab) (operations : List Operation) :
    Path True lab (lab.chronicle operations) (lab.run operations) :=
  path_run lab operations (.inl trivial)

/-! ## Where runs begin -/

/-- A lab with a target that has just been made, from nothing or from a configuration. -/
inductive Initial : Lab → Prop where
  | new (name : String) (setup : Option Setup) (files : FileTree) (now : Timestamp) :
    Initial (.new name setup files now)
  | configured {config : Config} {setup : Option Setup} {files : FileTree} {now : Timestamp}
    {lab : Lab} (h : ofConfig config setup files now = .ok lab) : Initial lab

theorem addTextLog_target (lab : Lab) (config : Config) :
    (lab.addTextLog config).1.target = lab.target := by
  unfold addTextLog
  repeat' split
  all_goals rfl

theorem addTextLog_bench (lab : Lab) (config : Config) :
    (lab.addTextLog config).1.bench = lab.bench := by
  unfold addTextLog
  repeat' split
  all_goals rfl

/-- A new target has not been reported on and holds nothing, and no device is there. -/
theorem Initial.fresh {lab : Lab} (h : Initial lab) :
    lab.target.cell = .fresh ∧ lab.target.slots = .empty ∧ lab.bench = .empty := by
  cases h with
  | new => exact ⟨rfl, rfl, rfl⟩
  | @configured config setup files now lab h =>
    have htarget := addTextLog_target (Lab.new config.name setup files now) config
    have hbench := addTextLog_bench (Lab.new config.name setup files now) config
    unfold ofConfig at h
    simp only at h
    split at h
    · cases h
    · next after hadd =>
      rw [hadd] at htarget hbench
      simp only [Except.ok.injEq] at h
      subst h
      have hcell : after.target.cell = .fresh := congrArg Target.cell htarget
      have hslots : after.target.slots = .empty := congrArg Target.slots htarget
      cases config.eventLog <;> exact ⟨hcell, hslots, hbench⟩

/-- A target without a setup, and nothing on disk. -/
def bare : Lab := .new "unit" none ⟨[], []⟩ .epoch

theorem initial_bare : bare.Initial := .new "unit" none ⟨[], []⟩ .epoch

/-- A lab that some run leads to. -/
def Reachable (lab : Lab) : Prop := ∃ start operations, Initial start ∧ start.run operations = lab

/-- A target that has been reported to have stopped, with a processor attached. -/
def halted : Lab := bare.run [.attach ⟨.execution, "cpu", .plain⟩, .report .stopped]

theorem reachable_halted : halted.Reachable := ⟨bare, _, initial_bare, rfl⟩

end Lab
end TargetControl
