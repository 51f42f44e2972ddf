import TargetControl.Proofs.Delivery
import TargetControl.Proofs.Draining
import TargetControl.Proofs.Waiting

/-!
The conduct of a processor that is driven through a target.

A direct processor stands for a machine with a state of its own: it runs when it is let run, stops
when it is stopped or stepped or halts of its own accord, and exits.  The target does not look at
that machine.  It keeps the state that was reported last, and lets a request through if that state is
the one the request needs.

As long as nobody else reports and nobody else asks the processor for anything, the two states are
the same between any two operations, and so the processor never takes a request that its machine is
not in a state for (`lawful_conduct`).  What one operation does to the log of the processor, to the
machine and to the target is an `Advance`; advances add up.
-/

namespace TargetControl

/-! ## The machine -/

/-- What moves the machine behind a processor: a call that the processor records, or something that
comes over the machine by itself. -/
inductive Motion where
  | call (request : Processor.Request)
  | halt
  | exit
deriving DecidableEq, Repr

namespace Motion

/-- The state of the machine after a motion. -/
def after : State → Motion → State
  | _, .call .cont => .running
  | _, .call .stop | _, .call .step | _, .halt => .stopped
  | _, .exit => .exited
  | s, .call _ => s

/-- Whether a machine in some state can take a motion.  A call to stop needs a machine that runs,
every other call one that is stopped; what the machine does by itself needs nothing. -/
def Legal (s : State) : Motion → Prop
  | .call .stop => s = .running
  | .call _ => s = .stopped
  | .halt | .exit => True

def call? : Motion → Option Processor.Request
  | .call request => some request
  | .halt | .exit => none

/-- What it means that a processor reports a state of its own accord. -/
def ofReport : State → Option Motion
  | .stopped => some .halt
  | .exited => some .exit
  | _ => none

/-- Some motions are legal one after another, from a state on. -/
def AllLegal : State → List Motion → Prop
  | _, [] => True
  | s, m :: rest => m.Legal s ∧ AllLegal (after s m) rest

theorem allLegal_append {s : State} {first second : List Motion} :
    AllLegal s (first ++ second) ↔ AllLegal s first ∧ AllLegal (first.foldl after s) second := by
  induction first generalizing s with
  | nil => simp [AllLegal]
  | cons m rest ih =>
    simp only [List.cons_append, AllLegal, List.foldl_cons, ih, and_assoc]

/-- The states that carrying out a call leads through end where the machine is after it. -/
theorem after_call (s : State) (request : Processor.Request) :
    after s (.call request) = request.states.getLast?.getD s := by
  cases request <;> rfl

/-- The state that a request needs is one in which the machine can take the call. -/
theorem legal_of_required {s : State} {request : Processor.Request}
    (h : s = (Request.processor request).action.required) : (Motion.call request).Legal s := by
  cases request <;> exact h

end Motion

/-- The state of a machine that starts stopped. -/
def machine (motions : List Motion) : State := motions.foldl Motion.after .stopped

namespace Lab

variable {n : Nat}

/-! ## Motions in a run -/

/-- The calls that a processor records from one lab to another. -/
def recorded (n : Nat) (a b : Lab) : List Processor.Request :=
  (b.bench.processors n).calls.drop (a.bench.processors n).calls.length

/-- What comes over the machine of a processor by itself.  It may do so while somebody waits. -/
def unasked (n : Nat) (lab : Lab) : Operation → List Motion
  | .signal handle states => if handle = n then states.filterMap Motion.ofReport else []
  | .wait states =>
    match lab.wait? with
    | some _ => []
    | none => states.filterMap Motion.ofReport
  | _ => []

/-- What moves the machine of a processor in the course of an operation. -/
def motions (n : Nat) (lab : Lab) (operation : Operation) : List Motion :=
  lab.unasked n operation ++ (recorded n lab (lab.perform operation).1).map .call

/-- What moves the machine of a processor in the course of a run. -/
def itinerary (n : Nat) (lab : Lab) : List Operation → List Motion
  | [] => []
  | operation :: rest => lab.motions n operation ++ (lab.perform operation).1.itinerary n rest

/-! ## Runs in which nobody else interferes -/

/-- Nothing but one processor is attached for execution at some moments. -/
def Sole (n : Nat) (moments : List Moment) : Prop :=
  ∀ m ∈ moments, ∀ device, m.what = .attached .execution device → device = (.processor, n)

/-- The steps of a setup that are taken make no report, except that the processor may report in the
course of a request that the target hands to it. -/
def SetupConfined (n : Nat) : List SetupStep → Lab → Prop
  | [], _ => True
  | step :: rest, lab =>
    Sole n (lab.takeTrail step) ∧
      ((∃ r, step = .act (.processor r)) ∨ Silent (lab.takeTrail step)) ∧
      ((lab.take step).2 = .ok () → SetupConfined n rest (lab.take step).1)

/-- An operation in which nobody but one processor reports, and in which requests for execution go
through the target. -/
inductive Confined (n : Nat) (lab : Lab) : Operation → Prop where
  | request (r : Processor.Request) : Confined n lab (.act (.processor r))
  | own {states : List State} (h : ∀ s ∈ states, (Motion.ofReport s).isSome) :
    Confined n lab (.signal n states)
  | wait {states : List State} (h : ∀ s ∈ states, (Motion.ofReport s).isSome) :
    Confined n lab (.wait states)
  | init
    (h : lab.target.initialized = false → ∀ setup, lab.target.setup = some setup →
      SetupConfined n (setup (lab.target.runs + 1)).steps (lab.setInitialized true).countRun) :
    Confined n lab .init
  | other {operation : Operation} (through : ∀ handle r, operation ≠ .serve handle (.processor r))
    (running : operation ≠ .init) (sole : Sole n (lab.trail operation))
    (silent : Silent (lab.trail operation)) : Confined n lab operation

def RunConfined (n : Nat) (lab : Lab) : List Operation → Prop
  | [] => True
  | operation :: rest =>
    lab.Confined n operation ∧ (lab.perform operation).1.RunConfined n rest

/-! ## One operation -/

/-- What is attached for execution is one processor. -/
def Holds (n : Nat) (lab : Lab) : Prop :=
  ∀ device, lab.target.slots .execution = some device → device = (.processor, n)

/-- A direct processor is there, and nothing else is attached for execution. -/
structure Ready (n : Nat) (lab : Lab) : Prop where
  made : n < lab.bench.installed
  direct : (lab.bench.processors n).delivery = .direct
  held : lab.Holds n

/-- From one lab to another the machine has made some motions, all of them legal, and the target has
followed it. -/
structure Advance (n : Nat) (a : Lab) (motions : List Motion) (b : Lab) : Prop where
  ready : b.Ready n
  state : b.target.cell.state = motions.foldl Motion.after a.target.cell.state
  calls : (b.bench.processors n).calls =
    (a.bench.processors n).calls ++ motions.filterMap Motion.call?
  legal : Motion.AllLegal a.target.cell.state motions

namespace Advance

variable {a b c : Lab} {first second : List Motion}

theorem trans (hab : Advance n a first b) (hbc : Advance n b second c) :
    Advance n a (first ++ second) c := by
  refine ⟨hbc.ready, ?_, ?_, ?_⟩
  · rw [hbc.state, hab.state, List.foldl_append]
  · rw [hbc.calls, hab.calls, List.filterMap_append, List.append_assoc]
  · rw [Motion.allLegal_append, ← hab.state]
    exact ⟨hab.legal, hbc.legal⟩

/-- What leaves the state of the target and the log of the processor alone does not move the
machine. -/
theorem still (hready : b.Ready n) (hstate : b.target.cell.state = a.target.cell.state)
    (hcalls : (b.bench.processors n).calls = (a.bench.processors n).calls) : Advance n a [] b :=
  ⟨hready, hstate, hcalls.trans (List.append_nil _).symm, trivial⟩

end Advance

/-- The machine has been moved by nothing but calls. -/
def Called (n : Nat) (a b : Lab) : Prop :=
  ∃ calls : List Processor.Request, Advance n a (calls.map .call) b

theorem Advance.recorded_eq {a b : Lab} {calls : List Processor.Request} (h : Advance n a (calls.map .call) b) :
    recorded n a b = calls := by
  have hcalls : (calls.map Motion.call).filterMap Motion.call? = calls := by
    rw [List.filterMap_map]
    exact List.filterMap_some
  rw [recorded, h.calls, hcalls, List.drop_left]

/-! ## What leaves the processor alone -/

theorem Holds.move {a b : Lab} {moments : List Moment} (hmove : Move True a moments b)
    (hsole : Sole n moments) (h : a.Holds n) : b.Holds n := by
  cases hmove with
  | idle hidle =>
    rw [Holds, hidle.slots]
    exact h
  | install | report | pass | close => exact h
  | @attach kind device label vacant fits labelled =>
    intro d hd
    rw [slots_attached] at hd
    split at hd
    · next hkind =>
      cases hd
      subst hkind
      exact hsole _ List.mem_cons_self device rfl
    · exact h d hd
  | shutdown =>
    intro d hd
    rw [shutdown_slots] at hd
    cases hd

theorem Holds.path {a b : Lab} {moments : List Moment} (hpath : Path True a moments b)
    (hsole : Sole n moments) (h : a.Holds n) : b.Holds n := by
  induction hpath with
  | refl => exact h
  | move hmove _ ih =>
    have hfirst := h.move hmove fun m hm => hsole m (List.mem_append_left _ hm)
    exact ih (fun m hm => hsole m (List.mem_append_right _ hm)) hfirst

/-- What stays of a processor when others are called on. -/
structure Spared (n : Nat) (x y : Bench) : Prop where
  installed : x.installed ≤ y.installed
  delivery : (y.processors n).delivery = (x.processors n).delivery
  calls : (y.processors n).calls = (x.processors n).calls

namespace Spared

theorem refl (x : Bench) : Spared n x x := ⟨Nat.le_refl _, rfl, rfl⟩

theorem of_processors {x y : Bench} (hinstalled : x.installed ≤ y.installed)
    (h : y.processors n = x.processors n) : Spared n x y :=
  ⟨hinstalled, by rw [h], by rw [h]⟩

theorem put (x : Bench) (k : Nat) {p : Processor}
    (hdelivery : p.delivery = (x.processors k).delivery)
    (hcalls : p.calls = (x.processors k).calls) :
    Spared n x { x with processors := Family.put x.processors k p } :=
  ⟨Nat.le_refl _, Family.put_keeps Processor.delivery hdelivery n,
    Family.put_keeps Processor.calls hcalls n⟩

theorem install {b : Bench} (made : n < b.installed) (label : String) (part : Part)
    (fittings : Fittings) : Spared n b (b.install label part fittings).1 := by
  refine of_processors ?_ ?_
  · rw [Bench.install_installed]
    exact Nat.le_succ _
  · have hne : n ≠ b.installed := Nat.ne_of_lt made
    cases part with
    | processor => exact Family.put_of_ne _ hne _
    | _ => rfl

theorem attach {lab : Lab} (made : n < lab.bench.installed) (x : Attachment) :
    Spared n lab.bench (lab.attachLabelled x).1.bench := by
  rw [attachLabelled_eq, attach_bench, setBench_bench, obtained]
  rcases lab.bench.obtain_cases x.label x.kind.part x.fittings with ⟨d, -, -, heq⟩ | heq
  · rw [heq]
    exact refl _
  · rw [heq]
    exact install made x.label x.kind.part x.fittings

theorem shutdown (lab : Lab) : Spared n lab.bench lab.shutdown.bench := by
  have hkept : ∀ {β : Type} {f : Processor → β}, (∀ p : Processor, f p.shutdown = f p) →
      f (lab.shutdown.bench.processors n) = f (lab.bench.processors n) := fun hf =>
    releaseAll_keeps hf lab.target.slots Capability.all lab.takeSlots n
  have hinstalled : lab.shutdown.bench.installed = lab.bench.installed :=
    (releaseAll_registry lab.target.slots Capability.all lab.takeSlots).2
  exact ⟨Nat.le_of_eq hinstalled.symm, hkept fun _ => rfl, hkept fun _ => rfl⟩

/-- A request for a memory or for registers calls on no processor, whichever device it goes to. -/
theorem serve (b : Bench) (device : Device) {request : Request} (h : request.part ≠ .processor) :
    Spared n b (b.serve device request).bench := by
  have hinstalled := (b.steady_serve device request).installed
  exact of_processors (Nat.le_of_eq hinstalled.symm) (by rw [queue_serve b device h])

theorem act (lab : Lab) {request : Request} (h : request.part ≠ .processor) :
    Spared n lab.bench (lab.act request).1.bench := by
  cases hslot : lab.target.slots request.action.capability with
  | none =>
    rw [act_of_vacant hslot]
    exact refl _
  | some device =>
    by_cases hstate : lab.target.cell.state = request.action.required
    · rw [act_of_passes hslot hstate, serve_bench]
      exact serve _ device h
    · rw [act_of_wrongState hslot hstate]
      exact refl _

theorem report (b : Bench) (k : Nat) (states : List State) :
    Spared n b { b with
      processors := Family.put b.processors k ((b.processors k).report states).1 } := by
  refine put b k ?_ ?_ <;> rw [Processor.report_fst]

/-- A step of a setup calls on no processor, unless it makes a request for one. -/
theorem take {lab : Lab} (made : n < lab.bench.installed) {step : SetupStep}
    (h : ∀ r, step ≠ .act (.processor r)) : Spared n lab.bench (lab.take step).1.bench := by
  cases step with
  | nested | report | setEntry | removeEntry => exact refl _
  | attach x | offer x => exact attach made x
  | act request =>
    refine act lab fun hpart => ?_
    cases request with
    | processor r => exact h r rfl
    | memory r => cases hpart
    | registers r => cases hpart
  | shutdown => exact shutdown lab

/-- The same holds of an operation that is no initialization. -/
theorem perform {lab : Lab} (made : n < lab.bench.installed) {operation : Operation}
    (hrunning : operation ≠ .init) (hact : ∀ r, operation ≠ .act (.processor r))
    (hserve : ∀ handle r, operation ≠ .serve handle (.processor r)) :
    Spared n lab.bench (lab.perform operation).1.bench := by
  cases operation with
  | init => exact absurd rfl hrunning
  | addSink | setEntry | removeEntry => exact refl _
  | waitFor limit now =>
    rw [perform_waitFor]
    exact refl _
  | install label part fittings => exact install made label part fittings
  | attach x => exact attach made x
  | shutdown => exact shutdown lab
  | report s => exact refl _
  | act request =>
    have hstep : ∀ r, SetupStep.act request ≠ .act (.processor r) := fun r hr =>
      hact r (by cases hr; rfl)
    exact take made hstep
  | wait states =>
    rw [perform_wait, wait]
    cases lab.wait? with
    | some told => exact refl _
    | none =>
      show Spared n lab.bench (lab.waitThrough states).1.bench
      rw [waitThrough_fst, reportAll_bench]
      exact refl _
  | deliver k =>
    show Spared n lab.bench (lab.deliver k).bench
    rw [deliver]
    cases hnext : (lab.bench.processors k).next? with
    | none => exact refl _
    | some next =>
      have hqueue := Processor.eq_of_next? hnext
      exact put lab.bench k (by rw [hqueue]) (by rw [hqueue])
  | serve k request =>
    show Spared n lab.bench (lab.serve (request.part, k) request).1.bench
    rw [serve_bench]
    refine serve _ _ fun hpart => ?_
    cases request with
    | processor r => exact hserve k r rfl
    | memory r => cases hpart
    | registers r => cases hpart
  | signal k states =>
    show Spared n lab.bench ((lab.setProcessor k _).reportAll _).bench
    rw [reportAll_bench]
    exact report lab.bench k states
  | arm k fault => exact put lab.bench k rfl rfl
  | load k address data => exact of_processors (Nat.le_refl _) rfl
  | close part k =>
    show Spared n lab.bench ((lab.setBench _).reportAll _).bench
    rw [reportAll_bench, setBench_bench]
    cases part with
    | processor => exact put lab.bench k rfl rfl
    | _ => exact of_processors (Nat.le_refl _) rfl

end Spared

/-- What is silent and calls on no processor leaves the machine where it is. -/
theorem Ready.still {a b : Lab} {moments : List Moment} (h : a.Ready n)
    (hspared : Spared n a.bench b.bench) (hpath : Path True a moments b) (hsole : Sole n moments)
    (hsilent : Silent moments) : Advance n a [] b :=
  .still ⟨Nat.lt_of_lt_of_le h.made hspared.installed, hspared.delivery.trans h.direct,
    h.held.path hpath hsole⟩ (hpath.state_of_silent hsilent) hspared.calls

/-! ## Requests for the processor -/

end Lab

/-- A direct processor that takes a request records it and reports the states it leads to; otherwise
it records and reports nothing. -/
theorem Processor.serve_cases {p : Processor} (hdirect : p.delivery = .direct) (r : Request) :
    ((p.serve r).processor.calls = p.calls ++ [r] ∧ (p.serve r).states = r.states) ∨
      ((p.serve r).processor.calls = p.calls ∧ (p.serve r).states = []) := by
  cases hfit : r.objection? with
  | some fault =>
    rw [serve, hfit]
    exact .inr ⟨rfl, rfl⟩
  | none =>
    cases harmed : p.armed with
    | some fault =>
      rw [serve, hfit, harmed]
      exact .inr ⟨rfl, rfl⟩
    | none =>
      rw [serve_taken hfit harmed]
      left
      cases r <;> simp only [report, hdirect, carryOut, insert, and_self]

namespace Lab

/-- The state after some reports is the last of them. -/
theorem state_publishAll (states : List State) (cell : Cell) :
    (cell.publishAll states).state = states.getLast?.getD cell.state := by
  rw [Cell.publishAll_eq]
  cases states.getLast? <;> rfl

theorem processor_serve (b : Bench) (r : Processor.Request) :
    (b.serve (.processor, n) (.processor r)).bench.processors n =
      ((b.processors n).serve r).processor := Family.put_same ..

theorem Ready.called {lab : Lab} (h : lab.Ready n) : Called n lab lab := ⟨[], .still h rfl rfl⟩

/-- A request that the target hands to the processor is a motion of the machine if the processor
records it, and nothing otherwise. -/
theorem Ready.act {lab : Lab} (h : lab.Ready n) (r : Processor.Request) :
    Called n lab (lab.act (.processor r)).1 := by
  have hexecution : (Request.processor r).action.capability = .execution := by
    cases r <;> rfl
  cases hslot : lab.target.slots (Request.processor r).action.capability with
  | none =>
    rw [act_of_vacant hslot]
    exact h.called
  | some device =>
    by_cases hstate : lab.target.cell.state = (Request.processor r).action.required
    · have hdevice : device = (.processor, n) := by
        rw [hexecution] at hslot
        exact h.held device hslot
      rw [act_of_passes hslot hstate, hdevice]
      generalize hcell : (Request.processor r).action.mark lab.target.cell = cell
      have hsame : cell.state = lab.target.cell.state := by
        rw [← hcell, Action.mark_state]
      have hready : ((lab.setCell cell).serve (.processor, n) (.processor r)).1.Ready n := by
        refine ⟨?_, ?_, ?_⟩
        · rw [serve_bench]
          exact h.made
        · rw [serve_bench, processor_serve, (Processor.serve_reporting _ r).1]
          exact h.direct
        · rw [Holds, serve_target]
          exact h.held
      -- the target has followed the reports of the processor
      have hfollowed : ((lab.setCell cell).serve (.processor, n) (.processor r)).1.target.cell.state =
          ((lab.bench.processors n).serve r).states.getLast?.getD lab.target.cell.state := by
        rw [serve_target, ← hsame]
        exact state_publishAll _ cell
      rcases Processor.serve_cases h.direct r with ⟨hcalls, hstates⟩ | ⟨hcalls, hstates⟩
      · refine ⟨[r], hready, ?_, ?_, Motion.legal_of_required hstate, trivial⟩
        · rw [hfollowed, hstates]
          exact (Motion.after_call _ r).symm
        · rw [serve_bench, processor_serve]
          exact hcalls
      · refine ⟨[], .still hready ?_ ?_⟩
        · rw [hfollowed, hstates]
          rfl
        · rw [serve_bench, processor_serve]
          exact hcalls
    · rw [act_of_wrongState hslot hstate]
      exact h.called

/-! ## Initialization -/

theorem Ready.of_target {a b : Lab} (h : a.Ready n) (hbench : b.bench = a.bench)
    (hslots : b.target.slots = a.target.slots) : b.Ready n :=
  ⟨by rw [hbench]; exact h.made, by rw [hbench]; exact h.direct, by
    rw [Holds, hslots]
    exact h.held⟩

theorem Ready.setupSteps {lab : Lab} (h : lab.Ready n) {steps : List SetupStep}
    (hconfined : SetupConfined n steps lab) :
    Called n lab (Lab.setupSteps quiet steps lab).1 := by
  induction steps generalizing lab with
  | nil => exact h.called
  | cons step rest ih =>
    obtain ⟨hsole, hown, hrest⟩ := hconfined
    have hfirst : Called n lab (lab.take step).1 := by
      by_cases hact : ∃ r, step = .act (.processor r)
      · obtain ⟨r, rfl⟩ := hact
        exact h.act r
      · have hspared : Spared n lab.bench (lab.take step).1.bench :=
          .take h.made fun r hr => hact ⟨r, hr⟩
        exact ⟨[], h.still hspared (path_take lab step) hsole (hown.resolve_left hact)⟩
    obtain ⟨calls, hcalls⟩ := hfirst
    rw [setupSteps_cons]
    show Called n lab (andThen (lab.take step) _).1
    revert hrest hcalls
    cases lab.take step with
    | mk next outcome =>
      intro hrest hcalls
      cases outcome with
      | error failure => exact ⟨calls, hcalls⟩
      | ok done =>
        obtain ⟨more, hmore⟩ := ih hcalls.ready (hrest rfl)
        refine ⟨calls ++ more, ?_⟩
        rw [List.map_append]
        exact hcalls.trans hmore

theorem Ready.init {lab : Lab} (h : lab.Ready n)
    (hconfined : lab.target.initialized = false → ∀ setup, lab.target.setup = some setup →
      SetupConfined n (setup (lab.target.runs + 1)).steps (lab.setInitialized true).countRun) :
    Called n lab lab.init.1 := by
  rw [init_eq]
  split
  · exact h.called
  · next hnot =>
    cases hsetup : lab.target.setup with
    | none => exact ⟨[], .still (h.of_target rfl rfl) rfl rfl⟩
    | some setup =>
      have hstart : Ready n (lab.setInitialized true).countRun := h.of_target rfl rfl
      obtain ⟨calls, hcalls⟩ :=
        hstart.setupSteps (hconfined (Bool.eq_false_iff.mpr hnot) setup hsetup)
      obtain ⟨flag, hflag⟩ := concluded_fst (runSetup quiet setup (lab.setInitialized true))
      refine ⟨calls, ?_⟩
      show Advance n lab _ (concluded (runSetup quiet setup (lab.setInitialized true))).1
      rw [hflag, runSetup_fst]
      exact ⟨hcalls.ready.of_target rfl rfl, hcalls.state, hcalls.calls, hcalls.legal⟩

/-! ## Runs -/

theorem Called.advance {lab : Lab} {operation : Operation} (h : Called n lab (lab.perform operation).1)
    (hunasked : lab.unasked n operation = []) :
    Advance n lab (lab.motions n operation) (lab.perform operation).1 := by
  obtain ⟨calls, hcalls⟩ := h
  rw [motions, hunasked, List.nil_append, hcalls.recorded_eq]
  exact hcalls

/-- A direct processor that reports of its own accord does so at once. -/
theorem Ready.signal {lab : Lab} (h : lab.Ready n) (states : List State) :
    lab.signal n states = lab.reportAll states := by
  rw [Lab.signal, Processor.report_direct h.direct]
  simp only [setProcessor, setBench, Family.put_self]

/-- What the processor reports of its own accord are motions of the machine. -/
theorem Ready.reportAll {lab : Lab} (h : lab.Ready n) {states : List State}
    (hown : ∀ s ∈ states, (Motion.ofReport s).isSome) :
    Advance n lab (states.filterMap Motion.ofReport) (lab.reportAll states) := by
  induction states generalizing lab with
  | nil => exact .still h rfl rfl
  | cons s rest ih =>
    have hready : (lab.report s).Ready n := h.of_target rfl rfl
    have hfirst : Advance n lab (Motion.ofReport s).toList (lab.report s) := by
      have hs := hown s List.mem_cons_self
      cases s with
      | stopped | exited =>
        exact ⟨hready, rfl, (List.append_nil _).symm, trivial, trivial⟩
      | _ => cases hs
    have hsplit : (s :: rest).filterMap Motion.ofReport =
        (Motion.ofReport s).toList ++ rest.filterMap Motion.ofReport := by
      rw [List.filterMap_cons]
      cases Motion.ofReport s <;> rfl
    rw [hsplit, reportAll_cons]
    exact hfirst.trans (ih hready fun s' hs' => hown s' (List.mem_cons_of_mem _ hs'))

/-- An operation that does no more than take reports of the processor. -/
theorem Ready.own {lab : Lab} (h : lab.Ready n) {operation : Operation} {states : List State}
    (hown : ∀ s ∈ states, (Motion.ofReport s).isSome)
    (hperform : (lab.perform operation).1 = lab.reportAll states)
    (hunasked : lab.unasked n operation = states.filterMap Motion.ofReport) :
    Advance n lab (lab.motions n operation) (lab.perform operation).1 := by
  have hrecorded : recorded n lab (lab.reportAll states) = [] := by
    rw [recorded, reportAll_bench]
    exact List.drop_length
  rw [motions, hperform, hunasked, hrecorded, List.map_nil, List.append_nil]
  exact h.reportAll hown

theorem Ready.wait {lab : Lab} (h : lab.Ready n) {states : List State}
    (hown : ∀ s ∈ states, (Motion.ofReport s).isSome) :
    Advance n lab (lab.motions n (.wait states)) (lab.perform (.wait states)).1 := by
  cases hwait : lab.wait? with
  | some told =>
    have hperform : (lab.perform (.wait states)).1 = lab := by
      rw [perform_wait, wait_of_released hwait]
    have hnone : ∀ s ∈ ([] : List State), (Motion.ofReport s).isSome := nofun
    exact h.own hnone hperform (by rw [unasked, hwait]; rfl)
  | none =>
    have hperform : (lab.perform (.wait states)).1 = lab.reportAll states := by
      rw [perform_wait, wait_of_blocked hwait]
    exact h.own hown hperform (by rw [unasked, hwait])

/-- Where nothing is reported, nothing comes over the machine. -/
theorem Ready.unasked_of_silent {lab : Lab} (h : lab.Ready n) {operation : Operation}
    (hsilent : Silent (lab.trail operation)) : lab.unasked n operation = [] := by
  have hnone : ∀ (a : Lab) (states : List State), Silent (a.reportTrail states) → states = [] := by
    intro a states ha
    cases states with
    | nil => rfl
    | cons s rest => exact absurd rfl (ha _ List.mem_cons_self _ _)
  cases operation with
  | signal handle states =>
    rw [unasked]
    split
    · next hhandle =>
      subst hhandle
      rw [trail, Processor.report_direct h.direct] at hsilent
      rw [hnone _ states hsilent]
      rfl
    · rfl
  | wait states =>
    rw [trail] at hsilent
    rw [unasked]
    revert hsilent
    cases lab.wait? with
    | some told => exact fun _ => rfl
    | none =>
      intro hsilent
      rw [hnone _ states hsilent]
      rfl
  | _ => rfl

theorem Ready.perform {lab : Lab} (h : lab.Ready n) {operation : Operation}
    (hconfined : lab.Confined n operation) :
    Advance n lab (lab.motions n operation) (lab.perform operation).1 := by
  cases hconfined with
  | request r => exact (h.act r).advance rfl
  | own hown => exact h.own hown (h.signal _) (if_pos rfl)
  | wait hown => exact h.wait hown
  | init hsteps => exact (h.init hsteps).advance rfl
  | other hthrough hrunning hsole hsilent =>
    by_cases hact : ∃ r, operation = .act (.processor r)
    · obtain ⟨r, rfl⟩ := hact
      exact (h.act r).advance rfl
    · have hspared : Spared n lab.bench (lab.perform operation).1.bench :=
        .perform h.made hrunning (fun r hr => hact ⟨r, hr⟩) hthrough
      have hpath := @path_perform True lab operation (.inl trivial)
      have hcalled : Called n lab (lab.perform operation).1 :=
        ⟨[], h.still hspared hpath hsole hsilent⟩
      exact hcalled.advance (h.unasked_of_silent hsilent)

theorem Ready.run {lab : Lab} (h : lab.Ready n) {operations : List Operation}
    (hconfined : lab.RunConfined n operations) :
    Advance n lab (lab.itinerary n operations) (lab.run operations) := by
  induction operations generalizing lab with
  | nil => exact .still h rfl rfl
  | cons operation rest ih =>
    have hfirst := h.perform hconfined.1
    exact hfirst.trans (ih hfirst.ready hconfined.2)

theorem RunConfined.of_append {lab : Lab} {first rest : List Operation}
    (h : lab.RunConfined n (first ++ rest)) : lab.RunConfined n first := by
  induction first generalizing lab with
  | nil => trivial
  | cons operation first ih => exact ⟨h.1, ih h.2⟩

/-- The conduct of a processor in a run, against the machine behind it. -/
structure LawfulConduct (n : Nat) (start : Lab) (operations : List Operation) : Prop where
  /-- at every point the target is in the state of the machine -/
  state : ∀ first rest, operations = first ++ rest →
    (start.run first).target.cell.state = machine (start.itinerary n first)
  /-- what is recorded are the calls that moved the machine -/
  log : ((start.run operations).bench.processors n).calls =
    (start.bench.processors n).calls ++ (start.itinerary n operations).filterMap Motion.call?
  call : ∀ before r later, start.itinerary n operations = before ++ .call r :: later →
    machine before = if r = .stop then .running else .stopped
  /-- once the machine has exited nothing is recorded until it halts -/
  exited : ∀ before m later, start.itinerary n operations = before ++ m :: later →
    machine before = .exited → m = .halt ∨ m = .exit

/-- A processor that is driven through a target only, from a first report that it has stopped on,
records nothing that its machine is not in a state for. -/
theorem lawful_conduct {n : Nat} {before : Lab} (hready : before.Ready n)
    {operations : List Operation}
    (hconfined : (before.report .stopped).RunConfined n operations) :
    LawfulConduct n (before.report .stopped) operations := by
  have hstart : (before.report .stopped).Ready n := hready.of_target rfl rfl
  have hrun := hstart.run hconfined
  have hlegal : ∀ first m later,
      (before.report .stopped).itinerary n operations = first ++ m :: later →
      m.Legal (machine first) := by
    intro first m later hsplit
    have hall := hrun.legal
    rw [hsplit, Motion.allLegal_append] at hall
    exact hall.2.1
  refine
    { state := fun first rest hsplit => ?_
      log := hrun.calls
      call := fun first r later hsplit => ?_
      exited := fun first m later hsplit hexited => ?_ }
  · subst hsplit
    exact (hstart.run hconfined.of_append).state
  · have hr := hlegal first (.call r) later hsplit
    cases r with
    | stop => exact hr
    | _ => exact hr
  · have hm := hlegal first m later hsplit
    rw [hexited] at hm
    cases m with
    | call r => cases r <;> cases hm
    | halt => exact .inl rfl
    | exit => exact .inr rfl

/-- A target with a processor that is to be driven. -/
def manned : Lab := bare.run [.attach ⟨.execution, "cpu", .plain⟩]

/-- The processor is let run, fails to stop once, is stopped and stepped; what it controls exits, and
halts after all, and halts again while somebody waits. -/
def excursion : List Operation :=
  [.act (.processor .cont), .arm 0 .timeout, .act (.processor .stop), .act (.processor .step),
    .act (.processor .stop), .act (.processor .step), .signal 0 [.exited], .act (.processor .cont),
    .signal 0 [.stopped], .act (.processor .cont), .wait [.stopped],
    .act (.processor (.removeBreakpoint ⟨1⟩))]

theorem lawful_conduct_excursion :
    manned.Ready 0 ∧ (manned.report .stopped).RunConfined 0 excursion ∧
      (manned.report .stopped).itinerary 0 excursion =
        [.call .cont, .call .stop, .call .step, .exit, .halt, .call .cont, .halt,
          .call (.removeBreakpoint ⟨1⟩)] ∧
      LawfulConduct 0 (manned.report .stopped) excursion := by
  have hready : manned.Ready 0 := by
    refine ⟨Nat.zero_lt_one, rfl, fun device hdevice => ?_⟩
    exact (Option.some.inj hdevice).symm
  have harm : ((manned.report .stopped).act (.processor .cont)).1.Confined 0 (.arm 0 .timeout) :=
    .other nofun nofun (fun _ hm => absurd hm List.not_mem_nil)
      fun _ hm => absurd hm List.not_mem_nil
  have hconfined : (manned.report .stopped).RunConfined 0 excursion :=
    ⟨.request _, harm, .request _, .request _, .request _, .request _, .own (by decide),
      .request _, .own (by decide), .request _, .wait (by decide), .request _, trivial⟩
  exact ⟨hready, hconfined, rfl, lawful_conduct hready hconfined⟩

end Lab
end TargetControl
