import TargetControl.Proofs.Interleaving
import TargetControl.Proofs.SetupRuns

/-!
Callers that initialize one target, interleaved.

A call looks at the flag and raises it in one atomic step.  If the flag was down it runs the setup,
and takes the flag down again should the run fail.  If the flag was up it is answered at once, also
where the run that raised the flag has not come to its end.  Such a call is made by another thread
or from within the run itself, for which a thread has a stack of calls.

So an answer without a failure says that some run of the setup has succeeded, or that a run was under
way when the call looked.  `init_answers` says which, and `answered_within` that the second may come
without the first.
-/

namespace TargetControl

inductive InitStage where
  | called
  | running (run : Nat) (todo : List SetupStep)
  /-- its run has failed, and the flag is still up -/
  | failed (run : Nat) (failure : Failure)
  /-- about to return, from its own run if it has made one -/
  | answered (run? : Option Nat) (outcome : Except Failure Unit)

/-- What the threads that call tell of. -/
inductive InitMark where
  /-- a call has found the flag up -/
  | looked (thread : Nat)
  /-- a call has raised the flag and runs the setup -/
  | entered (thread run : Nat)
  | ended (run : Nat) (outcome : Except Failure Unit)
  /-- the flag is down again, since a run has failed -/
  | lowered (run : Nat)
  | answered (thread : Nat) (run? : Option Nat) (outcome : Except Failure Unit)

structure Callers where
  lab : Lab
  /-- the calls that each thread is in, the innermost first -/
  calls : Nat → List InitStage

namespace Callers

def opened (lab : Lab) : Callers := ⟨lab, fun _ => []⟩

def put (c : Callers) (i : Nat) (stack : List InitStage) : Callers :=
  { c with calls := Family.put c.calls i stack }

def setLab (c : Callers) (lab : Lab) : Callers := { c with lab }

/-- Where a call is whose run has returned. -/
def afterRun (run : Nat) : Except Failure Unit → InitStage
  | .ok () => .answered (some run) (.ok ())
  | .error failure => .failed run failure

/-- One step of a thread.  What else is done to the target, by whomever, is done between two steps. -/
inductive Step : Callers → List InitMark → Callers → Prop where
  | call {c : Callers} {i : Nat} (idle : c.calls i = []) : Step c [] (c.put i [.called])
  | spare {c : Callers} {i : Nat} {rest : List InitStage} (top : c.calls i = .called :: rest)
    (up : c.lab.target.initialized = true) :
    Step c [.looked i] (c.put i (.answered none (.ok ()) :: rest))
  | bare {c : Callers} {i : Nat} {rest : List InitStage} (top : c.calls i = .called :: rest)
    (down : c.lab.target.initialized = false) (unset : c.lab.target.setup = none) :
    Step c [] ((c.setLab (c.lab.setInitialized true)).put i (.answered none (.ok ()) :: rest))
  | enter {c : Callers} {i : Nat} {rest : List InitStage} {setup : Setup}
    (top : c.calls i = .called :: rest) (down : c.lab.target.initialized = false)
    (given : c.lab.target.setup = some setup) :
    Step c [.entered i (c.lab.target.runs + 1)]
      ((c.setLab c.lab.entered).put i
        (.running (c.lab.target.runs + 1) (setup (c.lab.target.runs + 1)).steps :: rest))
  | take {c : Callers} {i run : Nat} {step : SetupStep} {todo : List SetupStep}
    {rest : List InitStage} {lab : Lab} (top : c.calls i = .running run (step :: todo) :: rest)
    (own : step ≠ .nested) (taken : c.lab.take step = (lab, .ok ())) :
    Step c [] ((c.setLab lab).put i (.running run todo :: rest))
  | refuse {c : Callers} {i run : Nat} {step : SetupStep} {todo : List SetupStep}
    {rest : List InitStage} {lab : Lab} {failure : Failure}
    (top : c.calls i = .running run (step :: todo) :: rest) (own : step ≠ .nested)
    (refused : c.lab.take step = (lab, .error failure)) :
    Step c [.ended run (.error failure)] ((c.setLab lab).put i (.failed run failure :: rest))
  | nest {c : Callers} {i run : Nat} {todo : List SetupStep} {rest : List InitStage}
    (top : c.calls i = .running run (.nested :: todo) :: rest) :
    Step c [] (c.put i (.called :: .running run todo :: rest))
  /-- a call from within returns to the run -/
  | resume {c : Callers} {i run : Nat} {run? : Option Nat} {todo : List SetupStep}
    {rest : List InitStage} (top : c.calls i = .answered run? (.ok ()) :: .running run todo :: rest) :
    Step c [.answered i run? (.ok ())] (c.put i (.running run todo :: rest))
  | abort {c : Callers} {i run : Nat} {run? : Option Nat} {failure : Failure}
    {todo : List SetupStep} {rest : List InitStage}
    (top : c.calls i = .answered run? (.error failure) :: .running run todo :: rest) :
    Step c [.answered i run? (.error failure), .ended run (.error failure)]
      (c.put i (.failed run failure :: rest))
  | finish {c : Callers} {i run : Nat} {rest : List InitStage} {setup : Setup}
    (top : c.calls i = .running run [] :: rest) (given : c.lab.target.setup = some setup) :
    Step c [.ended run (Lab.ending (setup run) (.ok ()))]
      (c.put i (afterRun run (Lab.ending (setup run) (.ok ())) :: rest))
  | lower {c : Callers} {i run : Nat} {failure : Failure} {rest : List InitStage}
    (top : c.calls i = .failed run failure :: rest) :
    Step c [.lowered run]
      ((c.setLab (c.lab.setInitialized false)).put i
        (.answered (some run) (.error failure) :: rest))
  | leave {c : Callers} {i : Nat} {run? : Option Nat} {outcome : Except Failure Unit}
    (top : c.calls i = [.answered run? outcome]) :
    Step c [.answered i run? outcome] (c.put i [])
  | aside {c : Callers} {operation : Operation} (other : operation ≠ .init) :
    Step c [] (c.setLab (c.lab.perform operation).1)

/-! ## An undisturbed call -/

theorem put_put (c : Callers) (i : Nat) (first second : List InitStage) :
    (c.put i first).put i second = c.put i second := by
  rw [put, put, put, Family.put_put]

theorem calls_put (c : Callers) (i : Nat) (stack : List InitStage) :
    (c.put i stack).calls i = stack := Family.put_same ..

/-- Of two stacks that a thread is given in turn only the second matters. -/
theorem Step.again {c d : Callers} {i : Nat} {stack stack' : List InitStage} {log : List InitMark}
    (h : Step c log ((d.put i stack).put i stack')) : Step c log (d.put i stack') := by
  rwa [put_put] at h

/-- A run of the setup that nobody comes between. -/
theorem walk_run {setup : Setup} (i run : Nat) (rest : List InitStage) (todo : List SetupStep)
    {c : Callers} (up : c.lab.target.initialized = true) (given : c.lab.target.setup = some setup) :
    ∃ log, Walk Step (c.put i (.running run todo :: rest)) log
      ((c.setLab (Lab.setupSteps Lab.quiet todo c.lab).1).put i
        (afterRun run (Lab.ending (setup run) (Lab.setupSteps Lab.quiet todo c.lab).2) :: rest)) := by
  induction todo generalizing c with
  | nil =>
    have hfinish := Step.finish (calls_put c i (.running run [] :: rest)) given
    exact ⟨_, .one hfinish.again⟩
  | cons step todo ih =>
    by_cases hnested : step = .nested
    · -- the call from within finds the flag up
      subst hnested
      have hnest := (Step.nest (calls_put c i (.running run (.nested :: todo) :: rest))).again
      have hspare := (Step.spare (calls_put c i (.called :: .running run todo :: rest)) up).again
      have hresume := (Step.resume
        (calls_put c i (.answered none (.ok ()) :: .running run todo :: rest))).again
      obtain ⟨log, hlater⟩ := ih up given
      exact ⟨_, .step hnest (.step hspare (.step hresume hlater))⟩
    · have htop := calls_put c i (.running run (step :: todo) :: rest)
      obtain ⟨cell, slots, entries, htarget⟩ := c.lab.take_target step
      rw [Lab.setupSteps_cons]
      rcases htake : c.lab.take step with ⟨lab, outcome⟩
      rw [htake] at htarget
      rw [Lab.take] at htake
      rw [htake]
      cases outcome with
      | error failure =>
        have hrefuse : Step (c.put i (.running run (step :: todo) :: rest))
            [.ended run (.error failure)]
            (((c.setLab lab).put i (.running run (step :: todo) :: rest)).put i
              (.failed run failure :: rest)) := .refuse htop hnested htake
        exact ⟨_, .one hrefuse.again⟩
      | ok done =>
        have htaken : Step (c.put i (.running run (step :: todo) :: rest)) []
            (((c.setLab lab).put i (.running run (step :: todo) :: rest)).put i
              (.running run todo :: rest)) := .take htop hnested htake
        have hflag : lab.target.initialized = true := (congrArg Target.initialized htarget).trans up
        have hsetup : lab.target.setup = some setup := (congrArg Target.setup htarget).trans given
        obtain ⟨log, hlater⟩ := @ih (c.setLab lab) hflag hsetup
        exact ⟨_, .step htaken.again hlater⟩

theorem walk_leave {c : Callers} {i : Nat} (idle : c.calls i = []) (lab : Lab)
    (run? : Option Nat) (outcome : Except Failure Unit) :
    Walk Step ((c.setLab lab).put i [.answered run? outcome]) [.answered i run? outcome]
      (c.setLab lab) := by
  have hempty : (c.setLab lab).put i [] = c.setLab lab := by
    have hput : Family.put c.calls i [] = c.calls := by
      rw [← idle, Family.put_self]
    exact congrArg (Callers.mk lab) hput
  have hstep := (Step.leave (calls_put (c.setLab lab) i [.answered run? outcome])).again
  rw [hempty] at hstep
  exact .one hstep

theorem walk_end {c : Callers} {i : Nat} (idle : c.calls i = []) (run : Nat)
    (r : Lab × Except Failure Unit) :
    ∃ log, Walk Step ((c.setLab r.1).put i [afterRun run r.2])
      (log ++ [.answered i (some run) (Lab.concluded r).2]) (c.setLab (Lab.concluded r).1) := by
  obtain ⟨lab, outcome⟩ := r
  cases outcome with
  | ok done => exact ⟨[], walk_leave idle lab (some run) (.ok ())⟩
  | error failure =>
    have hlower : Step ((c.setLab lab).put i [.failed run failure]) [.lowered run]
        (((c.setLab (lab.setInitialized false)).put i [.failed run failure]).put i
          [.answered (some run) (.error failure)]) :=
      .lower (calls_put (c.setLab lab) i [.failed run failure])
    exact ⟨[.lowered run], .step hlower.again (walk_leave idle _ (some run) (.error failure))⟩

/-- A call that nobody comes between is an initialization. -/
theorem walk_init {c : Callers} {i : Nat} (idle : c.calls i = []) :
    ∃ log run?, Walk Step c (log ++ [.answered i run? c.lab.init.2]) (c.setLab c.lab.init.1) := by
  have hcall := Step.call idle
  rw [Lab.init_eq]
  cases hflag : c.lab.target.initialized with
  | true =>
    have hspare := (Step.spare (calls_put c i [.called]) hflag).again
    have hwalk := Walk.step hcall (.step hspare (walk_leave idle c.lab none (.ok ())))
    exact ⟨[.looked i], none, hwalk⟩
  | false =>
    cases hsetup : c.lab.target.setup with
    | none =>
      have hbare : Step (c.put i [.called]) []
          (((c.setLab (c.lab.setInitialized true)).put i [.called]).put i
            [.answered none (.ok ())]) := .bare (calls_put c i [.called]) hflag hsetup
      have hwalk := Walk.step hcall (.step hbare.again (walk_leave idle _ none (.ok ())))
      exact ⟨[], none, hwalk⟩
    | some setup =>
      have henter : Step (c.put i [.called]) [.entered i (c.lab.target.runs + 1)]
          (((c.setLab c.lab.entered).put i [.called]).put i
            [.running (c.lab.target.runs + 1) (setup (c.lab.target.runs + 1)).steps]) :=
        .enter (calls_put c i [.called]) hflag hsetup
      obtain ⟨marks, hrun⟩ : ∃ marks, Walk Step
          ((c.setLab c.lab.entered).put i
            [.running (c.lab.target.runs + 1) (setup (c.lab.target.runs + 1)).steps]) marks
          ((c.setLab (Lab.runSetup Lab.quiet setup (c.lab.setInitialized true)).1).put i
            [afterRun (c.lab.target.runs + 1)
              (Lab.runSetup Lab.quiet setup (c.lab.setInitialized true)).2]) := by
        rw [Lab.runSetup_eq]
        exact walk_run i (c.lab.target.runs + 1) [] _ rfl hsetup
      obtain ⟨log, hend⟩ := walk_end idle (c.lab.target.runs + 1)
        (Lab.runSetup Lab.quiet setup (c.lab.setInitialized true))
      have hwalk := Walk.step hcall (.step henter.again (hrun.trans hend))
      refine ⟨.entered i (c.lab.target.runs + 1) :: (marks ++ log), some (c.lab.target.runs + 1), ?_⟩
      show Walk Step c (.entered i (c.lab.target.runs + 1) :: (marks ++ log ++ _)) _
      rw [List.append_assoc]
      exact hwalk

end Callers

/-! ## What the marks say -/

def InitMark.thread? : InitMark → Option Nat
  | .looked i | .entered i _ | .answered i .. => some i
  | .ended .. | .lowered _ => none

def InitMark.run? : InitMark → Option Nat
  | .entered _ run | .ended run _ | .lowered run => some run
  | .looked _ => none
  | .answered _ run? _ => run?

def InitStage.run? : InitStage → Option Nat
  | .called => none
  | .running run _ | .failed run _ => some run
  | .answered run? _ => run?

def InitMark.lowers : InitMark → Bool
  | .lowered _ => true
  | _ => false

def Succeeded (log : List InitMark) : Prop := ∃ run, .ended run (.ok ()) ∈ log

/-- A run has been entered, has not succeeded, and its failure, if there has been one, has not been
noted in the flag. -/
structure UnderWay (run : Nat) (log : List InitMark) : Prop where
  entered : ∃ i, .entered i run ∈ log
  unended : .ended run (.ok ()) ∉ log
  raised : .lowered run ∉ log

/-- The last thing that a thread has done is to look at the flag, at a time when a run was under
way. -/
def Spared (i : Nat) (log : List InitMark) : Prop :=
  ∃ before after, log = before ++ .looked i :: after ∧ (∀ m ∈ after, m.thread? ≠ some i) ∧
    ∃ run, UnderWay run before

structure AnswerLaw (log : List InitMark) : Prop where
  /-- an answer without a failure has a run behind it that has succeeded, or one that was under way
  when the call looked -/
  ok : ∀ before i run? after, log = before ++ .answered i run? (.ok ()) :: after →
    Succeeded before ∨ run? = none ∧ Spared i before
  /-- a call that runs the setup is answered how its run has ended -/
  own : ∀ before i run outcome after, log = before ++ .answered i (some run) outcome :: after →
    .ended run outcome ∈ before
  /-- a call that does not has no failure to tell of -/
  other : ∀ before i outcome after, log = before ++ .answered i none outcome :: after →
    outcome = .ok ()

/-! ## The invariant -/

/-- A mark that a thread leaves while the runs of the setup have come to a number. -/
structure InitMark.Fits (i runs : Nat) (m : InitMark) : Prop where
  thread : ∀ j, m.thread? = some j → j = i
  run : ∀ run, m.run? = some run → run ≤ runs

/-- What the log holds of a call that is the innermost of its thread. -/
def InitStage.Backed (log : List InitMark) (i : Nat) : InitStage → Prop
  | .called | .running .. => True
  | .failed run failure => .ended run (.error failure) ∈ log
  | .answered (some run) outcome => .ended run outcome ∈ log
  | .answered none outcome => outcome = .ok () ∧ (Succeeded log ∨ Spared i log)

theorem Succeeded.append {log : List InitMark} (h : Succeeded log) (new : List InitMark) :
    Succeeded (log ++ new) := by
  obtain ⟨run, hrun⟩ := h
  exact ⟨run, List.mem_append_left new hrun⟩

theorem Spared.append {i : Nat} {log new : List InitMark} (h : Spared i log)
    (hnew : ∀ m ∈ new, m.thread? ≠ some i) : Spared i (log ++ new) := by
  obtain ⟨before, after, rfl, hafter, hway⟩ := h
  refine ⟨before, after ++ new, List.append_assoc .., fun m hm => ?_, hway⟩
  rcases List.mem_append.mp hm with hold | hmem
  · exact hafter m hold
  · exact hnew m hmem

theorem InitStage.Backed.append {i : Nat} {log new : List InitMark} {stage : InitStage}
    (h : stage.Backed log i) (hnew : ∀ m ∈ new, m.thread? ≠ some i) :
    stage.Backed (log ++ new) i := by
  cases stage with
  | called => trivial
  | running run todo => trivial
  | failed run failure => exact List.mem_append_left new h
  | answered run? outcome =>
    cases run? with
    | some run => exact List.mem_append_left new h
    | none => exact ⟨h.1, h.2.imp (·.append new) (·.append hnew)⟩

/-- The flag is up only for a run that is under way or has succeeded. -/
def Raised (log : List InitMark) : Prop := Succeeded log ∨ ∃ run, UnderWay run log

theorem Raised.append {log : List InitMark} (h : Raised log) {new : List InitMark}
    (hnew : ∀ m ∈ new, m.lowers = false) : Raised (log ++ new) := by
  rcases h with hok | ⟨run, hway⟩
  · exact .inl (hok.append new)
  · -- the run that was under way may be the one that succeeds now
    by_cases hended : .ended run (.ok ()) ∈ new
    · exact .inl ⟨run, List.mem_append_right log hended⟩
    · obtain ⟨i, hentered⟩ := hway.entered
      refine .inr ⟨run, ⟨i, List.mem_append_left new hentered⟩, ?_, ?_⟩
      · rw [List.mem_append, not_or]
        exact ⟨hway.unended, hended⟩
      · rw [List.mem_append, not_or]
        exact ⟨hway.raised, fun hmem => Bool.noConfusion (hnew _ hmem)⟩

def Bounded (runs : Nat) (stack : List InitStage) : Prop :=
  ∀ stage ∈ stack, ∀ run, stage.run? = some run → run ≤ runs

structure Kept (setup : Setup) (log : List InitMark) (c : Callers) : Prop where
  setup : c.lab.target.setup = some setup
  flag : c.lab.target.initialized = true → Raised log
  /-- runs are numbered in turn, so one that is entered has a number that is new -/
  numbered : ∀ m ∈ log, ∀ run, m.run? = some run → run ≤ c.lab.target.runs
  stages : ∀ i, Bounded c.lab.target.runs (c.calls i)
  top : ∀ i stage rest, c.calls i = stage :: rest → stage.Backed log i

/-- Two labs that differ in nothing that calls look at. -/
structure Lab.SameFlag (a b : Lab) : Prop where
  setup : b.target.setup = a.target.setup
  runs : b.target.runs = a.target.runs
  flag : b.target.initialized = a.target.initialized

theorem Lab.SameFlag.of_target {a b : Lab} (h : ∃ cell slots entries,
    b.target = { a.target with cell, slots, entries }) : SameFlag a b := by
  obtain ⟨cell, slots, entries, htarget⟩ := h
  refine ⟨?_, ?_, ?_⟩ <;> rw [htarget]

namespace Kept

variable {setup : Setup} {log : List InitMark} {c : Callers}

theorem opened {lab : Lab} (hsetup : lab.target.setup = some setup)
    (hflag : lab.target.initialized = false) : Kept setup [] (.opened lab) := by
  refine ⟨hsetup, fun hup => ?_, List.forall_mem_nil _, fun _ => List.forall_mem_nil _,
    fun _ _ _ => nofun⟩
  have hdown : lab.target.initialized = true := hup
  rw [hflag] at hdown
  cases hdown

theorem bounded (h : Kept setup log c) {i : Nat} {stage : InitStage} {rest : List InitStage}
    (top : c.calls i = stage :: rest) :
    (∀ run, stage.run? = some run → run ≤ c.lab.target.runs) ∧ Bounded c.lab.target.runs rest := by
  have hstack := h.stages i
  rw [top] at hstack
  exact List.forall_mem_cons.mp hstack

theorem move (h : Kept setup log c) {lab : Lab} {i : Nat} {stack : List InitStage}
    {new : List InitMark} (hsetup : lab.target.setup = c.lab.target.setup)
    (hruns : c.lab.target.runs ≤ lab.target.runs)
    (hflag : lab.target.initialized = true → Raised (log ++ new))
    (hnew : ∀ m ∈ new, m.Fits i lab.target.runs) (hstack : Bounded lab.target.runs stack)
    (htop : ∀ stage rest, stack = stage :: rest → stage.Backed (log ++ new) i) :
    Kept setup (log ++ new) ((c.setLab lab).put i stack) := by
  refine ⟨hsetup.trans h.setup, hflag, fun m hm run hrun => ?_, fun j stage hstage run hrun => ?_,
    fun j stage rest hj => ?_⟩
  -- what is kept of the other threads does not depend on the new marks, which are not theirs
  · rcases List.mem_append.mp hm with hold | hmem
    · exact Nat.le_trans (h.numbered m hold run hrun) hruns
    · exact (hnew m hmem).run run hrun
  · have hput : stage ∈ Family.put c.calls i stack j := hstage
    rw [Family.put_apply] at hput
    split at hput
    · exact hstack stage hput run hrun
    · exact Nat.le_trans (h.stages j stage hput run hrun) hruns
  · have hput : Family.put c.calls i stack j = stage :: rest := hj
    rw [Family.put_apply] at hput
    split at hput
    · next hji =>
      rw [hji]
      exact htop stage rest hput
    · next hji =>
      exact (h.top j stage rest hput).append fun m hm hthis => hji ((hnew m hm).thread j hthis)

/-- A step of one thread that leaves the flag as it is. -/
theorem stay (h : Kept setup log c) {lab : Lab} (hlab : Lab.SameFlag c.lab lab) {i : Nat}
    {stack : List InitStage} {new : List InitMark}
    (hnew : ∀ m ∈ new, m.Fits i c.lab.target.runs ∧ m.lowers = false)
    (hstack : Bounded c.lab.target.runs stack)
    (htop : ∀ stage rest, stack = stage :: rest → stage.Backed (log ++ new) i) :
    Kept setup (log ++ new) ((c.setLab lab).put i stack) := by
  refine h.move hlab.setup (Nat.le_of_eq hlab.runs.symm) ?_ ?_ ?_ htop
  · rw [hlab.flag]
    exact fun hup => (h.flag hup).append fun m hm => (hnew m hm).2
  · rw [hlab.runs]
    exact fun m hm => (hnew m hm).1
  · rw [hlab.runs]
    exact hstack

theorem spare (h : Kept setup log c) {i : Nat} {rest : List InitStage}
    (top : c.calls i = .called :: rest) (up : c.lab.target.initialized = true) :
    Kept setup (log ++ [.looked i]) (c.put i (.answered none (.ok ()) :: rest)) := by
  refine h.stay ⟨rfl, rfl, rfl⟩ ?_ (List.forall_mem_cons.mpr ⟨nofun, (h.bounded top).2⟩) ?_
  · exact List.forall_mem_singleton.mpr ⟨⟨fun _ heq => (Option.some.inj heq).symm, nofun⟩, rfl⟩
  · rintro _ _ ⟨⟩
    rcases h.flag up with hok | hway
    · exact ⟨rfl, .inl (hok.append _)⟩
    · exact ⟨rfl, .inr ⟨log, [], rfl, List.forall_mem_nil _, hway⟩⟩

/-- A run that is entered has a number that no mark has had, so nothing has been said of its end. -/
theorem enter (h : Kept setup log c) {i : Nat} {rest : List InitStage} (own : Setup)
    (top : c.calls i = .called :: rest) :
    Kept setup (log ++ [.entered i (c.lab.target.runs + 1)])
      ((c.setLab c.lab.entered).put i
        (.running (c.lab.target.runs + 1) (own (c.lab.target.runs + 1)).steps :: rest)) := by
  have hfresh : ∀ m : InitMark, m.run? = some (c.lab.target.runs + 1) → m ∉ log := by
    intro m hm hmem
    have hle := h.numbered m hmem _ hm
    omega
  have hrun : ∀ run, some (c.lab.target.runs + 1) = some run → run ≤ c.lab.target.runs + 1 :=
    fun run heq => Nat.le_of_eq (Option.some.inj heq).symm
  refine h.move rfl (Nat.le_succ _) (fun _ => .inr ⟨c.lab.target.runs + 1, ?_⟩) ?_ ?_ ?_
  · refine ⟨⟨i, List.mem_append_right log List.mem_cons_self⟩, ?_, ?_⟩
    · rw [List.mem_append, not_or]
      exact ⟨hfresh _ rfl, fun hmem => nomatch List.mem_singleton.mp hmem⟩
    · rw [List.mem_append, not_or]
      exact ⟨hfresh _ rfl, fun hmem => nomatch List.mem_singleton.mp hmem⟩
  · exact List.forall_mem_singleton.mpr ⟨fun _ heq => (Option.some.inj heq).symm, hrun⟩
  · refine List.forall_mem_cons.mpr ⟨hrun, fun stage hstage run heq => ?_⟩
    exact Nat.le_succ_of_le ((h.bounded top).2 stage hstage run heq)
  · rintro _ _ ⟨⟩
    trivial

theorem ended (h : Kept setup log c) {lab : Lab} (hlab : Lab.SameFlag c.lab lab) {i run : Nat}
    {rest : List InitStage} (hrun : run ≤ c.lab.target.runs)
    (hrest : Bounded c.lab.target.runs rest) (marks : List InitMark)
    (hmarks : ∀ m ∈ marks, m.Fits i c.lab.target.runs ∧ m.lowers = false)
    (outcome : Except Failure Unit) :
    Kept setup (log ++ (marks ++ [.ended run outcome]))
      ((c.setLab lab).put i (Callers.afterRun run outcome :: rest)) := by
  have hbound : ∀ run', some run = some run' → run' ≤ c.lab.target.runs :=
    fun run' heq => Option.some.inj heq ▸ hrun
  have hmem : .ended run outcome ∈ log ++ (marks ++ [.ended run outcome]) :=
    List.mem_append_right log (List.mem_append_right marks List.mem_cons_self)
  refine h.stay hlab (fun m hm => ?_) (List.forall_mem_cons.mpr ⟨?_, hrest⟩) ?_
  · rcases List.mem_append.mp hm with hmark | hlast
    · exact hmarks m hmark
    · rw [List.mem_singleton.mp hlast]
      exact ⟨⟨nofun, hbound⟩, rfl⟩
  · cases outcome <;> exact hbound
  · rintro _ _ ⟨⟩
    cases outcome <;> exact hmem

/-- Nothing is asked of the flag when it is down. -/
theorem lower (h : Kept setup log c) {i run : Nat} {failure : Failure} {rest : List InitStage}
    (top : c.calls i = .failed run failure :: rest) :
    Kept setup (log ++ [.lowered run])
      ((c.setLab (c.lab.setInitialized false)).put i
        (.answered (some run) (.error failure) :: rest)) := by
  obtain ⟨hrun, hrest⟩ := h.bounded top
  refine h.move rfl (Nat.le_refl _) nofun ?_ (List.forall_mem_cons.mpr ⟨hrun, hrest⟩) ?_
  · exact List.forall_mem_singleton.mpr ⟨nofun, hrun⟩
  · rintro _ _ ⟨⟩
    exact List.mem_append_left _ (h.top i _ rest top)

theorem step {new : List InitMark} {c' : Callers} (hstep : Callers.Step c new c')
    (h : Kept setup log c) : Kept setup (log ++ new) c' := by
  cases hstep with
  | @call i idle =>
    refine h.stay ⟨rfl, rfl, rfl⟩ (List.forall_mem_nil _) (List.forall_mem_singleton.mpr nofun) ?_
    rintro _ _ ⟨⟩
    trivial
  | spare top up => exact h.spare top up
  | bare top down unset =>
    -- there is a setup, and nobody takes it away
    rw [h.setup] at unset
    cases unset
  | @enter i rest own top down given => exact h.enter own top
  | @take i run step todo rest lab top own taken =>
    have hlab : Lab.SameFlag c.lab lab := by
      have htake := c.lab.take_target step
      rw [taken] at htake
      exact .of_target htake
    obtain ⟨hrun, hrest⟩ := h.bounded top
    refine h.stay hlab (List.forall_mem_nil _) (List.forall_mem_cons.mpr ⟨hrun, hrest⟩) ?_
    rintro _ _ ⟨⟩
    trivial
  | @refuse i run step todo rest lab failure top own refused =>
    have hlab : Lab.SameFlag c.lab lab := by
      have htake := c.lab.take_target step
      rw [refused] at htake
      exact .of_target htake
    obtain ⟨hrun, hrest⟩ := h.bounded top
    exact h.ended hlab (hrun run rfl) hrest [] (List.forall_mem_nil _) (.error failure)
  | @nest i run todo rest top =>
    obtain ⟨hrun, hrest⟩ := h.bounded top
    refine h.stay ⟨rfl, rfl, rfl⟩ (List.forall_mem_nil _)
      (List.forall_mem_cons.mpr ⟨nofun, List.forall_mem_cons.mpr ⟨hrun, hrest⟩⟩) ?_
    rintro _ _ ⟨⟩
    trivial
  | @resume i run run? todo rest top =>
    obtain ⟨hanswer, hrest⟩ := h.bounded top
    refine h.stay ⟨rfl, rfl, rfl⟩ ?_ hrest ?_
    · exact List.forall_mem_singleton.mpr
        ⟨⟨fun _ heq => (Option.some.inj heq).symm, hanswer⟩, rfl⟩
    · rintro _ _ ⟨⟩
      trivial
  | @abort i run run? failure todo rest top =>
    obtain ⟨hanswer, hrest⟩ := h.bounded top
    obtain ⟨hrun, hrest⟩ := List.forall_mem_cons.mp hrest
    refine h.ended ⟨rfl, rfl, rfl⟩ (hrun run rfl) hrest [_] ?_ (.error failure)
    exact List.forall_mem_singleton.mpr
      ⟨⟨fun _ heq => (Option.some.inj heq).symm, hanswer⟩, rfl⟩
  | @finish i run rest own top given =>
    obtain ⟨hrun, hrest⟩ := h.bounded top
    exact h.ended ⟨rfl, rfl, rfl⟩ (hrun run rfl) hrest [] (List.forall_mem_nil _) _
  | lower top => exact h.lower top
  | @leave i run? outcome top =>
    refine h.stay ⟨rfl, rfl, rfl⟩ ?_ (List.forall_mem_nil _) nofun
    exact List.forall_mem_singleton.mpr
      ⟨⟨fun _ heq => (Option.some.inj heq).symm, (h.bounded top).1⟩, rfl⟩
  | @aside operation other =>
    have hlab : Lab.SameFlag c.lab (c.lab.perform operation).1 :=
      .of_target (c.lab.perform_target other)
    rw [List.append_nil]
    refine ⟨hlab.setup.trans h.setup, ?_, ?_, ?_, h.top⟩
    · show (c.lab.perform operation).1.target.initialized = true → _
      rw [hlab.flag]
      exact h.flag
    · show ∀ m ∈ log, ∀ run, m.run? = some run → run ≤ (c.lab.perform operation).1.target.runs
      rw [hlab.runs]
      exact h.numbered
    · show ∀ i, Bounded (c.lab.perform operation).1.target.runs (c.calls i)
      rw [hlab.runs]
      exact h.stages

theorem of_walk {lab : Lab} (hsetup : lab.target.setup = some setup)
    (hflag : lab.target.initialized = false) (h : Walk Callers.Step (.opened lab) log c) :
    Kept setup log c := h.keeps_log step (opened hsetup hflag)

end Kept

/-! ## The answers -/

/-- A step that tells of the answer to a call tells of it first, and the call is the innermost of its
thread. -/
theorem Callers.Step.answered {c c' : Callers} {former latter log : List InitMark} {i : Nat}
    {run? : Option Nat} {outcome : Except Failure Unit} (h : Step c log c')
    (hlog : log = former ++ .answered i run? outcome :: latter) :
    former = [] ∧ ∃ rest, c.calls i = .answered run? outcome :: rest := by
  have hone : ∀ (m : InitMark) (marks : List InitMark),
      [m] = marks ++ .answered i run? outcome :: latter →
        marks = [] ∧ m = .answered i run? outcome := by
    intro m marks hm
    cases marks with
    | nil => exact ⟨rfl, (List.cons.inj hm).1⟩
    | cons x xs => cases xs <;> cases (List.cons.inj hm).2
  cases h with
  | call | bare | take | nest | aside => cases former <;> cases hlog
  | spare | enter | refuse | finish | lower => cases (hone _ _ hlog).2
  | resume top =>
    obtain ⟨hformer, heq⟩ := hone _ _ hlog
    cases heq
    exact ⟨hformer, _, top⟩
  | leave top =>
    obtain ⟨hformer, heq⟩ := hone _ _ hlog
    cases heq
    exact ⟨hformer, _, top⟩
  | abort top =>
    cases former with
    | nil =>
      cases hlog
      exact ⟨rfl, _, top⟩
    | cons x xs => cases (hone _ _ (List.cons.inj hlog).2).2

theorem Callers.backed {lab : Lab} {setup : Setup} (hsetup : lab.target.setup = some setup)
    (hflag : lab.target.initialized = false) {log before after : List InitMark} {c : Callers}
    (h : Walk Step (.opened lab) log c) {i : Nat} {run? : Option Nat}
    {outcome : Except Failure Unit} (hsplit : log = before ++ .answered i run? outcome :: after) :
    (InitStage.answered run? outcome).Backed before i := by
  obtain ⟨x, y, first, former, latter, hwalk, hstep, rfl⟩ := h.at_log hsplit
  obtain ⟨rfl, rest, htop⟩ := hstep.answered rfl
  rw [List.append_nil]
  exact (Kept.of_walk hsetup hflag hwalk).top i _ rest htop

/-- In every schedule of calls of a target that has a setup and has not been initialized. -/
theorem init_answers {lab : Lab} {setup : Setup} (hsetup : lab.target.setup = some setup)
    (hflag : lab.target.initialized = false) {log : List InitMark} {c : Callers}
    (h : Walk Callers.Step (.opened lab) log c) : AnswerLaw log := by
  refine
    { ok := fun before i run? after hsplit => ?_
      own := fun before i run outcome after hsplit => Callers.backed hsetup hflag h hsplit
      other := fun before i outcome after hsplit => (Callers.backed hsetup hflag h hsplit).1 }
  have hbacked := Callers.backed hsetup hflag h hsplit
  cases run? with
  | some run => exact .inl ⟨run, hbacked⟩
  | none => exact hbacked.2.imp id fun hspared => ⟨rfl, hspared⟩

namespace Callers

/-- A new target whose first run reports, after a call from within, and then fails. -/
def novice : Lab := .new "unit" (some Lab.stubborn) ⟨[], []⟩ .epoch

def notReady : Except Failure Unit := .error (.initFailed "unit" "not ready")

/-- A second thread calls while the run is under way, and returns when it has failed. -/
def overtaken : List InitMark :=
  [.entered 0 1, .looked 1, .looked 0, .answered 0 none (.ok ()), .ended 1 notReady, .lowered 1,
    .answered 0 (some 1) notReady, .answered 1 none (.ok ())]

theorem walk_overtaken : ∃ c, Walk Step (.opened novice) overtaken c := by
  have hcalls := Walk.step (Step.call (c := opened novice) (i := 0) rfl)
    (.step (.enter (i := 0) rfl rfl rfl) (.step (.call (i := 1) rfl) (.one (.spare (i := 1) rfl rfl))))
  have hwithin := hcalls.trans (.step (.nest (i := 0) rfl)
    (.step (.spare (i := 0) rfl rfl) (.one (.resume (i := 0) rfl))))
  have hfails := hwithin.trans (.step (.take (i := 0) rfl nofun rfl)
    (.step (.finish (i := 0) rfl rfl) (.step (.lower (i := 0) rfl) (.one (.leave (i := 0) rfl)))))
  exact ⟨_, hfails.trans (.one (.leave (i := 1) rfl))⟩

/-- A run makes a call from within, and then fails. -/
theorem walk_within :
    ∃ c, Walk Step (.opened novice)
      [.entered 0 1, .looked 0, .answered 0 none (.ok ()), .ended 1 notReady, .lowered 1,
        .answered 0 (some 1) notReady] c := by
  have hwithin := Walk.step (Step.call (c := opened novice) (i := 0) rfl)
    (.step (.enter (i := 0) rfl rfl rfl) (.step (.nest (i := 0) rfl)
      (.step (.spare (i := 0) rfl rfl) (.one (.resume (i := 0) rfl)))))
  have hfails := hwithin.trans (.step (.take (i := 0) rfl nofun rfl)
    (.step (.finish (i := 0) rfl rfl) (.step (.lower (i := 0) rfl) (.one (.leave (i := 0) rfl)))))
  exact ⟨_, hfails⟩

end Callers

theorem init_answers_overtaken :
    Callers.novice.target.setup = some Lab.stubborn ∧
      Callers.novice.target.initialized = false ∧
      ∃ c, Walk Callers.Step (.opened Callers.novice) Callers.overtaken c ∧
        AnswerLaw Callers.overtaken := by
  obtain ⟨c, hwalk⟩ := Callers.walk_overtaken
  exact ⟨rfl, rfl, c, hwalk, init_answers rfl rfl hwalk⟩

/-- An answer without a failure does not mean that some run has succeeded: the call from within a run
has one, and the run fails. -/
theorem answered_within :
    ¬ ∀ (lab : Lab) (setup : Setup) (log : List InitMark) (c : Callers), lab.Initial →
      lab.target.setup = some setup → Walk Callers.Step (.opened lab) log c →
        ∀ before i run? after, log = before ++ .answered i run? (.ok ()) :: after →
          Succeeded before := by
  intro hclaim
  obtain ⟨c, hwalk⟩ := Callers.walk_within
  obtain ⟨run, hrun⟩ := hclaim Callers.novice Lab.stubborn _ c (.new ..) rfl hwalk
    [.entered 0 1, .looked 0] 0 none _ rfl
  simp at hrun

end TargetControl
