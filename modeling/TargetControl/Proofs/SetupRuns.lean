import TargetControl.Proofs.Chronicle
import TargetControl.Proofs.Likeness

/-!
How often the setup of a target is run.

Before the first step of a run the target begins to count as initialized, and no step of the run
changes that, so a request from within a run finds nothing to do.  Between the runs only a failure
takes it back.  So each initialization that is answered with a failure is one run, the first that is
not is the last, and what comes after it runs the setup no more.

What a setup does may depend on what it finds.  In any one course of events its runs are still lists
of steps, so it does there what the setup of these lists does.

A target without a setup is changed by its initialization in nothing but the flag, and nothing but
initialization looks at that.  `Flagged` carries this over whole runs.
-/

namespace TargetControl

/-- Whether an operation is an initialization. -/
def Operation.initializes : Operation → Bool
  | .init => true
  | _ => false

namespace Lab

/-- The lab in which a run of the setup begins. -/
def entered (lab : Lab) : Lab := (lab.setInitialized true).countRun

/-- The answers to the initializations among some operations. -/
def initAnswers (lab : Lab) : List Operation → List (Except Failure Unit)
  | [] => []
  | operation :: rest =>
    (if operation.initializes then [lab.init.2] else []) ++
      (lab.perform operation).1.initAnswers rest

theorem initAnswers_init (lab : Lab) (rest : List Operation) :
    lab.initAnswers (.init :: rest) = lab.init.2 :: lab.init.1.initAnswers rest := rfl

theorem initAnswers_of_ne (lab : Lab) {operation : Operation} (h : operation ≠ .init)
    (rest : List Operation) :
    lab.initAnswers (operation :: rest) = (lab.perform operation).1.initAnswers rest := by
  cases operation with
  | init => exact absurd rfl h
  | _ => rfl

/-! ## Targets that count as initialized -/

theorem init_of_initialized {lab : Lab} (h : lab.target.initialized = true) :
    lab.init = (lab, .ok ()) := initWithin_of_initialized h 2

theorem perform_initialized {lab : Lab} (h : lab.target.initialized = true)
    (operation : Operation) :
    (lab.perform operation).1.target.initialized = true ∧
      (lab.perform operation).1.target.runs = lab.target.runs := by
  by_cases hinit : operation = .init
  · have hafter : (lab.perform operation).1 = lab := by
      rw [hinit]
      exact congrArg Prod.fst (init_of_initialized h)
    rw [hafter]
    exact ⟨h, rfl⟩
  · obtain ⟨cell, slots, entries, htarget⟩ := perform_target lab hinit
    rw [htarget]
    exact ⟨h, rfl⟩

/-- A target that counts as initialized does so for good, and its setup is run no more. -/
theorem run_initialized {lab : Lab} (h : lab.target.initialized = true)
    (operations : List Operation) :
    (lab.run operations).target.runs = lab.target.runs ∧
      ∀ answer ∈ lab.initAnswers operations, answer = .ok () := by
  induction operations generalizing lab with
  | nil => exact ⟨rfl, nofun⟩
  | cons operation rest ih =>
    obtain ⟨hflag, hruns⟩ := perform_initialized h operation
    obtain ⟨hrest, hanswers⟩ := ih hflag
    refine ⟨hrest.trans hruns, fun answer hanswer => ?_⟩
    by_cases hinit : operation = .init
    · subst hinit
      rw [initAnswers_init] at hanswer
      rcases List.mem_cons.mp hanswer with rfl | hlater
      · rw [init_of_initialized h]
      · exact hanswers answer hlater
    · rw [initAnswers_of_ne lab hinit] at hanswer
      exact hanswers answer hanswer

/-! ## One run of a setup -/

/-- An initialization that runs a setup. -/
structure RunsOnce (setup : Setup) (lab : Lab) : Prop where
  counted : lab.init.1.target.runs = lab.target.runs + 1
  /-- the answer is how the run ended -/
  answer : lab.init.2 = ending (setup (lab.target.runs + 1))
    (setupSteps init (setup (lab.target.runs + 1)).steps lab.entered).2
  initialized : lab.init.1.target.initialized = lab.init.2.isOk
  setup_kept : lab.init.1.target.setup = some setup
  /-- at any point of the run a request from within is answered at once, and the run is the only one
  that has been entered -/
  within : ∀ before after, (setup (lab.target.runs + 1)).steps = before ++ after →
    (setupSteps init before lab.entered).1.init =
        ((setupSteps init before lab.entered).1, .ok ()) ∧
      (setupSteps init before lab.entered).1.target.runs = lab.target.runs + 1

theorem target_within (lab : Lab) (steps : List SetupStep) :
    (setupSteps init steps lab.entered).1.target.initialized = true ∧
      (setupSteps init steps lab.entered).1.target.runs = lab.target.runs + 1 ∧
      (setupSteps init steps lab.entered).1.target.setup = lab.target.setup := by
  have hentered : lab.entered.target.initialized = true := rfl
  obtain ⟨cell, slots, entries, htarget⟩ := setupSteps_target steps lab.entered
  have hquiet : setupSteps init steps lab.entered = setupSteps quiet steps lab.entered :=
    setupSteps_within 2 steps hentered
  rw [hquiet, htarget]
  exact ⟨rfl, rfl, rfl⟩

theorem runsOnce {lab : Lab} {setup : Setup} (hsetup : lab.target.setup = some setup)
    (h : lab.target.initialized = false) : RunsOnce setup lab := by
  obtain ⟨hflag, hruns, hkept⟩ := target_within lab (setup (lab.target.runs + 1)).steps
  have hinit : lab.init = concluded
      ((setupSteps init (setup (lab.target.runs + 1)).steps lab.entered).1,
        ending (setup (lab.target.runs + 1))
          (setupSteps init (setup (lab.target.runs + 1)).steps lab.entered).2) := by
    rw [init_unfold, h, hsetup]
    exact congrArg concluded (runSetup_eq init setup (lab.setInitialized true))
  have hwithin : ∀ before after, (setup (lab.target.runs + 1)).steps = before ++ after →
      (setupSteps init before lab.entered).1.init =
          ((setupSteps init before lab.entered).1, .ok ()) ∧
        (setupSteps init before lab.entered).1.target.runs = lab.target.runs + 1 := by
    intro before after _
    obtain ⟨hflag, hruns, -⟩ := target_within lab before
    exact ⟨init_of_initialized hflag, hruns⟩
  rw [hsetup] at hkept
  -- of the steps only where they end matters from here on, and how
  generalize hmid : (setupSteps init (setup (lab.target.runs + 1)).steps lab.entered).1 = mid
    at hflag hruns hkept hinit
  generalize hend : ending (setup (lab.target.runs + 1))
    (setupSteps init (setup (lab.target.runs + 1)).steps lab.entered).2 = outcome at hinit
  cases outcome with
  | error failure =>
    have hafter : lab.init = (mid.setInitialized false, .error failure) := hinit
    refine ⟨?_, ?_, ?_, ?_, hwithin⟩
    · rw [hafter]
      exact hruns
    · rw [hafter, hend]
    · rw [hafter]
      rfl
    · rw [hafter]
      exact hkept
  | ok done =>
    have hafter : lab.init = (mid, .ok ()) := hinit
    refine ⟨?_, ?_, ?_, ?_, hwithin⟩
    · rw [hafter]
      exact hruns
    · rw [hafter, hend]
    · rw [hafter]
      exact hflag
    · rw [hafter]
      exact hkept

/-! ## The runs of a setup -/

/-- How many of some answers are failures. -/
def failures (answers : List (Except Failure Unit)) : Nat :=
  answers.countP fun answer => !answer.isOk

theorem failures_eq_zero {answers : List (Except Failure Unit)}
    (h : ∀ answer ∈ answers, answer = .ok ()) : failures answers = 0 := by
  refine List.countP_eq_zero.mpr fun answer hanswer => ?_
  rw [h answer hanswer]
  decide

/-- A target that does not count as initialized: each failure is a run, and the first success is the
last. -/
theorem run_runs {lab : Lab} {setup : Setup} (hsetup : lab.target.setup = some setup)
    (h : lab.target.initialized = false) (operations : List Operation) :
    (lab.run operations).target.runs =
      lab.target.runs + failures (lab.initAnswers operations) +
        if (lab.initAnswers operations).any Except.isOk then 1 else 0 := by
  induction operations generalizing lab with
  | nil => rfl
  | cons operation rest ih =>
    by_cases hinit : operation = .init
    · subst hinit
      have honce := runsOnce hsetup h
      show (lab.init.1.run rest).target.runs = _
      rw [initAnswers_init, failures, List.countP_cons, List.any_cons]
      cases houtcome : lab.init.2 with
      | error failure =>
        have hflag : lab.init.1.target.initialized = false := by
          rw [honce.initialized, houtcome]
          rfl
        have hrest := ih honce.setup_kept hflag
        rw [honce.counted] at hrest
        rw [hrest, failures]
        simp only [Except.isOk, Except.toBool, Bool.not_false, if_true, Bool.false_or]
        omega
      | ok done =>
        -- what comes after is no run, and none of its answers is a failure
        have hflag : lab.init.1.target.initialized = true := by
          rw [honce.initialized, houtcome]
          rfl
        obtain ⟨hruns, hanswers⟩ := run_initialized hflag rest
        have hnone : (lab.init.1.initAnswers rest).countP (fun answer => !answer.isOk) = 0 :=
          failures_eq_zero hanswers
        rw [hruns, honce.counted, hnone]
        simp only [Except.isOk, Except.toBool, Bool.not_true, Bool.true_or, if_true]
        rfl
    · obtain ⟨cell, slots, entries, htarget⟩ := perform_target lab hinit
      have hsetup' : (lab.perform operation).1.target.setup = some setup := by
        rw [htarget]
        exact hsetup
      have hflag : (lab.perform operation).1.target.initialized = false := by
        rw [htarget]
        exact h
      have hrest := ih hsetup' hflag
      rw [htarget] at hrest
      rw [initAnswers_of_ne lab hinit]
      exact hrest

/-- After an initialization that has not failed the target counts as initialized. -/
theorem initialized_of_ok {lab : Lab} (h : lab.init.2 = .ok ()) :
    lab.init.1.target.initialized = true := by
  cases hflag : lab.target.initialized with
  | true =>
    rw [init_of_initialized hflag]
    exact hflag
  | false =>
    cases hsetup : lab.target.setup with
    | none =>
      rw [init_eq, hflag, hsetup]
      rfl
    | some setup =>
      rw [(runsOnce hsetup hflag).initialized, h]
      rfl

/-- What the initializations among some operations come to, where there is a setup. -/
structure SetupLaw (setup : Setup) (start : Lab) (operations : List Operation) : Prop where
  run : ∀ before after, operations = before ++ .init :: after →
    (start.run before).target.initialized = false → RunsOnce setup (start.run before)
  again : ∀ before after, operations = before ++ .init :: after →
    (start.run before).target.initialized = true →
    (start.run before).init = (start.run before, .ok ())
  /-- every failure is a run, and so is the first success -/
  total : (start.run operations).target.runs =
    failures (start.initAnswers operations) +
      if (start.initAnswers operations).any Except.isOk then 1 else 0
  /-- and nothing is a run after it -/
  last : ∀ before after, operations = before ++ .init :: after →
    (start.run before).init.2 = .ok () →
    (start.run operations).target.runs = (start.run (before ++ [.init])).target.runs

/-- A target that has just been made does not count as initialized, and its setup has not been run. -/
theorem Initial.unused {lab : Lab} (h : Initial lab) :
    lab.target.initialized = false ∧ lab.target.runs = 0 := by
  cases h with
  | new => exact ⟨rfl, rfl⟩
  | @configured config setup files now lab h =>
    have htarget := addTextLog_target (Lab.new config.name setup files now) config
    unfold ofConfig at h
    simp only at h
    split at h
    · cases h
    · next after hadd =>
      rw [hadd] at htarget
      simp only [Except.ok.injEq] at h
      subst h
      have hflag : after.target.initialized = false := congrArg Target.initialized htarget
      have hruns : after.target.runs = 0 := congrArg Target.runs htarget
      cases config.eventLog <;> exact ⟨hflag, hruns⟩

theorem setupLaw {start : Lab} {setup : Setup} (hstart : start.Initial)
    (hsetup : start.target.setup = some setup) (operations : List Operation) :
    SetupLaw setup start operations := by
  obtain ⟨hflag, hruns⟩ := hstart.unused
  refine
    { run := fun before after _ hbefore => ?_
      again := fun before after _ hbefore => init_of_initialized hbefore
      total := ?_
      last := fun before after hsplit hok => ?_ }
  · have hkept : (start.run before).target.setup = some setup :=
      (start.run_setup before).trans hsetup
    exact runsOnce hkept hbefore
  · have htotal := run_runs hsetup hflag operations
    rw [hruns, Nat.zero_add] at htotal
    exact htotal
  · have hlater := (run_initialized (initialized_of_ok hok) after).1
    rw [hsplit, run_append, run_append]
    exact hlater

/-! ## Targets without a setup -/

/-- Two labs that differ at most in whether the target counts as initialized. -/
abbrev Flagged (a b : Lab) : Prop := Alike (fun _ _ => True) Eq a b

namespace Flagged

variable {a b : Lab}

theorem likeness : Bench.Likeness Eq := by
  refine ⟨?_, ?_, ?_, ?_⟩
  · rintro x y rfl
    rfl
  · rintro x y rfl
    rfl
  · rintro x y rfl label part fittings
    rfl
  · rintro x y rfl device
    exact ⟨rfl, rfl, rfl⟩

theorem setInitialized (h : Flagged a b) (flag : Bool) : Flagged (a.setInitialized flag) b := by
  obtain ⟨flag', bench, -, hbench, rfl⟩ := h
  exact ⟨flag', bench, trivial, hbench, rfl⟩

theorem setProcessor (h : Flagged a b) (k : Nat) (p : Processor) :
    Flagged (a.setProcessor k p) (b.setProcessor k p) := by
  have hbench : a.bench = b.bench := Alike.benches h
  refine Alike.setBench h ?_
  rw [hbench]

theorem serve (h : Flagged a b) (device : Device) (request : Request) :
    Flagged (a.serve device request).1 (b.serve device request).1 ∧
      (b.serve device request).2 = (a.serve device request).2 := by
  rw [Lab.serve, Lab.serve, ← Alike.benches h]
  exact ⟨Alike.call h rfl _, rfl⟩

theorem perform (h : Flagged a b) {operation : Operation} (hne : operation ≠ .init) :
    Flagged (a.perform operation).1 (b.perform operation).1 ∧
      (b.perform operation).2 = (a.perform operation).2 := by
  have hbench : a.bench = b.bench := Alike.benches h
  have hunasked := fun hasks : operation.asks = false => Alike.perform likeness h hasks
  cases operation with
  | init => exact absurd rfl hne
  | act request =>
    rcases Alike.act_cases h request with ⟨failure, ha, hb⟩ | ⟨cell, device, ha, hb⟩
    · rw [Lab.perform, Lab.perform, ha, hb]
      exact ⟨h, rfl⟩
    · have hset : Flagged (a.setCell cell) (b.setCell cell) := Alike.change h (.setCell cell)
      obtain ⟨hafter, houtcome⟩ := hset.serve device request
      rw [Lab.perform, Lab.perform, ha, hb]
      exact ⟨hafter, congrArg (Except.map Answer.reply) houtcome⟩
  | deliver k =>
    refine ⟨?_, rfl⟩
    show Flagged (a.deliver k) (b.deliver k)
    rw [Lab.deliver, Lab.deliver, ← hbench]
    cases (a.bench.processors k).next? with
    | none => exact h
    | some next => exact Alike.change (h.setProcessor k next.2) (.report next.1)
  | serve k request =>
    obtain ⟨hafter, houtcome⟩ := h.serve (request.part, k) request
    exact ⟨hafter, congrArg (Except.map Answer.reply) houtcome⟩
  | signal k states =>
    refine ⟨?_, rfl⟩
    show Flagged (a.signal k states) (b.signal k states)
    rw [signal, signal, ← hbench]
    exact Alike.change (h.setProcessor k _) (.reportAll _)
  | arm k fault =>
    refine ⟨?_, rfl⟩
    show Flagged (a.setProcessor k _) (b.setProcessor k ((b.bench.processors k).arm fault))
    rw [← hbench]
    exact h.setProcessor k _
  | load k address data =>
    refine ⟨?_, rfl⟩
    show Flagged (a.setMemory k _) (b.setMemory k ((b.bench.memories k).load address data))
    rw [setMemory, setMemory, ← hbench]
    exact Alike.setBench h rfl
  | _ => exact hunasked rfl

end Flagged

/-- The answers to the operations other than initializations. -/
def otherAnswers (lab : Lab) : List Operation → List (Except Failure Answer)
  | [] => []
  | operation :: rest =>
    (if operation.initializes then [] else [(lab.perform operation).2]) ++
      (lab.perform operation).1.otherAnswers rest

/-- Some operations with the initializations left out. -/
def withoutInits (operations : List Operation) : List Operation :=
  operations.filter fun operation => !operation.initializes

theorem Flagged.run {a b : Lab} (h : Flagged a b) (hsetup : a.target.setup = none)
    (operations : List Operation) :
    Flagged (a.run operations) (b.run (withoutInits operations)) ∧
      (play Lab.perform b (withoutInits operations)).2 = a.otherAnswers operations ∧
      ∀ answer ∈ a.initAnswers operations, answer = .ok () := by
  induction operations generalizing a b with
  | nil => exact ⟨h, rfl, nofun⟩
  | cons operation rest ih =>
    have hkept : (a.perform operation).1.target.setup = none :=
      (a.perform_setup operation).trans hsetup
    by_cases hinit : operation = .init
    · subst hinit
      have hok : a.init.2 = .ok () ∧ Flagged a.init.1 b := by
        rw [init_eq, hsetup]
        split
        · exact ⟨rfl, h⟩
        · exact ⟨rfl, h.setInitialized true⟩
      obtain ⟨hafter, hothers, hanswers⟩ := ih hok.2 hkept
      refine ⟨hafter, hothers, fun answer hanswer => ?_⟩
      rcases List.mem_cons.mp hanswer with rfl | hlater
      · exact hok.1
      · exact hanswers answer hlater
    · obtain ⟨hnext, hanswer⟩ := h.perform hinit
      obtain ⟨hafter, hothers, hanswers⟩ := ih hnext hkept
      have hother : operation.initializes = false := by
        cases operation with
        | init => exact absurd rfl hinit
        | _ => rfl
      have hkeep : withoutInits (operation :: rest) = operation :: withoutInits rest := by
        rw [withoutInits, List.filter_cons, hother]
        rfl
      rw [hkeep, initAnswers_of_ne a hinit, otherAnswers, hother]
      refine ⟨hafter, ?_, hanswers⟩
      show (b.perform operation).2 :: _ = [(a.perform operation).2] ++ _
      rw [hanswer, hothers]
      rfl

/-- What the initializations among some operations come to, where there is no setup. -/
structure NoSetup (start : Lab) (operations : List Operation) : Prop where
  answered : ∀ answer ∈ start.initAnswers operations, answer = .ok ()
  /-- without them everything would be the same but for the flag, which nothing else looks at -/
  same : ∃ flag, start.run (withoutInits operations) =
    (start.run operations).setInitialized flag
  others : (play perform start (withoutInits operations)).2 = start.otherAnswers operations

theorem noSetup {start : Lab} (hsetup : start.target.setup = none) (operations : List Operation) :
    NoSetup start operations := by
  have hstart : Flagged start start := ⟨start.target.initialized, start.bench, trivial, rfl, rfl⟩
  obtain ⟨hrun, hothers, hanswers⟩ := hstart.run hsetup operations
  obtain ⟨flag, _, -, rfl, hsame⟩ := hrun
  exact ⟨hanswers, ⟨flag, hsame⟩, hothers⟩

/-- How often the setup of a target is run in the course of any operations. -/
theorem setup_runs {start : Lab} (hstart : start.Initial) (operations : List Operation) :
    (∀ setup, start.target.setup = some setup → SetupLaw setup start operations) ∧
      (start.target.setup = none → NoSetup start operations) :=
  ⟨fun _ hsetup => setupLaw hstart hsetup operations, fun hsetup => noSetup hsetup operations⟩

/-- A setup that fails twice and asks for an initialization from within each time. -/
def stubborn : Setup :=
  Rehearsal.setup
    { failures := 2, nested := true, states := [.initialized], attachments := [],
      attachesBeforeFailing := false, failure := .initFailed "unit" "not ready" }

/-- The third initialization is the last that runs the setup. -/
theorem setup_runs_stubborn :
    (Lab.new "unit" (some stubborn) ⟨[], []⟩ .epoch).Initial ∧
      (Lab.new "unit" (some stubborn) ⟨[], []⟩ .epoch).initAnswers
        [.init, .shutdown, .init, .report .stopped, .init, .init] =
          [.error (.initFailed "unit" "not ready"), .error (.initFailed "unit" "not ready"),
            .ok (), .ok ()] ∧
      SetupLaw stubborn (Lab.new "unit" (some stubborn) ⟨[], []⟩ .epoch)
        [.init, .shutdown, .init, .report .stopped, .init, .init] ∧
      ((Lab.new "unit" (some stubborn) ⟨[], []⟩ .epoch).run
        [.init, .shutdown, .init, .report .stopped, .init, .init]).target.runs = 3 :=
  ⟨.new .., rfl, (setup_runs (.new ..) _).1 stubborn rfl, rfl⟩

end Lab
end TargetControl
