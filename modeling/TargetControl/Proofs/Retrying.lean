import TargetControl.Proofs.Ledger
import TargetControl.Proofs.SetupRuns

/-!
What a failed initialization leaves behind.

The steps of a setup are taken one by one, and a failure does not undo the steps before it.  So the
slots that a failed run has filled stay filled, and the next run finds them so.  Whether it is
refused can be read off its steps and the slots that are occupied when it begins: `refused?` finds
the first attachment that comes to an occupied slot, offers apart, which nobody minds being refused.

A shutdown is what empties the slots.  After one a target is as if the failed run had attached
nothing.
-/

namespace TargetControl

/-! ## Slots in the course of a setup -/

namespace SetupStep

/-- Which slots are occupied after a step, if some were before. -/
def occupies (held : Capability → Bool) : SetupStep → Capability → Bool
  | .attach a | .offer a => fun kind => held kind || decide (kind = a.kind)
  | .shutdown => fun _ => false
  | _ => held

/-- The occupied slot that a step comes to, if that ends the run. -/
def meets? (held : Capability → Bool) : SetupStep → Option Capability
  | .attach a => if held a.kind then some a.kind else none
  | _ => none

/-- The occupied slot at which some steps end. -/
def refused? (held : Capability → Bool) : List SetupStep → Option Capability
  | [] => none
  | step :: rest => (step.meets? held).or (refused? (step.occupies held) rest)

theorem attach_of_meets {held : Capability → Bool} {step : SetupStep} {kind : Capability}
    (h : step.meets? held = some kind) :
    ∃ a, step = .attach a ∧ held a.kind = true ∧ kind = a.kind := by
  cases step with
  | attach a =>
    rw [meets?] at h
    split at h
    · next hheld => exact ⟨a, rfl, hheld, (Option.some.inj h).symm⟩
    · cases h
  | _ => cases h

/-- A step that is refused occupies nothing new. -/
theorem occupies_of_meets {held : Capability → Bool} {step : SetupStep} {kind : Capability}
    (h : step.meets? held = some kind) : step.occupies held = held := by
  obtain ⟨a, rfl, hheld, -⟩ := attach_of_meets h
  funext k
  show (held k || decide (k = a.kind)) = held k
  by_cases hk : k = a.kind
  · rw [hk, hheld, Bool.true_or]
  · rw [decide_eq_false hk, Bool.or_false]

/-- Whether a step attaches to a slot, or offers to. -/
def Fills (kind : Capability) (step : SetupStep) : Prop :=
  ∃ a, (step = .attach a ∨ step = .offer a) ∧ a.kind = kind

theorem occupies_iff {step : SetupStep} (h : step ≠ .shutdown) (held : Capability → Bool)
    (kind : Capability) :
    step.occupies held kind = true ↔ held kind = true ∨ step.Fills kind := by
  have hfilling : ∀ a : Attachment, (held kind || decide (kind = a.kind)) = true ↔
      held kind = true ∨ a.kind = kind := by
    intro a
    rw [Bool.or_eq_true, decide_eq_true_eq, eq_comm (a := kind)]
  cases step with
  | shutdown => exact absurd rfl h
  | attach a => simp [occupies, Fills, hfilling]
  | offer a => simp [occupies, Fills, hfilling]
  | nested | report | act | setEntry | removeEntry => simp [occupies, Fills]

/-- Without a shutdown a slot is occupied after some steps if it was before, or if one of the steps
fills it. -/
theorem foldl_occupies {steps : List SetupStep} (h : .shutdown ∉ steps)
    (held : Capability → Bool) (kind : Capability) :
    steps.foldl occupies held kind = true ↔
      held kind = true ∨ ∃ step ∈ steps, step.Fills kind := by
  induction steps generalizing held with
  | nil => simp
  | cons step rest ih =>
    have hfirst : step ≠ .shutdown := fun heq => h (heq ▸ List.mem_cons_self)
    have hrest : SetupStep.shutdown ∉ rest := fun hmem => h (List.mem_cons_of_mem _ hmem)
    rw [List.foldl_cons, ih hrest, occupies_iff hfirst, or_assoc]
    simp only [List.mem_cons, exists_eq_or_imp]

end SetupStep

open SetupStep (refused?)

namespace Lab

/-- How a part of a setup ends that comes to an occupied slot, or to none. -/
def verdict (name : String) : Option Capability → Except Failure Unit
  | none => .ok ()
  | some kind => .error (.alreadyAttached name kind)

theorem has_fill (slots : Slots Device) (kind : Capability) (device : Device) :
    (slots.fill kind device).has = fun k => slots.has k || decide (k = kind) := by
  funext k
  by_cases hk : k = kind
  · rw [Slots.has, Slots.fill_apply, if_pos hk, decide_eq_true hk, Bool.or_true]
    rfl
  · rw [Slots.has, Slots.fill_apply, if_neg hk, decide_eq_false hk, Bool.or_false]
    rfl

/-- An attachment is refused if its slot is occupied, and its slot is occupied afterwards. -/
theorem attachLabelled_slots (lab : Lab) (a : Attachment) :
    (lab.attachLabelled a).2 =
        verdict lab.target.name ((SetupStep.attach a).meets? lab.target.slots.has) ∧
      (lab.attachLabelled a).1.target.slots.has =
        (SetupStep.attach a).occupies lab.target.slots.has := by
  have hslots : (lab.setBench (lab.obtained a).1).target.slots = lab.target.slots := rfl
  rw [attachLabelled_eq]
  cases hslot : lab.target.slots a.kind with
  | some held =>
    have hhas : lab.target.slots.has a.kind = true := Slots.has_of_some hslot
    have hmeets : (SetupStep.attach a).meets? lab.target.slots.has = some a.kind := if_pos hhas
    rw [attach_of_has (hslots ▸ hhas), hmeets, SetupStep.occupies_of_meets hmeets]
    exact ⟨rfl, rfl⟩
  | none =>
    have hhas : ¬ lab.target.slots.has a.kind = true := by
      rw [Slots.has_of_none hslot]
      decide
    have hmeets : (SetupStep.attach a).meets? lab.target.slots.has = none := if_neg hhas
    rw [attach_of_none (hslots ▸ hslot), hmeets]
    exact ⟨rfl, has_fill lab.target.slots a.kind (lab.obtained a).2⟩

/-- One step fails if it comes to an occupied slot, and says which slots are occupied after it. -/
theorem take_slots (lab : Lab) (step : SetupStep) :
    (lab.take step).2 = verdict lab.target.name (step.meets? lab.target.slots.has) ∧
      (lab.take step).1.target.slots.has = step.occupies lab.target.slots.has := by
  cases step with
  | nested | report | setEntry | removeEntry => exact ⟨rfl, rfl⟩
  | attach a => exact attachLabelled_slots lab a
  | offer a => exact ⟨rfl, (attachLabelled_slots lab a).2⟩
  | act request =>
    obtain ⟨cell, htarget⟩ := act_target lab request
    refine ⟨rfl, ?_⟩
    show (lab.act request).1.target.slots.has = lab.target.slots.has
    rw [htarget]
  | shutdown =>
    refine ⟨rfl, ?_⟩
    show lab.shutdown.target.slots.has = fun _ => false
    rw [shutdown_slots]
    rfl

theorem take_name (lab : Lab) (step : SetupStep) :
    (lab.take step).1.target.name = lab.target.name := by
  obtain ⟨cell, slots, entries, htarget⟩ := take_target lab step
  rw [htarget]

/-- The first step ends a run if it comes to an occupied slot, and the other steps follow it if
not. -/
theorem setupSteps_first (lab : Lab) (step : SetupStep) (rest : List SetupStep) :
    setupSteps quiet (step :: rest) lab =
      andThen ((lab.take step).1, verdict lab.target.name (step.meets? lab.target.slots.has))
        (setupSteps quiet rest) := by
  rw [← (lab.take_slots step).1]
  exact setupSteps_cons quiet step rest lab

theorem setupSteps_refused {lab : Lab} {step : SetupStep} {kind : Capability}
    (h : step.meets? lab.target.slots.has = some kind) (rest : List SetupStep) :
    setupSteps quiet (step :: rest) lab =
      ((lab.take step).1, .error (.alreadyAttached lab.target.name kind)) := by
  rw [setupSteps_first, h]
  rfl

theorem setupSteps_passed {lab : Lab} {step : SetupStep}
    (h : step.meets? lab.target.slots.has = none) (rest : List SetupStep) :
    setupSteps quiet (step :: rest) lab = setupSteps quiet rest (lab.take step).1 := by
  rw [setupSteps_first, h]
  rfl

/-- Whether some steps fail can be read off them. -/
theorem setupSteps_verdict (steps : List SetupStep) (lab : Lab) :
    (setupSteps quiet steps lab).2 =
      verdict lab.target.name (refused? lab.target.slots.has steps) := by
  induction steps generalizing lab with
  | nil => rfl
  | cons step rest ih =>
    rw [SetupStep.refused?]
    cases hmeets : step.meets? lab.target.slots.has with
    | some kind =>
      rw [setupSteps_refused hmeets]
      rfl
    | none =>
      rw [setupSteps_passed hmeets, ih, take_name, (lab.take_slots step).2, Option.none_or]

/-- Some steps are taken up to the end, or up to one that comes to an occupied slot. -/
structure TakenTo (lab after : Lab) (done rest : List SetupStep) (outcome : Except Failure Unit) :
    Prop where
  /-- nothing of what has been done is undone -/
  slots : after.target.slots.has = done.foldl SetupStep.occupies lab.target.slots.has
  ended : (rest = [] ∧ outcome = .ok ()) ∨
    ∃ a more, rest = .attach a :: more ∧ after.target.slots.has a.kind = true ∧
      outcome = .error (.alreadyAttached lab.target.name a.kind)

theorem setupSteps_taken (steps : List SetupStep) (lab : Lab) :
    ∃ done rest, steps = done ++ rest ∧
      TakenTo lab (setupSteps quiet steps lab).1 done rest (setupSteps quiet steps lab).2 := by
  induction steps generalizing lab with
  | nil => exact ⟨[], [], rfl, rfl, .inl ⟨rfl, rfl⟩⟩
  | cons step rest ih =>
    have hslots := (lab.take_slots step).2
    cases hmeets : step.meets? lab.target.slots.has with
    | some kind =>
      obtain ⟨a, rfl, hheld, rfl⟩ := SetupStep.attach_of_meets hmeets
      rw [SetupStep.occupies_of_meets hmeets] at hslots
      rw [setupSteps_refused hmeets]
      refine ⟨[], _, rfl, hslots, .inr ⟨a, rest, rfl, ?_, rfl⟩⟩
      rw [hslots]
      exact hheld
    | none =>
      obtain ⟨done, rest', hsplit, htaken⟩ := ih (lab.take step).1
      rw [setupSteps_passed hmeets]
      refine ⟨step :: done, rest', ?_, ?_, ?_⟩
      · rw [hsplit]
        rfl
      · rw [List.foldl_cons, ← hslots]
        exact htaken.slots
      · rw [← take_name lab step]
        exact htaken.ended

/-- A run fails by itself when all its steps are taken, or with the step that is refused. -/
theorem TakenTo.failed {lab after : Lab} {done rest : List SetupStep}
    {outcome : Except Failure Unit} (h : TakenTo lab after done rest outcome) {run : SetupRun}
    {failure : Failure} (hending : ending run outcome = .error failure) :
    (rest = [] ∧ run.failure = some failure) ∨
      ∃ a more, rest = .attach a :: more ∧ after.target.slots.has a.kind = true ∧
        failure = .alreadyAttached lab.target.name a.kind := by
  rcases h.ended with ⟨hrest, hok⟩ | ⟨a, more, hrest, hheld, herror⟩
  · rw [hok, ending] at hending
    cases hown : run.failure with
    | none =>
      rw [hown] at hending
      cases hending
    | some own =>
      rw [hown] at hending
      cases hending
      exact .inl ⟨hrest, rfl⟩
  · rw [herror, ending] at hending
    exact .inr ⟨a, more, hrest, hheld, (Except.error.inj hending).symm⟩

/-! ## Slots that stay occupied -/

theorem mem_releasesTrail_of_held {slots : Slots Device} {kind : Capability} {device : Device}
    (h : slots kind = some device) {kinds : List Capability} (hkind : kind ∈ kinds) (lab : Lab) :
    ∃ m ∈ releasesTrail slots kinds lab, m.what = .released kind device := by
  induction kinds generalizing lab with
  | nil => cases hkind
  | cons first rest ih =>
    rcases List.mem_cons.mp hkind with rfl | hlater
    · refine ⟨⟨.released kind device, lab.setBench (lab.bench.shutdown device).bench⟩, ?_, rfl⟩
      rw [releasesTrail, h]
      exact List.mem_append_left _ List.mem_cons_self
    · obtain ⟨m, hm, hwhat⟩ := ih hlater (lab.release first (slots first))
      exact ⟨m, List.mem_append_right _ hm, hwhat⟩

end Lab

theorem Move.held {tampered : Prop} {a b : Lab} {moments : List Moment} {kind : Capability}
    {device : Device} (hmove : Move tampered a moments b)
    (h : a.target.slots kind = some device)
    (hno : ∀ m ∈ moments, m.what ≠ .released kind device) : b.target.slots kind = some device := by
  cases hmove with
  | idle hidle =>
    rw [hidle.slots]
    exact h
  | install label part fittings => exact h
  | report s => exact h
  | pass slot state => exact h
  | @attach kind' device' label vacant fits labelled =>
    have hne : kind ≠ kind' := by
      rintro rfl
      rw [vacant] at h
      cases h
    rw [Lab.slots_attached, if_neg hne]
    exact h
  | shutdown =>
    obtain ⟨m, hm, hwhat⟩ :=
      Lab.mem_releasesTrail_of_held h (Capability.mem_all kind) a.takeSlots
    exact absurd hwhat (hno m hm)
  | close device ht => exact h

/-- What a slot holds it holds until it is released. -/
theorem Path.held {tampered : Prop} {a b : Lab} {moments : List Moment} {kind : Capability}
    {device : Device} (hpath : Path tampered a moments b)
    (h : a.target.slots kind = some device)
    (hno : ∀ m ∈ moments, m.what ≠ .released kind device) : b.target.slots kind = some device := by
  induction hpath with
  | refl => exact h
  | move hmove _ ih =>
    have hfirst := hmove.held h fun m hm => hno m (List.mem_append_left _ hm)
    exact ih hfirst fun m hm => hno m (List.mem_append_right _ hm)

namespace Lab

/-! ## Failures -/

/-- The answer to an initialization whose run does not fail by itself. -/
theorem init_verdict {lab : Lab} {setup : Setup} (hsetup : lab.target.setup = some setup)
    (hflag : lab.target.initialized = false)
    (hown : (setup (lab.target.runs + 1)).failure = none) :
    lab.init.2 = verdict lab.target.name
      (refused? lab.target.slots.has (setup (lab.target.runs + 1)).steps) := by
  have hanswer := (runsOnce hsetup hflag).answer
  have hentered : lab.entered.target.initialized = true := rfl
  have hquiet : setupSteps init (setup (lab.target.runs + 1)).steps lab.entered =
      setupSteps quiet (setup (lab.target.runs + 1)).steps lab.entered :=
    setupSteps_within 2 _ hentered
  have hslots : lab.entered.target.slots = lab.target.slots := rfl
  have hname : lab.entered.target.name = lab.target.name := rfl
  rw [hanswer, hquiet, setupSteps_verdict, hslots, hname]
  cases refused? lab.target.slots.has (setup (lab.target.runs + 1)).steps with
  | none => simp only [verdict, ending, hown]
  | some kind => rfl

/-- What a failed initialization leaves behind. -/
structure FailedInit (setup : Setup) (lab after : Lab) (failure : Failure) : Prop where
  /-- the next initialization runs the setup again -/
  reset : after.target.initialized = false ∧ after.target.setup = some setup ∧
    after.target.runs = lab.target.runs + 1
  /-- the slots that the run has filled before it failed stay filled -/
  slots : ∃ done rest, (setup (lab.target.runs + 1)).steps = done ++ rest ∧
    after.target.slots.has = done.foldl SetupStep.occupies lab.target.slots.has ∧
    (.shutdown ∉ done → ∀ kind, after.target.slots.has kind = true ↔
      lab.target.slots.has kind = true ∨ ∃ step ∈ done, step.Fills kind) ∧
    ((rest = [] ∧ (setup (lab.target.runs + 1)).failure = some failure) ∨
      ∃ a more, rest = .attach a :: more ∧ after.target.slots.has a.kind = true ∧
        failure = .alreadyAttached lab.target.name a.kind)
  /-- and each of them until a shutdown -/
  held : ∀ later kind device, after.target.slots kind = some device →
    (∀ m ∈ after.chronicle later, m.what ≠ .released kind device) →
    (after.run later).target.slots kind = some device
  /-- a later run that does not fail by itself is refused exactly if one of its attachments comes to
  an occupied slot, whoever has filled it; a refused offer is passed over -/
  retried : ∀ later, (after.run later).target.initialized = false →
    (setup ((after.run later).target.runs + 1)).failure = none →
    (after.run later).init.2 = verdict (after.run later).target.name
      (refused? (after.run later).target.slots.has
        (setup ((after.run later).target.runs + 1)).steps)
  /-- after a shutdown there is nothing left of what the failed run has attached -/
  freed : ∀ later, (after.run later).target.initialized = false →
    (setup ((after.run later).target.runs + 1)).failure = none →
    (after.run later).shutdown.init.2 = verdict (after.run later).target.name
      (refused? (fun _ => false) (setup ((after.run later).target.runs + 1)).steps)

theorem failed_init {lab after : Lab} {setup : Setup} {failure : Failure}
    (hsetup : lab.target.setup = some setup) (hfailed : lab.init = (after, .error failure)) :
    FailedInit setup lab after failure := by
  have hflag : lab.target.initialized = false := by
    cases hinitialized : lab.target.initialized with
    | false => rfl
    | true =>
      rw [init_of_initialized hinitialized] at hfailed
      cases hfailed
  have honce := runsOnce hsetup hflag
  have hreset := honce.initialized
  have hkept := honce.setup_kept
  have hcounted := honce.counted
  rw [hfailed] at hreset hkept hcounted
  have hrun : lab.init = concluded (runSetup quiet setup (lab.setInitialized true)) := by
    rw [init_eq, hflag, hsetup]
    rfl
  rw [runSetup_eq, hfailed] at hrun
  obtain ⟨hending, hafter⟩ := of_concluded_error hrun.symm
  obtain ⟨done, rest, hsplit, htaken⟩ :=
    setupSteps_taken (setup (lab.target.runs + 1)).steps lab.entered
  have hslots : after.target.slots.has = done.foldl SetupStep.occupies lab.target.slots.has := by
    rw [hafter]
    exact htaken.slots
  refine
    { reset := ⟨hreset, hkept, hcounted⟩
      slots := ⟨done, rest, hsplit, hslots, fun hno kind => ?_, ?_⟩
      held := fun later kind device hheld hno => ?_
      retried := fun later hunset hown => ?_
      freed := fun later hunset hown => ?_ }
  · rw [hslots]
    exact SetupStep.foldl_occupies hno lab.target.slots.has kind
  · rcases htaken.failed hending with hown | ⟨a, more, hrest, hheld, hfailure⟩
    · exact .inl hown
    · refine .inr ⟨a, more, hrest, ?_, hfailure⟩
      rw [hafter]
      exact hheld
  · exact (after.path_run_any later).held hheld hno
  · exact init_verdict ((after.run_setup later).trans hkept) hunset hown
  · obtain ⟨cell, htarget⟩ := shutdown_target (after.run later)
    have hsetup' : (after.run later).shutdown.target.setup = some setup := by
      rw [htarget]
      exact (after.run_setup later).trans hkept
    have hverdict := init_verdict hsetup'
    rw [htarget] at hverdict
    exact hverdict hunset hown

/-- A setup whose first run fails when it has attached what it attaches. -/
def eager : Setup :=
  Rehearsal.setup
    { failures := 1, nested := false, states := [], attachments := [⟨.memory, "ram", .plain⟩],
      attachesBeforeFailing := true, failure := .initFailed "cpu0" "backend not ready" }

theorem failed_init_eager : ∃ after,
    (Lab.new "cpu0" (some eager) ⟨[], []⟩ .epoch).target.setup = some eager ∧
      (Lab.new "cpu0" (some eager) ⟨[], []⟩ .epoch).init =
        (after, .error (.initFailed "cpu0" "backend not ready")) ∧
      FailedInit eager (.new "cpu0" (some eager) ⟨[], []⟩ .epoch) after
        (.initFailed "cpu0" "backend not ready") :=
  ⟨_, rfl, rfl, failed_init rfl rfl⟩

/-- Its second run does not fail by itself, but it is refused for what the first has attached. -/
theorem eager_refused : ∃ after,
    (Lab.new "cpu0" (some eager) ⟨[], []⟩ .epoch).init =
        (after, .error (.initFailed "cpu0" "backend not ready")) ∧
      (Lab.new "cpu0" (some eager) ⟨[], []⟩ .epoch).target.slots.has .memory = false ∧
      after.target.slots.has .memory = true ∧
      (eager (after.target.runs + 1)).failure = none ∧
      after.init.2 = .error (.alreadyAttached "cpu0" .memory) :=
  ⟨_, rfl, rfl, rfl, rfl, rfl⟩

/-- A setup that only offers what it attaches is not refused when it is run again. -/
example :
    let setup : Setup := fun run =>
      { steps := [.offer ⟨.memory, "ram", .plain⟩]
        failure := if run = 1 then some (.initFailed "cpu0" "backend not ready") else none }
    let after := (Lab.new "cpu0" (some setup) ⟨[], []⟩ .epoch).init.1
    after.target.slots.has .memory = true ∧ after.init.2 = .ok () := ⟨rfl, rfl⟩

end Lab
end TargetControl
