import TargetControl.Proofs.Releases
import TargetControl.Proofs.Twin

/-!
A queued processor whose queue is emptied after every operation looks like a direct one.

In one lab the reports of a processor are taken within its requests, in the other after them.
`Counterpart` relates two such labs when the queue is empty.  An operation may break it by what it
puts into the queue, and taking these reports repairs it, as long as the processor has not been
shut down: then the queue takes no more.

An initialization is many operations in one, since its setup makes requests of its own.  The queue
is emptied after each step of the setup as well.  Where a setup asks nothing of a processor that
comes to the same as emptying it at the end, and where it asks something it need not.
-/

namespace TargetControl
namespace Lab

/-! ## Emptying a queue -/

theorem deliverAll_of_empty {lab : Lab} {n : Nat} (h : (lab.bench.processors n).queue = []) :
    lab.deliverAll n = lab := by
  rw [deliverAll, h]
  rfl

/-- The reports leave the queue one by one, which is the same as emptying it first. -/
theorem deliverAll_eq (lab : Lab) (n : Nat) :
    lab.deliverAll n =
      (lab.setProcessor n { lab.bench.processors n with queue := [] }).reportAll
        (lab.bench.processors n).queue := by
  rw [deliverAll]
  generalize hqueue : (lab.bench.processors n).queue = queue
  induction queue generalizing lab with
  | nil =>
    have hself : { lab.bench.processors n with queue := [] } = lab.bench.processors n := by
      rw [← hqueue]
    rw [hself, setProcessor, Family.put_self]
    rfl
  | cons s rest ih =>
    have hnext : (lab.bench.processors n).next? =
        some (s, { lab.bench.processors n with queue := rest }) := by
      rw [Processor.next?, hqueue]
    have hdeliver : lab.deliver n =
        (lab.setProcessor n { lab.bench.processors n with queue := rest }).report s := by
      rw [deliver, hnext]
    have hafter : (lab.deliver n).bench.processors n =
        { lab.bench.processors n with queue := rest } := by
      rw [hdeliver]
      exact Family.put_same ..
    have hset : (lab.deliver n).setProcessor n { lab.bench.processors n with queue := [] } =
        (lab.setProcessor n { lab.bench.processors n with queue := [] }).report s := by
      rw [hdeliver]
      show Lab.report (lab.setBench { lab.bench with
        processors := Family.put (Family.put lab.bench.processors n _) n _ }) s = _
      rw [Family.put_put]
      rfl
    rw [List.foldl_cons, ih _ (by rw [hafter]), hafter, hset, reportAll_cons]

theorem deliverAll_bench (lab : Lab) (n : Nat) :
    (lab.deliverAll n).bench =
      (lab.setProcessor n { lab.bench.processors n with queue := [] }).bench := by
  rw [deliverAll_eq, reportAll_bench]

theorem deliverAll_queue (lab : Lab) (n : Nat) :
    ((lab.deliverAll n).bench.processors n).queue = [] := by
  have hprocessor : (lab.deliverAll n).bench.processors n =
      { lab.bench.processors n with queue := [] } := by
    rw [deliverAll_bench]
    exact Family.put_same ..
  rw [hprocessor]

/-! ## Runs -/

/-- Empties the queue of a processor, in the course of a setup. -/
def drain (n : Nat) (lab : Lab) : Lab × Except Failure Unit := (lab.deliverAll n, .ok ())

/-- The steps of a setup with a request from within after each of them. -/
def spaced (steps : List SetupStep) : List SetupStep := steps.flatMap fun step => [step, .nested]

/-- Initializes the target, with the queue of a processor emptied after each step of the setup.
This takes the place of the requests from within, which would do nothing. -/
def initDrained (n : Nat) (lab : Lab) : Lab × Except Failure Unit :=
  if lab.target.initialized then (lab, .ok ())
  else
    match lab.target.setup with
    | none => (lab.setInitialized true, .ok ())
    | some setup =>
      concluded (runSetup (drain n)
        (fun run => { setup run with steps := spaced (setup run).steps })
        (lab.setInitialized true))

/-- Does one thing, and then empties the queue of a processor. -/
def performThenDrain (n : Nat) (lab : Lab) (operation : Operation) : Lab × Except Failure Answer :=
  ((lab.perform operation).1.deliverAll n, (lab.perform operation).2)

/-- Does one thing, with the queue of a processor emptied after it, and also after each thing that is
done in the course of it. -/
def performDrained (n : Nat) (lab : Lab) : Operation → Lab × Except Failure Answer
  | .init => ((lab.initDrained n).1.deliverAll n, (lab.initDrained n).2.map fun _ => .done)
  | operation => lab.performThenDrain n operation

theorem performDrained_of_ne {n : Nat} {lab : Lab} {operation : Operation}
    (h : operation ≠ .init) : lab.performDrained n operation = lab.performThenDrain n operation := by
  cases operation with
  | init => exact absurd rfl h
  | _ => rfl

/-! ## Two labs -/

/-- Two labs with everything in common but one processor. -/
abbrev Counterpart (n : Nat) (a b : Lab) : Prop := Alike Eq (Bench.Twin n) a b

namespace Counterpart

variable {n : Nat} {a b : Lab}

theorem pair (h : Counterpart n a b) :
    Processor.Twin (a.bench.processors n) (b.bench.processors n) := (Alike.benches h).pair

theorem unclosed (h : Counterpart n a b) (hopen : b.bench.shutdowns .processor n = 0) :
    (a.bench.processors n).shutdowns = 0 := by
  rw [← h.pair.shutdowns]
  exact hopen

theorem same_target (h : Counterpart n a b) : b.target = a.target := by
  have hflags : a.target.initialized = b.target.initialized := Alike.flags h
  have htarget := Alike.target h
  rwa [← hflags] at htarget

theorem setInitialized (h : Counterpart n a b) (flag : Bool) :
    Counterpart n (a.setInitialized flag) (b.setInitialized flag) := by
  obtain ⟨_, bench, _, hbench, rfl⟩ := h
  exact ⟨flag, bench, rfl, hbench, rfl⟩

/-- Where nothing has been put into the queue there is nothing to take from it. -/
theorem drained (h : Counterpart n a b) : b.deliverAll n = b := deliverAll_of_empty h.pair.drained

/-- Taking what was put into the queue makes up for what the other processor reported at once. -/
theorem drain (h : Counterpart n a b) {x y : Bench} {q : Processor}
    (htwin : Bench.Twin n x (y.putProcessor n { q with queue := [] })) :
    Counterpart n ((a.setBench x).reportAll q.queue)
      ((b.setBench (y.putProcessor n q)).deliverAll n) := by
  have hsame : (b.setBench (y.putProcessor n q)).bench.processors n = q :=
    Bench.putProcessor_same y n q
  have hempty : (b.setBench (y.putProcessor n q)).setProcessor n { q with queue := [] } =
      b.setBench (y.putProcessor n { q with queue := [] }) :=
    congrArg b.setBench (Bench.putProcessor_putProcessor y n q { q with queue := [] })
  rw [deliverAll_eq, hsame, hempty]
  exact Alike.call h htwin q.queue

theorem serve (h : Counterpart n a b) (hopen : b.bench.shutdowns .processor n = 0)
    (device : Device) (request : Request) :
    Counterpart n (a.serve device request).1 ((b.serve device request).1.deliverAll n) ∧
      (b.serve device request).2 = (a.serve device request).2 := by
  have htwin := Alike.benches h
  have hunclosed := h.unclosed hopen
  generalize hx : a.bench = x at htwin hunclosed
  generalize hy : b.bench = y at htwin
  rw [Lab.serve, Lab.serve, hx, hy]
  cases htwin with
  | @intro base p q made pair =>
    by_cases hhits : Bench.Hits n device request
    · -- one has reported what the other has put into its queue
      obtain ⟨r, rfl, hserve⟩ := Bench.serve_of_hits (b := base) hhits
      rw [Bench.putProcessor_same] at hunclosed
      obtain ⟨houtcome, hstates, hqueue, hafter⟩ := pair.serve hunclosed r
      rw [hserve, hserve]
      simp only [houtcome, hstates, reportAll_nil]
      refine ⟨?_, trivial⟩
      rw [← hqueue]
      exact h.drain (.intro base made hafter)
    · rw [Bench.serve_putProcessor base p hhits, Bench.serve_putProcessor base q hhits]
      refine ⟨?_, rfl⟩
      have hbench : Bench.Twin n ((base.serve device request).bench.putProcessor n p)
          ((base.serve device request).bench.putProcessor n q) := by
        refine .intro _ ?_ pair
        rw [(base.steady_serve device request).installed]
        exact made
      have hafter := Alike.call h hbench (base.serve device request).states
      rw [drained hafter]
      exact hafter

theorem act (h : Counterpart n a b) (hopen : b.bench.shutdowns .processor n = 0)
    (request : Request) :
    Counterpart n (a.act request).1 ((b.act request).1.deliverAll n) ∧
      (b.act request).2 = (a.act request).2 := by
  rcases Alike.act_cases h request with ⟨failure, ha, hb⟩ | ⟨cell, device, ha, hb⟩
  · rw [ha, hb, h.drained]
    exact ⟨h, rfl⟩
  · have hset : Counterpart n (a.setCell cell) (b.setCell cell) := Alike.change h (.setCell cell)
    rw [ha, hb]
    exact hset.serve hopen device request

theorem signal (h : Counterpart n a b) (hopen : b.bench.shutdowns .processor n = 0) (k : Nat)
    (states : List State) :
    Counterpart n (a.signal k states) ((b.signal k states).deliverAll n) := by
  by_cases hk : k = n
  · subst hk
    obtain ⟨hdirect, hqueued⟩ := h.pair.report (h.unclosed hopen) states
    rw [Mailroom.signal_eq, Mailroom.signal_eq, hdirect, hqueued, reportAll_nil]
    have hpair : Processor.Twin (a.bench.processors k)
        { b.bench.processors k with queue := [] } := by
      rw [← h.pair.drained]
      exact h.pair
    exact h.drain (q := { b.bench.processors k with queue := states })
      ((Alike.benches h).put hpair)
  · have hsame := (Alike.benches h).other hk
    rw [Mailroom.signal_eq, Mailroom.signal_eq, hsame]
    have hafter : Counterpart n
        ((a.setProcessor k ((a.bench.processors k).report states).1).reportAll
          ((a.bench.processors k).report states).2)
        ((b.setProcessor k ((a.bench.processors k).report states).1).reportAll
          ((a.bench.processors k).report states).2) :=
      Alike.call h ((Alike.benches h).putOther hk _) _
    rw [hafter.drained]
    exact hafter

/-- What does not touch the queue needs nothing taken from it. -/
theorem settled (h : Counterpart n a b) : Counterpart n a (b.deliverAll n) := by
  rw [h.drained]
  exact h

theorem deliver (h : Counterpart n a b) (k : Nat) : Counterpart n (a.deliver k) (b.deliver k) := by
  by_cases hk : k = n
  · subst hk
    have hnone : (a.bench.processors k).next? = none := by rw [Processor.next?, h.pair.empty]
    have hnone' : (b.bench.processors k).next? = none := by rw [Processor.next?, h.pair.drained]
    rw [Lab.deliver, Lab.deliver, hnone, hnone']
    exact h
  · rw [Lab.deliver, Lab.deliver, (Alike.benches h).other hk]
    cases (a.bench.processors k).next? with
    | none => exact h
    | some next => exact Alike.call h ((Alike.benches h).putOther hk next.2) [next.1]

theorem take (h : Counterpart n a b) (hopen : b.bench.shutdowns .processor n = 0)
    (step : SetupStep) :
    Counterpart n (a.take step).1 ((b.take step).1.deliverAll n) ∧
      (b.take step).2 = (a.take step).2 := by
  cases step with
  | nested => exact ⟨h.settled, rfl⟩
  | report state =>
    have hafter : Counterpart n (a.report state) (b.report state) := Alike.change h (.report state)
    exact ⟨hafter.settled, rfl⟩
  | attach x =>
    have hattach := Alike.attachLabelled Bench.Twin.likeness h x
    exact ⟨settled hattach.1, hattach.2⟩
  | offer x => exact ⟨settled (Alike.attachLabelled Bench.Twin.likeness h x).1, rfl⟩
  | act request => exact ⟨(h.act hopen request).1, rfl⟩
  | setEntry key value =>
    have hafter : Counterpart n (a.setEntry key value).1 (b.setEntry key value).1 :=
      Alike.change h (.setEntry key value)
    exact ⟨hafter.settled, rfl⟩
  | removeEntry key =>
    have hafter : Counterpart n (a.removeEntry key).1 (b.removeEntry key).1 :=
      Alike.change h (.removeEntry key)
    exact ⟨hafter.settled, rfl⟩
  | shutdown =>
    have hafter : Counterpart n a.shutdown b.shutdown := Alike.shutdown Bench.Twin.likeness h
    exact ⟨hafter.settled, rfl⟩

/-- One operation other than an initialization, with the queue emptied after it. -/
theorem perform (h : Counterpart n a b) (hopen : b.bench.shutdowns .processor n = 0)
    {operation : Operation} (hne : operation ≠ .init) :
    Counterpart n (a.perform operation).1 (b.performDrained n operation).1 ∧
      (b.performDrained n operation).2 = (a.perform operation).2 := by
  rw [performDrained_of_ne hne]
  have htwin := Alike.benches h
  have hunasked : operation.asks = false →
      Counterpart n (a.perform operation).1 (b.performThenDrain n operation).1 ∧
        (b.performThenDrain n operation).2 = (a.perform operation).2 := by
    intro hasks
    obtain ⟨hafter, hanswer⟩ := Alike.perform Bench.Twin.likeness h hasks
    exact ⟨settled hafter, hanswer⟩
  cases operation with
  | init => exact absurd rfl hne
  | act request =>
    obtain ⟨hafter, houtcome⟩ := h.act hopen request
    exact ⟨hafter, congrArg (Except.map Answer.reply) houtcome⟩
  | deliver k => exact ⟨(h.deliver k).settled, rfl⟩
  | serve k request =>
    obtain ⟨hafter, houtcome⟩ := h.serve hopen (request.part, k) request
    exact ⟨hafter, congrArg (Except.map Answer.reply) houtcome⟩
  | signal k states => exact ⟨h.signal hopen k states, rfl⟩
  | arm k fault =>
    refine ⟨settled ?_, rfl⟩
    by_cases hk : k = n
    · subst hk
      exact Alike.setBench h (htwin.put (h.pair.arm fault))
    · show Counterpart n (a.setBench _) (b.setProcessor k ((b.bench.processors k).arm fault))
      rw [htwin.other hk]
      exact Alike.setBench h (htwin.putOther hk _)
  | load k address data => exact ⟨settled (Alike.setBench h (htwin.load k address data)), rfl⟩
  | _ => exact hunasked rfl

end Counterpart

/-! ## How often a processor has been shut down -/

/-- A processor is there, and has been shut down so many times at least. -/
def ShutAtLeast (n c : Nat) (lab : Lab) : Prop :=
  n < lab.bench.installed ∧ c ≤ lab.bench.shutdowns .processor n

end Lab

theorem Move.shutAtLeast {tampered : Prop} {a b : Lab} {moments : List Moment} {n c : Nat}
    (hmove : Move tampered a moments b) (h : a.ShutAtLeast n c) : b.ShutAtLeast n c := by
  obtain ⟨hmade, hcount⟩ := h
  cases hmove with
  | idle hidle =>
    refine ⟨?_, ?_⟩
    · rw [hidle.bench.installed]
      exact hmade
    · rw [hidle.bench.shutdowns]
      exact hcount
  | install label part fittings =>
    have hne : (Part.processor, n) ≠ (part, a.bench.installed) := by
      intro heq
      have hn : n = a.bench.installed := congrArg Prod.snd heq
      omega
    refine ⟨?_, ?_⟩
    · rw [Lab.setBench_bench, Bench.install_installed]
      omega
    · rw [Lab.setBench_bench, Bench.shutdowns_install, if_neg hne]
      exact hcount
  | report s => exact ⟨hmade, hcount⟩
  | pass slot state => exact ⟨hmade, hcount⟩
  | attach vacant fits labelled => exact ⟨hmade, hcount⟩
  | shutdown =>
    have hinstalled : a.shutdown.bench.installed = a.bench.installed :=
      (Lab.releaseAll_registry a.target.slots Capability.all a.takeSlots).2
    have hshutdowns := a.shutdown_shutdowns .processor n
    exact ⟨by omega, by omega⟩
  | close device ht =>
    have hshutdowns := a.bench.shutdowns_shutdown device .processor n
    refine ⟨?_, ?_⟩
    · rw [Lab.setBench_bench, Bench.shutdown_installed]
      exact hmade
    · rw [Lab.setBench_bench]
      omega

namespace Lab

theorem setupSteps_spaced (n : Nat) (step : SetupStep) (rest : List SetupStep) (lab : Lab) :
    setupSteps (drain n) (spaced (step :: rest)) lab =
      andThen (setupStep (drain n) lab step) fun after =>
        setupSteps (drain n) (spaced rest) (after.deliverAll n) := rfl

theorem setupStep_drain {lab : Lab} {n : Nat} (h : (lab.bench.processors n).queue = [])
    (step : SetupStep) : setupStep (drain n) lab step = lab.take step := by
  by_cases hstep : step = .nested
  · subst hstep
    show (lab.deliverAll n, Except.ok ()) = (lab, .ok ())
    rw [deliverAll_of_empty h]
  · exact setupStep_of_ne (drain n) lab hstep

namespace ShutAtLeast

variable {n c : Nat} {lab : Lab}

theorem perform (h : lab.ShutAtLeast n c) (operation : Operation) :
    (lab.perform operation).1.ShutAtLeast n c := by
  have hpath : Path True lab (lab.trail operation) (lab.perform operation).1 :=
    lab.path_perform operation (.inl trivial)
  exact hpath.keeps Move.shutAtLeast h

theorem take (h : lab.ShutAtLeast n c) (step : SetupStep) :
    (lab.take step).1.ShutAtLeast n c := by
  have hpath : Path True lab (lab.takeTrail step) (lab.take step).1 := lab.path_take step
  exact hpath.keeps Move.shutAtLeast h

theorem deliverAll (h : lab.ShutAtLeast n c) (k : Nat) : (lab.deliverAll k).ShutAtLeast n c := by
  have hsteady := lab.bench.steady_putProcessor k
    (p := { lab.bench.processors k with queue := [] }) rfl
  have hbench := lab.deliverAll_bench k
  refine ⟨?_, ?_⟩
  · rw [hbench]
    exact h.1
  · rw [hbench]
    exact (hsteady.shutdowns .processor n).symm ▸ h.2

theorem ofSteps (h : lab.ShutAtLeast n c) (k : Nat) (steps : List SetupStep) :
    (setupSteps (drain k) (spaced steps) lab).1.ShutAtLeast n c := by
  induction steps generalizing lab with
  | nil => exact h
  | cons step rest ih =>
    have hfirst : (setupStep (drain k) lab step).1.ShutAtLeast n c := by
      by_cases hstep : step = .nested
      · rw [hstep]
        exact h.deliverAll k
      · rw [setupStep_of_ne (drain k) lab hstep]
        exact h.take step
    rw [setupSteps_spaced]
    exact andThen_keeps hfirst fun after hafter => ih (hafter.deliverAll k)

theorem ofInit (h : lab.ShutAtLeast n c) (k : Nat) : (lab.initDrained k).1.ShutAtLeast n c := by
  rw [initDrained]
  split
  · exact h
  · cases lab.target.setup with
    | none => exact h
    | some setup =>
      have hstart : (lab.setInitialized true).countRun.ShutAtLeast n c := h
      have hsteps := hstart.ofSteps k (setup (lab.target.runs + 1)).steps
      refine concluded_keeps ?_ fun _ _ hbefore => hbefore
      rw [runSetup_eq]
      exact hsteps

theorem performDrained (h : lab.ShutAtLeast n c) (k : Nat) (operation : Operation) :
    (lab.performDrained k operation).1.ShutAtLeast n c := by
  by_cases hinit : operation = .init
  · rw [hinit]
    exact (h.ofInit k).deliverAll k
  · rw [performDrained_of_ne hinit]
    exact (h.perform operation).deliverAll k

theorem play (h : lab.ShutAtLeast n c) (k : Nat) (operations : List Operation) :
    (play (Lab.performDrained k) lab operations).1.ShutAtLeast n c := by
  induction operations generalizing lab with
  | nil => exact h
  | cons operation rest ih => exact ih (h.performDrained k operation)

end ShutAtLeast

/-! ## Initialization -/

namespace Counterpart

variable {n : Nat} {a b : Lab}

theorem not_shut (h : Counterpart n a b) (hopen : ¬ b.ShutAtLeast n 1) :
    b.bench.shutdowns .processor n = 0 := by
  have hmade : n < b.bench.installed := (Alike.benches h).made
  by_cases hzero : b.bench.shutdowns .processor n = 0
  · exact hzero
  · exact absurd ⟨hmade, Nat.one_le_iff_ne_zero.mpr hzero⟩ hopen

theorem setupSteps (h : Counterpart n a b) (steps : List SetupStep)
    (hopen : ¬ (setupSteps (Lab.drain n) (spaced steps) b).1.ShutAtLeast n 1) :
    Counterpart n (setupSteps quiet steps a).1 (setupSteps (Lab.drain n) (spaced steps) b).1 ∧
      (setupSteps (Lab.drain n) (spaced steps) b).2 = (setupSteps quiet steps a).2 := by
  induction steps generalizing a b with
  | nil => exact ⟨h, rfl⟩
  | cons step rest ih =>
    have hbefore : ¬ b.ShutAtLeast n 1 := fun hshut => hopen (hshut.ofSteps n (step :: rest))
    obtain ⟨htake, houtcome⟩ := h.take (h.not_shut hbefore) step
    have hattach : ∀ x, step = .attach x → Counterpart n (a.take step).1 (b.take step).1 := by
      rintro x rfl
      exact (Alike.attachLabelled Bench.Twin.likeness h x).1
    have herror : ∀ failure, (a.take step).2 = .error failure → ∃ x, step = .attach x :=
      fun failure hfailure => attach_of_take_error hfailure
    rw [setupSteps_spaced, setupStep_drain h.pair.drained] at hopen ⊢
    rw [setupSteps_cons]
    change Counterpart n (andThen (a.take step) (Lab.setupSteps quiet rest)).1 _ ∧
      _ = (andThen (a.take step) (Lab.setupSteps quiet rest)).2
    generalize a.take step = r at htake houtcome hattach herror ⊢
    generalize b.take step = r' at htake houtcome hattach hopen ⊢
    obtain ⟨a', outcome⟩ := r
    obtain ⟨b', outcome'⟩ := r'
    obtain rfl : outcome' = outcome := houtcome
    cases outcome' with
    | error failure =>
      -- no queue is emptied after the step that fails, but an attachment puts nothing there
      obtain ⟨x, hx⟩ := herror failure rfl
      exact ⟨hattach x hx, rfl⟩
    | ok done => exact ih htake hopen

theorem concluded {r s : Lab × Except Failure Unit} (h : Counterpart n r.1 s.1)
    (houtcome : s.2 = r.2) :
    Counterpart n (Lab.concluded r).1 (Lab.concluded s).1 ∧
      (Lab.concluded s).2 = (Lab.concluded r).2 := by
  obtain ⟨a, outcome⟩ := r
  obtain ⟨b, outcome'⟩ := s
  obtain rfl : outcome' = outcome := houtcome
  cases outcome' with
  | error failure => exact ⟨setInitialized h false, rfl⟩
  | ok done => exact ⟨h, rfl⟩

theorem init (h : Counterpart n a b) (hopen : ¬ (b.initDrained n).1.ShutAtLeast n 1) :
    Counterpart n a.init.1 (b.initDrained n).1 ∧ (b.initDrained n).2 = a.init.2 := by
  rw [init_eq]
  rw [initDrained, h.same_target] at hopen ⊢
  by_cases hinitialized : a.target.initialized = true
  · rw [if_pos hinitialized, if_pos hinitialized]
    exact ⟨h, rfl⟩
  rw [if_neg hinitialized] at hopen ⊢
  rw [if_neg hinitialized]
  cases hsetup : a.target.setup with
  | none => exact ⟨h.setInitialized true, rfl⟩
  | some setup =>
    have hstart : Counterpart n (a.setInitialized true).countRun (b.setInitialized true).countRun :=
      Alike.change (h.setInitialized true) .countRun
    have hruns : (b.setInitialized true).target.runs = (a.setInitialized true).target.runs :=
      congrArg Target.runs (same_target (h.setInitialized true))
    rw [hsetup] at hopen
    simp only [runSetup_eq, hruns] at hopen ⊢
    have hsteps := hstart.setupSteps (setup ((a.setInitialized true).target.runs + 1)).steps
      fun hshut => hopen (concluded_keeps hshut fun _ _ hbefore => hbefore)
    refine concluded hsteps.1 ?_
    exact congrArg (ending (setup ((a.setInitialized true).target.runs + 1))) hsteps.2

/-- One operation, unless it shuts the processor down. -/
theorem performDrained (h : Counterpart n a b) (operation : Operation)
    (hopen : ¬ (b.performDrained n operation).1.ShutAtLeast n 1) :
    Counterpart n (a.perform operation).1 (b.performDrained n operation).1 ∧
      (b.performDrained n operation).2 = (a.perform operation).2 := by
  by_cases hinit : operation = .init
  · subst hinit
    obtain ⟨hafter, houtcome⟩ := h.init fun hshut => hopen (hshut.deliverAll n)
    exact ⟨hafter.settled, congrArg (Except.map fun _ => Answer.done) houtcome⟩
  · exact h.perform (h.not_shut fun hshut => hopen (hshut.performDrained n operation)) hinit

/-- Any number of operations, none of which shuts the processor down. -/
theorem play (h : Counterpart n a b) (operations : List Operation)
    (hopen : ¬ (play (Lab.performDrained n) b operations).1.ShutAtLeast n 1) :
    Counterpart n (play Lab.perform a operations).1 (play (Lab.performDrained n) b operations).1 ∧
      (play (Lab.performDrained n) b operations).2 = (play Lab.perform a operations).2 := by
  induction operations generalizing a b with
  | nil => exact ⟨h, rfl⟩
  | cons operation rest ih =>
    obtain ⟨hafter, hanswer⟩ := h.performDrained operation fun hshut => hopen (hshut.play n rest)
    obtain ⟨hlast, hanswers⟩ := ih hafter hopen
    refine ⟨hlast, ?_⟩
    show (b.performDrained n operation).2 :: _ = (a.perform operation).2 :: _
    rw [hanswer, hanswers]

end Counterpart

/-! ## Setups that ask nothing of a processor -/

end Lab

def SetupStep.asksProcessor : SetupStep → Bool
  | .act (.processor _) => true
  | _ => false

namespace Lab

theorem queue_obtain {b : Bench} {n : Nat} (made : n < b.installed) (x : Attachment) :
    (b.obtain x.label x.kind.part x.fittings).1.processors n = b.processors n := by
  rcases b.obtain_cases x.label x.kind.part x.fittings with ⟨d, -, -, heq⟩ | heq
  · rw [heq]
  · have hne : n ≠ b.installed := Nat.ne_of_lt made
    rw [heq]
    cases x.kind.part with
    | processor => exact Family.put_of_ne _ hne _
    | _ => rfl

theorem attach_bench (lab : Lab) (kind : Capability) (device : Device) :
    (lab.attach kind device).1.bench = lab.bench := by
  rw [attach]
  split <;> rfl

theorem queue_serve (b : Bench) (device : Device) {request : Request}
    (h : request.part ≠ .processor) : (b.serve device request).bench.processors = b.processors := by
  obtain ⟨part, k⟩ := device
  cases request with
  | processor r => exact absurd rfl h
  | memory r => cases part <;> rfl
  | registers r => cases part <;> rfl

/-- Where nothing is asked of a processor, nothing is put into a queue. -/
theorem queue_take {lab : Lab} {n : Nat} (made : n < lab.bench.installed) {step : SetupStep}
    (h : step.asksProcessor = false) :
    ((lab.take step).1.bench.processors n).queue = (lab.bench.processors n).queue := by
  cases step with
  | nested | report | setEntry | removeEntry => rfl
  | attach x | offer x =>
    show ((lab.attachLabelled x).1.bench.processors n).queue = _
    rw [attachLabelled_eq, attach_bench, setBench_bench]
    exact congrArg Processor.queue (queue_obtain made x)
  | act request =>
    have hpart : request.part ≠ .processor := by
      intro hrequest
      cases request with
      | processor r => cases h
      | memory r => cases hrequest
      | registers r => cases hrequest
    show ((lab.act request).1.bench.processors n).queue = _
    cases hslot : lab.target.slots request.action.capability with
    | none => rw [act_of_vacant hslot]
    | some device =>
      by_cases hstate : lab.target.cell.state = request.action.required
      · rw [act_of_passes hslot hstate, serve_bench, queue_serve _ _ hpart, setCell_bench]
      · rw [act_of_wrongState hslot hstate]
  | shutdown =>
    exact releaseAll_keeps (fun _ => rfl) lab.target.slots Capability.all
      lab.takeSlots n

theorem setupSteps_unasked {n : Nat} (steps : List SetupStep) {lab : Lab}
    (made : n < lab.bench.installed) (empty : (lab.bench.processors n).queue = [])
    (h : ∀ step ∈ steps, step.asksProcessor = false) :
    setupSteps (drain n) (spaced steps) lab = setupSteps quiet steps lab := by
  induction steps generalizing lab with
  | nil => rfl
  | cons step rest ih =>
    have hafter : n < (lab.take step).1.bench.installed :=
      (ShutAtLeast.take (c := 0) ⟨made, Nat.zero_le _⟩ step).1
    have hqueue : ((lab.take step).1.bench.processors n).queue = [] :=
      (queue_take made (h step List.mem_cons_self)).trans empty
    rw [setupSteps_spaced, setupStep_drain empty, setupSteps_cons]
    refine andThen_congr fun _ => ?_
    rw [deliverAll_of_empty hqueue]
    exact ih hafter hqueue fun later hlater => h later (List.mem_cons_of_mem _ hlater)

/-- No run of the setup of a target asks a processor for something. -/
def Unasked (lab : Lab) : Prop :=
  ∀ setup, lab.target.setup = some setup → ∀ run, ∀ step ∈ (setup run).steps,
    step.asksProcessor = false

theorem initDrained_unasked {lab : Lab} {n : Nat} (made : n < lab.bench.installed)
    (empty : (lab.bench.processors n).queue = []) (h : lab.Unasked) :
    lab.initDrained n = lab.init := by
  rw [init_eq, initDrained]
  split
  · rfl
  · cases hsetup : lab.target.setup with
    | none => rfl
    | some setup =>
      have hsteps : setupSteps (drain n) (spaced (setup (lab.target.runs + 1)).steps)
          (lab.setInitialized true).countRun =
            setupSteps quiet (setup (lab.target.runs + 1)).steps
              (lab.setInitialized true).countRun :=
        setupSteps_unasked _ made empty (h setup hsetup (lab.target.runs + 1))
      have hruns : (lab.setInitialized true).target.runs = lab.target.runs := rfl
      simp only [runSetup_eq, hruns, hsteps]
      rfl

theorem play_unasked {lab : Lab} {n : Nat} (made : n < lab.bench.installed)
    (empty : (lab.bench.processors n).queue = []) (h : lab.Unasked) (operations : List Operation) :
    play (performThenDrain n) lab operations = play (performDrained n) lab operations := by
  induction operations generalizing lab with
  | nil => rfl
  | cons operation rest ih =>
    have hsame : lab.performDrained n operation = lab.performThenDrain n operation := by
      by_cases hinit : operation = .init
      · subst hinit
        rw [performDrained, initDrained_unasked made empty h]
        rfl
      · exact performDrained_of_ne hinit
    have hmade : n < (lab.performThenDrain n operation).1.bench.installed := by
      rw [← hsame]
      exact (ShutAtLeast.performDrained (c := 0) ⟨made, Nat.zero_le _⟩ n operation).1
    have hsetup : (lab.performThenDrain n operation).1.target.setup = lab.target.setup := by
      show ((lab.perform operation).1.deliverAll n).target.setup = lab.target.setup
      rw [deliverAll_eq, reportAll_target]
      exact perform_setup lab operation
    have hrest := ih hmade (deliverAll_queue ..) (by
      rw [Unasked, hsetup]
      exact h)
    rw [play, play, hsame, hrest]

/-! ## Sessions -/

/-- A lab with a new processor under a label, the next of its handles. -/
def fitted (lab : Lab) (label : String) (fittings : Fittings) (delivery : Delivery) : Lab :=
  lab.setBench (lab.bench.install label .processor { fittings with delivery }).1

theorem counterpart_fitted (lab : Lab) (label : String) (fittings : Fittings) :
    Counterpart lab.bench.installed (lab.fitted label fittings .direct)
      (lab.fitted label fittings .queued) := by
  have hinstall : ∀ delivery,
      (lab.bench.install label .processor { fittings with delivery }).1 =
        (lab.bench.install label .processor fittings).1.putProcessor lab.bench.installed
          (.new delivery) := by
    intro delivery
    simp only [Bench.install, Bench.putProcessor, Family.put_put]
  have htwin : Bench.Twin lab.bench.installed
      (lab.bench.install label .processor { fittings with delivery := .direct }).1
      (lab.bench.install label .processor { fittings with delivery := .queued }).1 := by
    have hmade : lab.bench.installed <
        (lab.bench.install label .processor fittings).1.installed := by
      rw [Bench.install_installed]
      exact Nat.lt_succ_self _
    rw [hinstall .direct, hinstall .queued]
    exact .intro _ hmade .new
  exact ⟨lab.target.initialized, _, rfl, htwin, rfl⟩

/-- All that can be seen of two labs coincides. -/
structure Coincide (n : Nat) (a b : Lab) : Prop where
  /-- the state, whether it is settled, what is attached, and the entries -/
  target : b.target = a.target
  /-- whether a wait would return, and with what -/
  wait : b.wait? = a.wait?
  sinks : b.sinks = a.sinks
  /-- all events so far -/
  outlets : b.outlets = a.outlets
  calls : (b.bench.processors n).calls = (a.bench.processors n).calls
  inserted : (b.bench.processors n).inserted = (a.bench.processors n).inserted
  /-- the other devices -/
  others : b.bench.putProcessor n (a.bench.processors n) = a.bench

theorem Counterpart.coincide {n : Nat} {a b : Lab} (h : Counterpart n a b) : Coincide n a b := by
  have hothers : ∀ {x y : Bench}, Bench.Twin n x y → y.putProcessor n (x.processors n) = x := by
    rintro x y ⟨base, made, pair⟩
    rw [Bench.putProcessor_same, Bench.putProcessor_putProcessor]
  refine
    { target := h.same_target
      wait := Alike.wait? h
      sinks := ?_
      outlets := ?_
      calls := h.pair.work.calls.symm
      inserted := h.pair.work.inserted.symm
      others := hothers (Alike.benches h) }
  · obtain ⟨_, _, _, _, rfl⟩ := h
    rfl
  · obtain ⟨_, _, _, _, rfl⟩ := h
    rfl

/-- A session with a direct processor and the same session with a queued one. -/
structure SameSession (n : Nat) (direct queued : Lab) (operations : List Operation) : Prop where
  /-- at every point -/
  points : ∀ first rest, operations = first ++ rest →
    Coincide n (play perform direct first).1 (play (performDrained n) queued first).1
  answers : (play (performDrained n) queued operations).2 = (play perform direct operations).2
  /-- also after one more operation, which may shut the processor down -/
  last : ∀ operation, operation ≠ .init →
    Coincide n (play perform direct (operations ++ [operation])).1
        (play (performDrained n) queued (operations ++ [operation])).1 ∧
      (play (performDrained n) queued (operations ++ [operation])).2 =
        (play perform direct (operations ++ [operation])).2
  /-- where the setup asks nothing of a processor, it is enough to empty the queue after the whole of
  an initialization -/
  whole : direct.Unasked →
    play (performThenDrain n) queued operations = play (performDrained n) queued operations

/-- A queued processor whose queue is emptied after every operation, and within an initialization
after every step of the setup, looks like a direct one until it is shut down. -/
theorem drained_like_direct (start : Lab) (label : String) (fittings : Fittings)
    {operations : List Operation}
    (unshut : (play (performDrained start.bench.installed) (start.fitted label fittings .queued)
      operations).1.bench.shutdowns .processor start.bench.installed = 0) :
    SameSession start.bench.installed (start.fitted label fittings .direct)
      (start.fitted label fittings .queued) operations := by
  have hstart := start.counterpart_fitted label fittings
  have hopen : ¬ (play (performDrained start.bench.installed)
      (start.fitted label fittings .queued) operations).1.ShutAtLeast start.bench.installed 1 := by
    rintro ⟨-, hshut⟩
    omega
  obtain ⟨hend, hanswers⟩ := hstart.play operations hopen
  refine
    { points := fun first rest hsplit => ?_
      answers := hanswers
      last := fun operation hne => ?_
      whole := fun hunasked => ?_ }
  · have hfirst : ¬ (play (performDrained start.bench.installed)
        (start.fitted label fittings .queued) first).1.ShutAtLeast start.bench.installed 1 := by
      intro hshut
      rw [hsplit, play_append] at hopen
      exact hopen (hshut.play _ rest)
    exact (hstart.play first hfirst).1.coincide
  · obtain ⟨hafter, hanswer⟩ := hend.perform unshut hne
    rw [play_append, play_append]
    refine ⟨hafter.coincide, ?_⟩
    show _ ++ [(performDrained _ _ operation).2] = _ ++ [(perform _ operation).2]
    rw [hanswers, hanswer]
  · have hmade : start.bench.installed < (start.fitted label fittings .queued).bench.installed :=
      (Alike.benches hstart).made
    exact play_unasked hmade hstart.pair.drained hunasked operations

/-- A target is let run, halted and stepped, one request fails, and what is controlled exits. -/
def outing : List Operation :=
  [.attach ⟨.execution, "cpu", .plain⟩, .init, .report .stopped, .act (.processor .cont),
    .act (.processor .stop), .wait [], .act (.processor .step), .arm 0 (.rejected "busy"),
    .act (.processor .cont), .serve 0 (.processor .step), .signal 0 [.exited], .wait []]

theorem drained_like_direct_outing :
    (play (performDrained 0) (bare.fitted "cpu" .plain .queued) outing).1.bench.shutdowns
        .processor 0 = 0 ∧
      ((play (performDrained 0) (bare.fitted "cpu" .plain .queued) outing).1.bench.processors
        0).calls = [.cont, .stop, .step, .step] ∧
      SameSession 0 (bare.fitted "cpu" .plain .direct) (bare.fitted "cpu" .plain .queued) outing :=
  ⟨rfl, rfl, drained_like_direct bare "cpu" .plain rfl⟩

/-- A setup that lets its target run and halts it at once. -/
def hasty : Setup := fun _ =>
  { steps := [.attach ⟨.execution, "cpu", .plain⟩, .report .stopped, .act (.processor .cont),
      .act (.processor .stop)]
    failure := none }

/-- The setup asks a processor for something, so it is not enough to empty the queue after the whole
of the initialization: the target is not yet known to run when it is to be halted. -/
theorem undrained_within :
    let start := Lab.new "unit" (some hasty) ⟨[], []⟩ .epoch
    let direct := (play perform (start.fitted "cpu" .plain .direct) [.init]).1
    let queued := (play (performThenDrain 0) (start.fitted "cpu" .plain .queued) [.init]).1
    queued.bench.shutdowns .processor 0 = 0 ∧
      (direct.bench.processors 0).calls = [.cont, .stop] ∧ direct.target.cell = ⟨.stopped, true⟩ ∧
      (queued.bench.processors 0).calls = [.cont] ∧ queued.target.cell = ⟨.running, true⟩ ∧
      ¬ Coincide 0 direct queued := by
  refine ⟨rfl, rfl, rfl, rfl, rfl, fun h => ?_⟩
  cases h.calls

end Lab
end TargetControl
