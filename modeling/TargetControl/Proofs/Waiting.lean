import TargetControl.Proofs.History

/-!
Waits, as the history of a target decides them.

A wait is over at once when the last thing that bears on the pair was a report of a state that
releases.  Otherwise it goes on to the first such report, and no report before that one ends it.

A wait with a limit looks at the pair first and at its deadline then.  So it is told the same as a
wait without one until a look finds that the deadline has passed, and a limit whose end is no moment
of the clock is no limit.
-/

namespace TargetControl

/-- How the report of a state releases a waiter, if it does. -/
def State.release? : State → Option Release
  | .stopped => some .stopped
  | .exited => some .exited
  | _ => none

theorem State.release?_eq_none {s : State} :
    s.release? = none ↔ s ≠ .stopped ∧ s ≠ .exited := by
  cases s <;> decide

theorem State.findSome?_release? {states : List State}
    (h : ∀ s ∈ states, s ≠ .stopped ∧ s ≠ .exited) : states.findSome? State.release? = none :=
  List.findSome?_eq_none_iff.mpr fun s hs => State.release?_eq_none.mpr (h s hs)

theorem Cell.release?_publish (c : Cell) (s : State) : (c.publish s).release? = s.release? := by
  cases s <;> rfl

theorem Cell.release?_eq (c : Cell) :
    c.release? = if c.settled then c.state.release? else none := by
  rw [release?]
  cases c.settled with
  | false => rfl
  | true => cases c.state <;> rfl

namespace Lab

theorem released_injective (lab : Lab) : Function.Injective lab.released := by
  intro r r' h
  cases r <;> cases r' <;> first | rfl | cases h

theorem wait?_report (lab : Lab) (s : State) :
    (lab.report s).wait? = s.release?.map lab.released := by
  rw [wait?, report_target, Cell.release?_publish]
  rfl

/-- What a waiter is told that looks after each of some reports. -/
theorem waitThrough_snd (lab : Lab) (states : List State) :
    (lab.waitThrough states).2 = (states.findSome? State.release?).map lab.released := by
  induction states generalizing lab with
  | nil => rfl
  | cons s rest ih =>
    show (lab.report s).wait?.or ((lab.report s).waitThrough rest).2 = _
    rw [ih, wait?_report, List.findSome?_cons]
    cases s.release? with
    | none => rfl
    | some r => rfl

theorem waitThrough_eq (lab : Lab) (states : List State) :
    lab.waitThrough states =
      (lab.reportAll states, (states.findSome? State.release?).map lab.released) :=
  Prod.ext (waitThrough_fst lab states) (waitThrough_snd lab states)

theorem wait_of_released {lab : Lab} {told : Except Failure Unit} (h : lab.wait? = some told)
    (states : List State) : lab.wait states = (lab, some told) := by
  rw [wait, h]

theorem wait_of_blocked {lab : Lab} (h : lab.wait? = none) (states : List State) :
    lab.wait states =
      (lab.reportAll states, (states.findSome? State.release?).map lab.released) := by
  rw [wait, h, waitThrough_eq]

/-- A waiter that has to wait goes on through reports that release nobody. -/
theorem wait_through {lab : Lab} (h : lab.wait? = none) {states : List State}
    (hnone : ∀ s ∈ states, s ≠ .stopped ∧ s ≠ .exited) :
    lab.wait states = (lab.reportAll states, none) := by
  rw [wait_of_blocked h, State.findSome?_release? hnone]
  rfl

/-- A waiter that has to wait is told what the first report that releases it says. -/
theorem wait_first {lab : Lab} (h : lab.wait? = none) {before : List State}
    (hnone : ∀ s ∈ before, s ≠ .stopped ∧ s ≠ .exited) {s : State} {r : Release}
    (hs : s.release? = some r) (after : List State) :
    lab.wait (before ++ s :: after) =
      (lab.reportAll (before ++ s :: after), some (lab.released r)) := by
  rw [wait_of_blocked h, List.findSome?_append, State.findSome?_release? hnone,
    List.findSome?_cons, hs]
  rfl

/-! ## Limits -/

/-- When a waiter looks that begins now. -/
def lookTimes (now : Instant) (naps : List Nap) : List Instant := now :: naps.map Nap.woken

/-- No look is at the deadline or after it. -/
def Early (deadline : Option Instant) (now : Instant) (naps : List Nap) : Prop :=
  ∀ d ∈ deadline, ∀ t ∈ lookTimes now naps, t.nanos < d.nanos

section Limit

variable {limit : Duration} {now : Instant}

/-- A look before the deadline finds what a wait without a limit finds. -/
theorem look_of_before (limit : Duration) {deadline : Option Instant} (lab : Lab)
    (h : ∀ d ∈ deadline, now.nanos < d.nanos) : lab.look limit deadline now = lab.wait? := by
  cases hwait : lab.wait? with
  | some told => exact look_of_told hwait
  | none => exact look_of_early hwait h

theorem wait_cons_of_blocked {lab : Lab} (h : lab.wait? = none) (s : State) (rest : List State) :
    (lab.wait (s :: rest)).2 = ((lab.report s).wait rest).2 := by
  have hthrough : (lab.wait (s :: rest)).2 =
      (lab.report s).wait?.or ((lab.report s).waitThrough rest).2 := by
    rw [wait, h]
    rfl
  rw [hthrough, wait]
  cases (lab.report s).wait? <;> rfl

/-- Whoever looks after every report is told the same, with a deadline that has not passed or without
one. -/
theorem waitUntil_early {deadline : Option Instant} {naps : List Nap}
    (hsingle : ∀ nap ∈ naps, nap.states.length ≤ 1) (hearly : Early deadline now naps) (lab : Lab) :
    (waitUntil limit deadline now naps lab).2 = (lab.wait (naps.flatMap Nap.states)).2 := by
  induction naps generalizing lab now with
  | nil =>
    have hnow := look_of_before limit lab fun d hd => hearly d hd now List.mem_cons_self
    rw [waitUntil, hnow, List.flatMap_nil, wait]
    cases lab.wait? <;> rfl
  | cons nap rest ih =>
    have hnow := look_of_before limit lab fun d hd => hearly d hd now List.mem_cons_self
    cases hwait : lab.wait? with
    | some told => rw [waitUntil_of_some (hnow.trans hwait), wait_of_released hwait]
    | none =>
      have hrest : Early deadline nap.woken rest := fun d hd t ht =>
        hearly d hd t (List.mem_cons_of_mem _ ht)
      have hone : nap.states.length ≤ 1 := hsingle nap List.mem_cons_self
      rw [waitUntil_of_none (hnow.trans hwait),
        ih (fun later hlater => hsingle later (List.mem_cons_of_mem _ hlater)) hrest,
        List.flatMap_cons]
      cases hstates : nap.states with
      | nil => rfl
      | cons s more =>
        rw [hstates, List.length_cons] at hone
        obtain rfl : more = [] := List.eq_nil_of_length_eq_zero (by omega)
        exact (wait_cons_of_blocked hwait s _).symm

theorem wait?_reportAll {lab : Lab} (h : lab.wait? = none) {states : List State}
    (hnone : ∀ s ∈ states, s ≠ .stopped ∧ s ≠ .exited) : (lab.reportAll states).wait? = none := by
  induction states generalizing lab with
  | nil => exact h
  | cons s rest ih =>
    have hfirst : (lab.report s).wait? = none := by
      rw [wait?_report, State.release?_eq_none.mpr (hnone s List.mem_cons_self)]
      rfl
    exact ih hfirst fun s' hs' => hnone s' (List.mem_cons_of_mem _ hs')

theorem waitUntil_elapsed {deadline : Instant} {naps : List Nap}
    (hnone : ∀ nap ∈ naps, ∀ s ∈ nap.states, s ≠ .stopped ∧ s ≠ .exited)
    (hlate : ∃ t ∈ lookTimes now naps, deadline.nanos ≤ t.nanos) {lab : Lab}
    (h : lab.wait? = none) :
    ∃ taken, taken <+: naps ∧ waitUntil limit (some deadline) now naps lab =
      (lab.reportAll (taken.flatMap Nap.states),
        some (.error (.timedOut lab.target.name limit))) := by
  induction naps generalizing lab now with
  | nil =>
    obtain ⟨t, ht, hle⟩ := hlate
    obtain rfl := List.mem_singleton.mp ht
    exact ⟨[], List.prefix_rfl, waitUntil_of_some (look_of_late h hle) []⟩
  | cons nap rest ih =>
    by_cases hnow : deadline.nanos ≤ now.nanos
    · exact ⟨[], List.nil_prefix, waitUntil_of_some (look_of_late h hnow) _⟩
    · have hlook : lab.look limit (some deadline) now = none :=
        look_of_early h fun _ hd => Option.some.inj hd ▸ Nat.not_le.mp hnow
      have hlater : ∃ t ∈ lookTimes nap.woken rest, deadline.nanos ≤ t.nanos := by
        obtain ⟨t, ht, hle⟩ := hlate
        rcases List.mem_cons.mp ht with rfl | ht
        · exact absurd hle hnow
        · exact ⟨t, ht, hle⟩
      obtain ⟨taken, hbegins, hends⟩ := ih
        (fun later hmem => hnone later (List.mem_cons_of_mem _ hmem)) hlater
        (wait?_reportAll h (hnone nap List.mem_cons_self))
      refine ⟨nap :: taken, List.cons_prefix_cons.mpr ⟨rfl, hbegins⟩, ?_⟩
      rw [waitUntil_of_none hlook, hends, reportAll_target, List.flatMap_cons, reportAll_append]

end Limit

end Lab

/-! ## The law -/

/-- A wait that begins now goes on, through reports that release nobody, to the first that does. -/
structure Blocked (lab : Lab) : Prop where
  now : lab.wait? = none
  goesOn : ∀ states, (∀ s ∈ states, s ≠ .stopped ∧ s ≠ .exited) →
    lab.wait states = (lab.reportAll states, none)
  firstStopped : ∀ before after, (∀ s ∈ before, s ≠ .stopped ∧ s ≠ .exited) →
    lab.wait (before ++ .stopped :: after) =
      (lab.reportAll (before ++ .stopped :: after), some (.ok ()))
  firstExited : ∀ before after, (∀ s ∈ before, s ≠ .stopped ∧ s ≠ .exited) →
    lab.wait (before ++ .exited :: after) =
      (lab.reportAll (before ++ .exited :: after), some (.error (.exited lab.target.name)))

theorem Lab.blocked {lab : Lab} (h : lab.wait? = none) : Blocked lab := by
  have hstop : State.stopped.release? = some .stopped := rfl
  have hexit : State.exited.release? = some .exited := rfl
  exact
    { now := h
      goesOn := fun _ hnone => wait_through h hnone
      firstStopped := fun _ after hnone => wait_first h hnone hstop after
      firstExited := fun _ after hnone => wait_first h hnone hexit after }

/-- What a wait with a limit that begins now is told, whatever the limit is. -/
structure LimitLaw (lab : Lab) : Prop where
  /-- a wait that is over at once does not come to look at the clock -/
  atOnce : ∀ told, lab.wait? = some told → ∀ limit deadline now naps,
    Lab.waitUntil limit deadline now naps lab = (lab, some told)
  /-- while its deadline has not passed, or without one, a waiter that looks after every report is
  told what one without a limit is told -/
  alike : ∀ limit deadline now naps, (∀ nap ∈ naps, nap.states.length ≤ 1) →
    Lab.Early deadline now naps →
    (Lab.waitUntil limit deadline now naps lab).2 = (lab.wait (naps.flatMap Lab.Nap.states)).2
  /-- the first look at the deadline or after it ends a wait that no report has ended before -/
  elapsed : lab.wait? = none → ∀ limit deadline now naps,
    (∀ nap ∈ naps, ∀ s ∈ nap.states, s ≠ .stopped ∧ s ≠ .exited) →
    (∃ t ∈ Lab.lookTimes now naps, deadline.nanos ≤ t.nanos) →
    ∃ taken, taken <+: naps ∧ Lab.waitUntil limit (some deadline) now naps lab =
      (lab.reportAll (taken.flatMap Lab.Nap.states),
        some (.error (.timedOut lab.target.name limit)))
  /-- where nobody reports, that is the look at the deadline, if the limit has an end -/
  unreported : ∀ limit now, lab.waitFor limit now =
    (lab, lab.wait?.or
      ((now.after? limit).map fun _ => .error (.timedOut lab.target.name limit)))
  zero : ∀ now, lab.waitFor ⟨0, 0⟩ now =
    (lab, some (lab.wait?.getD (.error (.timedOut lab.target.name ⟨0, 0⟩))))
  /-- the longest limit has no end, so it ends no wait -/
  longest : ∀ now, lab.waitFor .longest now = (lab, lab.wait?)

theorem Lab.limitLaw (lab : Lab) : LimitLaw lab where
  atOnce _ h _ _ _ naps := waitUntil_of_some (look_of_told h) naps
  alike _ _ _ _ hsingle hearly := waitUntil_early hsingle hearly lab
  elapsed h _ _ _ _ hnone hlate := waitUntil_elapsed hnone hlate h
  unreported := waitFor_eq lab
  zero now := by
    rw [waitFor_eq, Instant.after?_zero]
    cases lab.wait? <;> rfl
  longest now := by
    rw [waitFor_eq, Instant.after?_longest]
    exact congrArg (lab, ·) (Option.or_none)

/-- What the history of a target says of the pair and of every wait that begins now. -/
structure HistoryLaw (marks : List Mark) (lab : Lab) : Prop where
  pair : PairLaw marks lab.target.cell
  stopped : lab.wait? = some (.ok ()) ↔ marks.getLast? = some (.report .stopped)
  exited : lab.wait? = some (.error (.exited lab.target.name)) ↔
    marks.getLast? = some (.report .exited)
  blocked : lab.wait? = none ↔
    marks.getLast? ≠ some (.report .stopped) ∧ marks.getLast? ≠ some (.report .exited)
  /-- a wait that is over at once is over before any further report -/
  atOnce : ∀ told, lab.wait? = some told → ∀ states, lab.wait states = (lab, some told)
  waits : lab.wait? = none → Blocked lab
  limited : LimitLaw lab

namespace PairLaw

variable {marks : List Mark}

/-- The pair releases a waiter if the last mark is the report of a state that does. -/
theorem release?_eq {cell : Cell} (h : PairLaw marks cell) :
    cell.release? = marks.getLast?.bind fun m => m.report?.bind State.release? := by
  rcases List.eq_nil_or_concat marks with rfl | ⟨before, m, rfl⟩
  · rw [Cell.release?_eq, h.of_nil]
    rfl
  · rw [List.concat_eq_append] at h ⊢
    rw [List.getLast?_concat]
    cases m with
    | report s =>
      rw [h.of_report]
      exact Cell.release?_eq ⟨s, true⟩
    | request =>
      rw [Cell.release?_eq, h.of_request]
      rfl

/-- The report that releases a waiter in one way. -/
theorem released_iff {lab : Lab} (h : PairLaw marks lab.target.cell) {r : Release} {s : State}
    (hs : ∀ s', s'.release? = some r ↔ s' = s) :
    lab.wait? = some (lab.released r) ↔ marks.getLast? = some (.report s) := by
  rw [Lab.wait?, h.release?_eq, Option.map_eq_some_iff]
  constructor
  · rintro ⟨r', hr', heq⟩
    rw [lab.released_injective heq, Option.bind_eq_some_iff] at hr'
    obtain ⟨m, hm, hr⟩ := hr'
    cases m with
    | request => cases hr
    | report s' => rw [hm, (hs s').mp hr]
  · intro hlast
    refine ⟨r, ?_, rfl⟩
    rw [hlast]
    exact (hs s).mpr rfl

theorem historyLaw {lab : Lab} (h : PairLaw marks lab.target.cell) : HistoryLaw marks lab := by
  have hstopped : lab.wait? = some (.ok ()) ↔ marks.getLast? = some (.report .stopped) :=
    h.released_iff (r := .stopped) fun s => by cases s <;> decide
  have hexited : lab.wait? = some (.error (.exited lab.target.name)) ↔
      marks.getLast? = some (.report .exited) :=
    h.released_iff (r := .exited) fun s => by cases s <;> decide
  refine
    { pair := h
      stopped := hstopped
      exited := hexited
      blocked := ?_
      atOnce := fun told ht states => Lab.wait_of_released ht states
      waits := Lab.blocked
      limited := lab.limitLaw }
  · rw [Ne, Ne, ← hstopped, ← hexited]
    constructor
    · intro hb
      rw [hb]
      exact ⟨nofun, nofun⟩
    · rintro ⟨hs, he⟩
      cases hw : lab.wait? with
      | none => rfl
      | some told =>
        obtain ⟨r, -, rfl⟩ := Option.map_eq_some_iff.mp hw
        cases r with
        | stopped => exact absurd hw hs
        | exited => exact absurd hw he

end PairLaw

/-- In every run, at its end and at every moment of it, the pair and the waits are what the history
up to there says. -/
theorem history_law {start : Lab} (hstart : start.Initial) (operations : List Operation) :
    HistoryLaw (history (start.chronicle operations)) (start.run operations) ∧
      ∀ before m after, start.chronicle operations = before ++ m :: after →
        HistoryLaw (history (before ++ [m])) m.lab := by
  have hpair : PairLaw [] start.target.cell := by
    rw [hstart.fresh.1]
    exact .fresh
  have hfollows := (start.path_run_any operations).follows hpair
  refine ⟨hfollows.last.historyLaw, fun before m after hsplit => ?_⟩
  rw [hsplit] at hfollows
  exact hfollows.at_moment.historyLaw

/-- The request is let through, and then the processor reports within the call. -/
theorem history_law_of_cont :
    history (Lab.halted.chronicle [.act (.processor .cont)]) = [.request, .report .running] ∧
      HistoryLaw (history (Lab.bare.chronicle [.attach ⟨.execution, "cpu", .plain⟩,
          .report .stopped, .act (.processor .cont)]))
        (Lab.halted.run [.act (.processor .cont)]) :=
  ⟨rfl, (history_law Lab.initial_bare _).1⟩

/-- A second has an end, and the longest span has none. -/
example :
    (Lab.bare.perform (.waitFor ⟨1, 0⟩ .first)).2 = .error (.timedOut "unit" ⟨1, 0⟩) ∧
      (Lab.bare.perform (.waitFor .longest .first)).2 = .ok .blocked := ⟨rfl, rfl⟩

end TargetControl
