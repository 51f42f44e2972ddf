import TargetControl.Proofs.Interleaving

/-!
Reports from several threads.

A reporter takes the reporting lock, publishes its report, tells the sinks of it and frees the lock.
Meanwhile other reporters wait for the lock, but the requests of callers may be let through at any
moment, and attachments and releases may be told of, since none of these needs it.

`reports_in_order` says that the sinks hear of the reports in the order in which they were applied.
The state that a reporter tells of as the one before its own was read when it published.  Nobody else
publishes until it has told, so this is still the state of the report told last: `Ordered` relates
the phase of each reporter to the pair and to what has been told.
-/

namespace TargetControl

/-! ## Changes of state, one after another -/

def Change.passage? : Change → Option (State × State)
  | .state a b => some (a, b)
  | .attached _ | .detached _ => none

theorem Change.passage?_of_kind {c : Change} (h : c.kind ≠ .state) : c.passage? = none := by
  cases c with
  | state a b => exact absurd rfl h
  | attached kind => rfl
  | detached kind => rfl

namespace State

def passages : State → List State → List (State × State)
  | _, [] => []
  | a, b :: rest => (a, b) :: passages b rest

theorem passages_concat (a : State) (states : List State) (s : State) :
    passages a (states ++ [s]) = passages a states ++ [(states.getLast?.getD a, s)] := by
  induction states generalizing a with
  | nil => rfl
  | cons b rest ih =>
    rw [List.cons_append, passages, ih, passages, List.cons_append]
    rw [List.getLast?_cons]
    rfl

theorem map_snd_passages (a : State) (states : List State) :
    (passages a states).map Prod.snd = states := by
  induction states generalizing a with
  | nil => rfl
  | cons b rest ih => rw [passages, List.map_cons, ih]

theorem chained_passages (a : State) (states : List State) :
    Event.chained (passages a states) = true := by
  induction states generalizing a with
  | nil => rfl
  | cons b rest ih =>
    have hrest := ih b
    cases rest with
    | nil => rfl
    | cons c rest =>
      show (decide (b = b) && Event.chained (passages b (c :: rest))) = true
      rw [hrest, decide_eq_true rfl]
      rfl

end State

theorem Event.transitions_map (name : String) (now : Timestamp) (changes : List Change) :
    transitions (changes.map fun c => ⟨name, c, now⟩) = changes.filterMap Change.passage? := by
  rw [transitions, List.filterMap_map]
  congr 1
  funext c
  cases c <;> rfl

/-! ## Reporters -/

inductive Phase where
  | idle
  /-- it has the reporting lock -/
  | ready
  /-- it has published, and the state from before is to be told -/
  | published (before : State)
  | told
deriving DecidableEq, Repr

structure Reporter where
  phase : Phase
  /-- the reports that are not completed, beginning with the one in progress -/
  todo : List State

def Reporter.untold (r : Reporter) : List State :=
  match r.phase with
  | .told => r.todo.tail
  | _ => r.todo

/-- A lab and those who report to it, who are known by numbers. -/
structure Newsroom where
  lab : Lab
  /-- the reporter that has the reporting lock -/
  turn : Option Nat
  reporters : Nat → Reporter
  /-- the reports in the order in which they were published -/
  applied : List (Nat × State)

namespace Newsroom

def opened (lab : Lab) (scripts : Nat → List State) : Newsroom :=
  { lab, turn := none, reporters := fun i => ⟨.idle, scripts i⟩, applied := [] }

def move (r : Newsroom) (i : Nat) (phase : Phase) (todo : List State) : Newsroom :=
  { r with reporters := Family.put r.reporters i ⟨phase, todo⟩ }

/-- One step of a reporter, or of somebody else.  The log has the reports that are told of, each with
its reporter. -/
inductive Step : Newsroom → List (Nat × State) → Newsroom → Prop where
  | take {r : Newsroom} {i : Nat} {s : State} {rest : List State} (free : r.turn = none)
    (stage : r.reporters i = ⟨.idle, s :: rest⟩) :
    Step r [] { r.move i .ready (s :: rest) with turn := some i }
  | publish {r : Newsroom} {i : Nat} {s : State} {rest : List State}
    (stage : r.reporters i = ⟨.ready, s :: rest⟩) :
    Step r [] { r.move i (.published r.lab.target.cell.state) (s :: rest) with
      lab := r.lab.publish s, applied := r.applied ++ [(i, s)] }
  | tell {r : Newsroom} {i : Nat} {before s : State} {rest : List State}
    (stage : r.reporters i = ⟨.published before, s :: rest⟩) :
    Step r [(i, s)] { r.move i .told (s :: rest) with lab := r.lab.tell (.state before s) }
  | free {r : Newsroom} {i : Nat} {s : State} {rest : List State}
    (stage : r.reporters i = ⟨.told, s :: rest⟩) :
    Step r [] { r.move i .idle rest with turn := none }
  /-- a request of some caller is let through -/
  | pass {r : Newsroom} {request : Request} {device : Device}
    (slot : r.lab.target.slots request.action.capability = some device)
    (state : r.lab.target.cell.state = request.action.required) :
    Step r [] { r with lab := r.lab.setCell (request.action.mark r.lab.target.cell) }
  /-- somebody attaches, releases or serves, which may be told of and leaves the pair alone -/
  | aside {r : Newsroom} {lab : Lab} {changes : List Change} (told : r.lab.Told changes lab)
    (cell : lab.target.cell = r.lab.target.cell) (other : ∀ c ∈ changes, c.kind ≠ .state) :
    Step r [] { r with lab }

/-- A reporter that moves while all others are idle is the only one that may be at work. -/
theorem eq_of_move {r : Newsroom} {i : Nat} {phase : Phase} {todo : List State}
    (hothers : ∀ j, j ≠ i → (r.reporters j).phase = .idle) {j : Nat}
    (hj : ((r.move i phase todo).reporters j).phase ≠ .idle) : j = i := by
  have hput : (Family.put r.reporters i ⟨phase, todo⟩ j).phase ≠ .idle := hj
  rw [Family.put_apply] at hput
  split at hput
  · next hji => exact hji
  · next hji => exact absurd (hothers j hji) hput

theorem published_move {r : Newsroom} {i : Nat} {phase : Phase} {todo : List State}
    (hothers : ∀ j, j ≠ i → (r.reporters j).phase = .idle) {j : Nat} {before : State}
    (hj : ((r.move i phase todo).reporters j).phase = .published before) :
    j = i ∧ phase = .published before := by
  have hji : j = i := eq_of_move hothers (by rw [hj]; nofun)
  have hput : (Family.put r.reporters i ⟨phase, todo⟩ j).phase = .published before := hj
  rw [hji, Family.put_same] at hput
  exact ⟨hji, hput⟩

end Newsroom

/-! ## The invariant -/

/-- The reports of one reporter among those that have been told of. -/
def ownReports (i : Nat) (order : List (Nat × State)) : List State :=
  (order.filter fun e => e.1 = i).map Prod.snd

theorem ownReports_concat (i j : Nat) (order : List (Nat × State)) (s : State) :
    ownReports j (order ++ [(i, s)]) = ownReports j order ++ if i = j then [s] else [] := by
  rw [ownReports, List.filter_append, List.map_append]
  by_cases h : i = j
  · have hkept : [(i, s)].filter (fun e => e.1 = j) = [(i, s)] :=
      List.filter_cons_of_pos (decide_eq_true h)
    rw [hkept, if_pos h]
    rfl
  · have hdropped : [(i, s)].filter (fun e => e.1 = j) = [] :=
      List.filter_cons_of_neg (by simpa using h)
    rw [hdropped, if_neg h]
    rfl

def lastReported (start : State) (order : List (Nat × State)) : State :=
  (order.map Prod.snd).getLast?.getD start

theorem lastReported_concat (start : State) (order : List (Nat × State)) (i : Nat) (s : State) :
    lastReported start (order ++ [(i, s)]) = s := by
  rw [lastReported, List.map_append, List.map_singleton, List.getLast?_concat]
  rfl

/-- How the reporters, the pair and the sinks stand to one another when some reports have been told
of. -/
structure Ordered (lab : Lab) (scripts : Nat → List State) (order : List (Nat × State))
    (r : Newsroom) : Prop where
  turn : ∀ i, (r.reporters i).phase ≠ .idle → r.turn = some i
  state : r.lab.target.cell.state = lastReported lab.target.cell.state r.applied
  agrees : (∀ i before, (r.reporters i).phase ≠ .published before) → r.applied = order
  /-- a reporter that has published and not told has read the state that was told last -/
  published : ∀ i before, (r.reporters i).phase = .published before →
    before = lastReported lab.target.cell.state order ∧
      ∃ s, (r.reporters i).todo.head? = some s ∧ r.applied = order ++ [(i, s)]
  told : ∃ changes, Lab.Told lab changes r.lab ∧
    changes.filterMap Change.passage? =
      lab.target.cell.state.passages (order.map Prod.snd)
  merged : ∀ i, ownReports i order ++ (r.reporters i).untold = scripts i

namespace Ordered

variable {lab : Lab} {scripts : Nat → List State} {order : List (Nat × State)} {r : Newsroom}

theorem opened (lab : Lab) (scripts : Nat → List State) :
    Ordered lab scripts [] (.opened lab scripts) where
  turn := fun _ h => absurd rfl h
  state := rfl
  agrees := fun _ => rfl
  published := fun _ _ h => by cases h
  told := ⟨[], .refl lab, rfl⟩
  merged := fun _ => rfl

theorem idle (h : Ordered lab scripts order r) (free : r.turn = none) (i : Nat) :
    (r.reporters i).phase = .idle := by
  refine Decidable.byContradiction fun hi => ?_
  have hturn := h.turn i hi
  rw [free] at hturn
  cases hturn

/-- A reporter that is not idle has the lock, so all others are. -/
theorem alone (h : Ordered lab scripts order r) {i : Nat} {phase : Phase} {todo : List State}
    (stage : r.reporters i = ⟨phase, todo⟩) (hphase : phase ≠ .idle) :
    r.turn = some i ∧ ∀ j, j ≠ i → (r.reporters j).phase = .idle := by
  have hturn : r.turn = some i := h.turn i (by rw [stage]; exact hphase)
  refine ⟨hturn, fun j hne => Decidable.byContradiction fun hj => ?_⟩
  have hsame : some i = some j := hturn.symm.trans (h.turn j hj)
  exact hne (Option.some.inj hsame).symm

/-- Where the reporter with the lock has not published, or has told, everything published is told. -/
theorem agrees_of_stage (h : Ordered lab scripts order r) {i : Nat} {phase : Phase}
    {todo : List State} (stage : r.reporters i = ⟨phase, todo⟩)
    (hothers : ∀ j, j ≠ i → (r.reporters j).phase = .idle)
    (hphase : ∀ before, phase ≠ .published before) : r.applied = order := by
  refine h.agrees fun j before hj => ?_
  by_cases hji : j = i
  · rw [hji, stage] at hj
    exact hphase before hj
  · rw [hothers j hji] at hj
    cases hj

/-- A reporter that moves on with nothing new told keeps to its script. -/
theorem merged_move (h : Ordered lab scripts order r) {i : Nat} {phase : Phase}
    {todo : List State} (hsame : Reporter.untold ⟨phase, todo⟩ = (r.reporters i).untold) (j : Nat) :
    ownReports j order ++ ((r.move i phase todo).reporters j).untold = scripts j := by
  have hput : ((r.move i phase todo).reporters j).untold = (r.reporters j).untold :=
    Family.put_keeps Reporter.untold hsame j
  rw [hput]
  exact h.merged j

/-! ### Steps -/

theorem take (h : Ordered lab scripts order r) {i : Nat} {s : State} {rest : List State}
    (free : r.turn = none) (stage : r.reporters i = ⟨.idle, s :: rest⟩) :
    Ordered lab scripts order { r.move i .ready (s :: rest) with turn := some i } := by
  have hothers : ∀ j, j ≠ i → (r.reporters j).phase = .idle := fun j _ => h.idle free j
  -- nobody was at work, so nothing is published that is not told
  refine
    { turn := fun j hj => congrArg some (Newsroom.eq_of_move hothers hj).symm
      state := h.state
      agrees := fun _ => h.agrees_of_stage stage hothers nofun
      published := fun j before hj => ?_
      told := h.told
      merged := h.merged_move (by rw [stage]; rfl) }
  cases (Newsroom.published_move hothers hj).2

theorem publish (h : Ordered lab scripts order r) {i : Nat} {s : State} {rest : List State}
    (stage : r.reporters i = ⟨.ready, s :: rest⟩) :
    Ordered lab scripts order { r.move i (.published r.lab.target.cell.state) (s :: rest) with
      lab := r.lab.publish s, applied := r.applied ++ [(i, s)] } := by
  obtain ⟨hturn, hothers⟩ := h.alone stage nofun
  have happlied : r.applied = order := h.agrees_of_stage stage hothers nofun
  have hlast := h.state
  rw [happlied] at hlast
  refine
    { turn := fun j hj => hturn.trans (congrArg some (Newsroom.eq_of_move hothers hj).symm)
      state := (lastReported_concat ..).symm
      agrees := fun hnone => absurd ?_ (hnone i r.lab.target.cell.state)
      published := fun j before hj => ?_
      told := ?_
      merged := h.merged_move (by rw [stage]; rfl) }
  · exact congrArg Reporter.phase (Family.put_same ..)
  · obtain ⟨rfl, hphase⟩ := Newsroom.published_move hothers hj
    cases hphase
    refine ⟨hlast, s, ?_, congrArg (· ++ [(j, s)]) happlied⟩
    exact congrArg (List.head? ∘ Reporter.todo) (Family.put_same ..)
  · obtain ⟨changes, htold, hpassages⟩ := h.told
    exact ⟨changes, htold.quiet (.setCell ..), hpassages⟩

theorem tell (h : Ordered lab scripts order r) {i : Nat} {before s : State} {rest : List State}
    (stage : r.reporters i = ⟨.published before, s :: rest⟩) :
    Ordered lab scripts (order ++ [(i, s)])
      { r.move i .told (s :: rest) with lab := r.lab.tell (.state before s) } := by
  obtain ⟨hturn, hothers⟩ := h.alone stage nofun
  obtain ⟨hbefore, s', hs, happlied⟩ := h.published i before (by rw [stage])
  rw [stage] at hs
  cases hs
  refine
    { turn := fun j hj => hturn.trans (congrArg some (Newsroom.eq_of_move hothers hj).symm)
      state := h.state
      agrees := fun _ => happlied
      published := fun j before' hj => ?_
      told := ?_
      merged := fun j => ?_ }
  · cases (Newsroom.published_move hothers hj).2
  · obtain ⟨changes, htold, hpassages⟩ := h.told
    have htell : r.lab.Told [.state before s] (r.lab.tell (.state before s)) := .tell ..
    refine ⟨changes ++ [.state before s], htold.trans htell, ?_⟩
    rw [List.filterMap_append, hpassages, List.map_append, List.map_singleton,
      State.passages_concat, hbefore]
    rfl
  · show ownReports j (order ++ [(i, s)]) ++ (Family.put r.reporters i ⟨.told, s :: rest⟩ j).untold =
      scripts j
    -- the report joins what its reporter has told of, and leaves what it has still to tell of
    rw [ownReports_concat, ← h.merged j, Family.put_apply]
    by_cases hji : j = i
    · rw [if_pos hji, if_pos hji.symm, hji, stage, List.append_assoc]
      rfl
    · rw [if_neg hji, if_neg (Ne.symm hji), List.append_nil]

theorem free (h : Ordered lab scripts order r) {i : Nat} {s : State} {rest : List State}
    (stage : r.reporters i = ⟨.told, s :: rest⟩) :
    Ordered lab scripts order { r.move i .idle rest with turn := none } := by
  have hothers := (h.alone stage nofun).2
  refine
    { turn := fun j hj => ?_
      state := h.state
      agrees := fun _ => h.agrees_of_stage stage hothers nofun
      published := fun j before hj => ?_
      told := h.told
      merged := h.merged_move (by rw [stage]; rfl) }
  · have hji : j = i := Newsroom.eq_of_move hothers hj
    rw [hji] at hj
    exact absurd (congrArg Reporter.phase (Family.put_same ..)) hj
  · cases (Newsroom.published_move hothers hj).2

/-- Whoever neither reports nor changes the state leaves the order of the reports as it is. -/
theorem aside (h : Ordered lab scripts order r) {lab' : Lab} {changes : List Change}
    (told : r.lab.Told changes lab') (state : lab'.target.cell.state = r.lab.target.cell.state)
    (other : ∀ c ∈ changes, c.kind ≠ .state) :
    Ordered lab scripts order { r with lab := lab' } := by
  refine
    { turn := h.turn
      state := state.trans h.state
      agrees := h.agrees
      published := h.published
      told := ?_
      merged := h.merged }
  obtain ⟨earlier, htold, hpassages⟩ := h.told
  refine ⟨earlier ++ changes, htold.trans told, ?_⟩
  have hnone : changes.filterMap Change.passage? = [] :=
    List.filterMap_eq_nil_iff.mpr fun c hc => Change.passage?_of_kind (other c hc)
  rw [List.filterMap_append, hnone, List.append_nil, hpassages]

theorem step {log : List (Nat × State)} {r' : Newsroom} (hstep : Newsroom.Step r log r')
    (h : Ordered lab scripts order r) : Ordered lab scripts (order ++ log) r' := by
  cases hstep with
  | tell stage => exact h.tell stage
  | take free stage =>
    rw [List.append_nil]
    exact h.take free stage
  | publish stage =>
    rw [List.append_nil]
    exact h.publish stage
  | free stage =>
    rw [List.append_nil]
    exact h.free stage
  | pass slot state =>
    rw [List.append_nil]
    exact h.aside (.setCell ..) (Action.mark_state ..) nofun
  | aside told cell other =>
    rw [List.append_nil]
    exact h.aside told (congrArg Cell.state cell) other

theorem of_walk (h : Walk Newsroom.Step (.opened lab scripts) order r) :
    Ordered lab scripts order r :=
  h.keeps_log step (opened lab scripts)

end Ordered

/-! ## Reports are heard of in order -/

/-- Some events that begin in a state and tell of some reports, one event for each. -/
structure Tells (start : State) (reports : List State) (events : List Event) : Prop where
  each : (Event.transitions events).map Prod.snd = reports
  first : ∀ p, (Event.transitions events).head? = some p → p.1 = start
  chained : Event.chained (Event.transitions events) = true

theorem tells_of_transitions {start : State} {reports : List State} {events : List Event}
    (h : Event.transitions events = start.passages reports) : Tells start reports events := by
  refine ⟨?_, fun p hp => ?_, ?_⟩
  · rw [h, State.map_snd_passages]
  · rw [h] at hp
    cases reports with
    | nil => cases hp
    | cons s rest =>
      cases hp
      rfl
  · rw [h, State.chained_passages]

/-- What the sinks have heard when some reports have been told of, in the order in which this was
done. -/
structure InOrder (lab : Lab) (scripts : Nat → List State) (order : List (Nat × State))
    (r : Newsroom) : Prop where
  /-- whatever the sinks are, they have been told of these changes of state and of no others -/
  told : ∃ changes, lab.Told changes r.lab ∧
    changes.filterMap Change.passage? = lab.target.cell.state.passages (order.map Prod.snd)
  /-- so a recorder among them has received one event for each report -/
  received : ∀ n, lab.sinks.count (.recorder n) = 1 → ∃ events,
    r.lab.outlets.records n = lab.outlets.records n ++ events ∧
      Tells lab.target.cell.state (order.map Prod.snd) events
  /-- the state is that of the report applied last -/
  current : r.lab.target.cell.state = lastReported lab.target.cell.state r.applied
  /-- the reports were applied in this order, and of one at most the sinks have not been told -/
  applied : r.applied = order ∨ ∃ i before s, (r.reporters i).phase = .published before ∧
    (r.reporters i).todo.head? = some s ∧ r.applied = order ++ [(i, s)]
  /-- the order is a merge of the reports of each, in its own order -/
  merged : ∀ i, ownReports i order ++ (r.reporters i).untold = scripts i
  /-- once no report is in progress, what was told last is the state -/
  finished : (∀ i, (r.reporters i).phase = .idle) →
    r.lab.target.cell.state = lastReported lab.target.cell.state order ∧
      ∀ i, ownReports i order ++ (r.reporters i).todo = scripts i

theorem Ordered.inOrder {lab : Lab} {scripts : Nat → List State} {order : List (Nat × State)}
    {r : Newsroom} (h : Ordered lab scripts order r) : InOrder lab scripts order r := by
  refine
    { told := h.told
      received := fun n hn => ?_
      current := h.state
      applied := ?_
      merged := h.merged
      finished := fun hidle => ⟨?_, fun i => ?_⟩ }
  · obtain ⟨changes, htold, hpassages⟩ := h.told
    refine ⟨_, htold.records hn, tells_of_transitions ?_⟩
    rw [Event.transitions_map, hpassages]
  · by_cases hpublished : ∃ i before, (r.reporters i).phase = .published before
    · obtain ⟨i, before, hphase⟩ := hpublished
      obtain ⟨-, s, hs, happlied⟩ := h.published i before hphase
      exact .inr ⟨i, before, s, hphase, hs, happlied⟩
    · exact .inl (h.agrees fun i before hphase => hpublished ⟨i, before, hphase⟩)
  · have happlied : r.applied = order := h.agrees fun i before => by rw [hidle i]; nofun
    rw [h.state, happlied]
  · have huntold : (r.reporters i).untold = (r.reporters i).todo := by
      rw [Reporter.untold, hidle i]
    rw [← huntold]
    exact h.merged i

/-- After every schedule of the reporters and of all others. -/
theorem reports_in_order {lab : Lab} {scripts : Nat → List State} {order : List (Nat × State)}
    {r : Newsroom} (h : Walk Newsroom.Step (.opened lab scripts) order r) :
    InOrder lab scripts order r :=
  (Ordered.of_walk h).inOrder

/-- A reporter that nobody disturbs does what the lab does with a report. -/
theorem Newsroom.walk_report {r : Newsroom} {i : Nat} {s : State} {rest : List State}
    (free : r.turn = none) (stage : r.reporters i = ⟨.idle, s :: rest⟩) :
    Walk Newsroom.Step r [(i, s)]
      { r.move i .idle rest with
        lab := r.lab.report s, turn := none, applied := r.applied ++ [(i, s)] } := by
  have hwalk := Walk.trans (.one (Step.take free stage))
    (Walk.trans (.one (Step.publish (Family.put_same ..)))
      (Walk.trans (.one (Step.tell (Family.put_same ..)))
        (.one (Step.free (Family.put_same ..)))))
  simp only [move, Family.put_put] at hwalk
  exact hwalk

def Lab.heard : Lab := halted.addSink (.recorder 0)

def Newsroom.duet : Nat → List State
  | 0 => [.running]
  | 1 => [.stopped]
  | _ => []

/-- A request to halt is let through while the first report is published and not told. -/
theorem reports_in_order_duet : ∃ r,
    Walk Newsroom.Step (.opened .heard Newsroom.duet) [(0, .running), (1, .stopped)] r ∧
      Event.transitions (r.lab.outlets.records 0) = [(.stopped, .running), (.running, .stopped)] ∧
      InOrder .heard Newsroom.duet [(0, .running), (1, .stopped)] r := by
  have htake := Walk.one (Newsroom.Step.take (r := .opened .heard Newsroom.duet) (i := 0) rfl rfl)
  have hpublish := htake.trans (.one (Newsroom.Step.publish (i := 0) rfl))
  have hpass := hpublish.trans
    (.one (@Newsroom.Step.pass _ (.processor .stop) (.processor, 0) rfl rfl))
  have htell := hpass.trans (.one (Newsroom.Step.tell (i := 0) rfl))
  have hfree := htell.trans (.one (Newsroom.Step.free (i := 0) rfl))
  have hwalk := hfree.trans (Newsroom.walk_report (i := 1) rfl rfl)
  exact ⟨_, hwalk, rfl, reports_in_order hwalk⟩

end TargetControl
