import TargetControl.Proofs.Interleaving

/-!
Queued reports and the courier that delivers them.

A courier takes the oldest report from the queue of a processor into its hand, and only later
applies it to the target.  Between the two, and between letting a request through and handing it to
the processor, others may take steps.  `Relay.Step` has them all for one processor, and a log of what
bears on the pair or on the queue.

`wait_answered` says what a wait after a request owes its answer to.  It is a stop applied after the
request, never one applied before.  Whatever was on its way when the request was let through is
delivered first, and what follows it was generated since.  A stop that was on its way is applied
after the request like any other, and answers the wait: `stale_stop_releases`.
-/

namespace TargetControl

/-! ## The log -/

/-- What bears on the pair of a target, or on the queue of a processor. -/
inductive Entry where
  | passed (action : Action)
  /-- the processor puts a report into its queue -/
  | queued (s : State)
  /-- the courier applies the report in its hand -/
  | delivered (s : State)
  /-- somebody else reports -/
  | reported (s : State)
deriving DecidableEq, Repr

namespace Entry

def mark? : Entry → Option Mark
  | .passed action => if action.unsettles then some .request else none
  | .queued _ => none
  | .delivered s | .reported s => some (.report s)

def queued? : Entry → Option State
  | .queued s => some s
  | .passed _ | .delivered _ | .reported _ => none

def delivered? : Entry → Option State
  | .delivered s => some s
  | .passed _ | .queued _ | .reported _ => none

/-- What is on its way after an entry.  Only the oldest report can be delivered. -/
def carry (pending : List State) : Entry → Option (List State)
  | .passed _ | .reported _ => some pending
  | .queued s => some (pending ++ [s])
  | .delivered s =>
    match pending with
    | [] => none
    | oldest :: rest => if oldest = s then some rest else none

theorem carry_balance {pending left : List State} {e : Entry} (h : e.carry pending = some left) :
    pending ++ e.queued?.toList = e.delivered?.toList ++ left := by
  cases e with
  | passed action | reported s =>
    cases h
    exact List.append_nil _
  | queued s =>
    cases h
    rfl
  | delivered s =>
    cases pending with
    | nil => cases h
    | cons oldest rest =>
      have hif : (if oldest = s then some rest else none) = some left := h
      split at hif
      · next hs =>
        cases hif
        rw [hs]
        exact List.append_nil _
      · cases hif

theorem mark?_eq_stopped {e : Entry} :
    e.mark? = some (.report .stopped) ↔ e = .delivered .stopped ∨ e = .reported .stopped := by
  cases e with
  | passed action =>
    rw [mark?]
    cases action.unsettles <;> simp
  | queued s | delivered s | reported s => simp [mark?]

end Entry

def queuedIn (log : List Entry) : List State := log.filterMap Entry.queued?

def deliveredIn (log : List Entry) : List State := log.filterMap Entry.delivered?

theorem queuedIn_cons (e : Entry) (log : List Entry) :
    queuedIn (e :: log) = e.queued?.toList ++ queuedIn log := by
  cases e <;> rfl

theorem deliveredIn_cons (e : Entry) (log : List Entry) :
    deliveredIn (e :: log) = e.delivered?.toList ++ deliveredIn log := by
  cases e <;> rfl

/-- What is on its way after a log, if the deliveries in it are in order. -/
def carried (pending : List State) (log : List Entry) : Option (List State) :=
  log.foldlM Entry.carry pending

theorem carried_append (pending : List State) (first second : List Entry) :
    carried pending (first ++ second) = (carried pending first).bind (carried · second) :=
  List.foldlM_append

theorem carried_queued (pending states : List State) :
    carried pending (states.map .queued) = some (pending ++ states) := by
  induction states generalizing pending with
  | nil => rw [List.append_nil]; rfl
  | cons s rest ih =>
    show carried (pending ++ [s]) (rest.map .queued) = _
    rw [ih, List.append_assoc]
    rfl

theorem carried_reported (pending states : List State) :
    carried pending (states.map .reported) = some pending := by
  induction states with
  | nil => rfl
  | cons s rest ih => exact ih

/-- What was on its way and then what went into the queue is what has been delivered and then what
is left. -/
theorem carried_balance {pending left : List State} {log : List Entry}
    (h : carried pending log = some left) :
    pending ++ queuedIn log = deliveredIn log ++ left := by
  -- each entry changes what is on its way for the rest of the log, so this varies in the induction
  induction log generalizing pending with
  | nil =>
    cases h
    exact List.append_nil _
  | cons e rest ih =>
    obtain ⟨next, hnext, hrest⟩ := Option.bind_eq_some_iff.mp h
    have hfirst := Entry.carry_balance hnext
    have hlater := ih hrest
    rw [queuedIn_cons, deliveredIn_cons, ← List.append_assoc, hfirst, List.append_assoc, hlater,
      List.append_assoc]

/-- The report of a delivery is the one whose turn it is. -/
theorem carried_delivered {pending left : List State} {before after : List Entry} {s : State}
    (h : carried pending (before ++ .delivered s :: after) = some left) :
    (pending ++ queuedIn before)[(deliveredIn before).length]? = some s := by
  rw [carried_append] at h
  obtain ⟨next, hbefore, hrest⟩ := Option.bind_eq_some_iff.mp h
  obtain ⟨later, hcarry, -⟩ := Option.bind_eq_some_iff.mp hrest
  have hnext : next ++ [] = [s] ++ later := Entry.carry_balance hcarry
  rw [List.append_nil] at hnext
  rw [carried_balance hbefore, hnext, List.getElem?_append_right (Nat.le_refl _), Nat.sub_self]
  rfl

/-! ## Steps -/

namespace Processor

/-- The reports that a processor puts into its queue. -/
def enqueued (p : Processor) (states : List State) : List State :=
  match p.delivery with
  | .direct => []
  | .queued => if p.isOpen then states else []

/-- The reports that are taken before the processor answers. -/
def immediate (p : Processor) (states : List State) : List State :=
  match p.delivery with
  | .direct => states
  | .queued => []

def entries (p : Processor) (states : List State) : List Entry :=
  (p.immediate states).map .reported ++ (p.enqueued states).map .queued

/-- What a request makes a processor report. -/
def yields (p : Processor) (request : Request) : List State :=
  match (p.serve request).outcome with
  | .ok _ => request.states
  | .error _ => []

theorem report_eq (p : Processor) (states : List State) :
    (p.report states).1.queue = p.queue ++ p.enqueued states ∧
      (p.report states).2 = p.immediate states := by
  cases hd : p.delivery with
  | direct =>
    rw [report_direct hd, enqueued, immediate, hd]
    exact ⟨(List.append_nil _).symm, rfl⟩
  | queued =>
    cases ho : p.isOpen with
    | true =>
      rw [report_queued hd ho, enqueued, immediate, hd, ho]
      exact ⟨rfl, rfl⟩
    | false =>
      rw [report_closed hd ho, enqueued, immediate, hd, ho]
      exact ⟨(List.append_nil _).symm, rfl⟩

theorem carried_entries (p : Processor) (hand states : List State) :
    carried (hand ++ p.queue) (p.entries states) = some (hand ++ (p.report states).1.queue) := by
  rw [entries, carried_append, carried_reported, (p.report_eq states).1, ← List.append_assoc]
  exact carried_queued ..

theorem follow_entries (p : Processor) (states : List State) (cell : Cell) :
    cell.follow ((p.entries states).filterMap Entry.mark?) =
      cell.publishAll (p.report states).2 := by
  have hreported : ((p.immediate states).map Entry.reported).filterMap Entry.mark? =
      (p.immediate states).map .report := by
    rw [List.filterMap_map]
    exact congrFun List.filterMap_eq_map _
  have hqueued : ((p.enqueued states).map Entry.queued).filterMap Entry.mark? = [] := by
    rw [List.filterMap_map]
    exact List.filterMap_eq_nil_iff.mpr fun _ _ => rfl
  rw [entries, List.filterMap_append, hreported, hqueued, List.append_nil, (p.report_eq states).2]
  exact List.foldl_map

theorem report_nil (p : Processor) :
    (p.report []).1.queue = p.queue ∧ (p.report []).2 = [] := by
  have hnil : p.enqueued [] = [] ∧ p.immediate [] = [] := by
    rw [enqueued, immediate]
    cases p.delivery with
    | direct => exact ⟨rfl, rfl⟩
    | queued => exact ⟨ite_self _, rfl⟩
  rw [(p.report_eq []).1, (p.report_eq []).2, hnil.1, hnil.2]
  exact ⟨List.append_nil _, rfl⟩

/-- What becomes of reports depends on the delivery and the queue of a processor alone. -/
theorem report_congr {p q : Processor} (delivery : q.delivery = p.delivery)
    (isOpen : q.isOpen = p.isOpen) (queue : q.queue = p.queue) (states : List State) :
    (q.report states).1.queue = (p.report states).1.queue ∧
      (q.report states).2 = (p.report states).2 := by
  rw [(q.report_eq states).1, (q.report_eq states).2, (p.report_eq states).1,
    (p.report_eq states).2, enqueued, enqueued, immediate, immediate, delivery, isOpen, queue]
  exact ⟨rfl, rfl⟩

theorem serve_taken {p : Processor} {request : Request} (fit : request.objection? = none)
    (unarmed : p.armed = none) :
    p.serve request =
      let q := { p with calls := p.calls ++ [request] }.carryOut request
      ⟨(q.1.report request.states).1, .ok q.2, (q.1.report request.states).2⟩ := by
  simp only [serve, fit, unarmed]

/-- Serving a request makes a processor report what the request yields. -/
theorem serve_report (p : Processor) (request : Request) :
    (p.serve request).processor.queue = (p.report (p.yields request)).1.queue ∧
      (p.serve request).states = (p.report (p.yields request)).2 := by
  have hnil := p.report_nil
  cases hfit : request.objection? with
  | some fault =>
    rw [yields, serve, hfit]
    exact ⟨hnil.1.symm, hnil.2.symm⟩
  | none =>
    cases harmed : p.armed with
    | some fault =>
      rw [yields, serve, hfit, harmed]
      exact ⟨hnil.1.symm, hnil.2.symm⟩
    | none =>
      rw [yields, serve_taken hfit harmed]
      refine report_congr ?_ ?_ ?_ request.states
      all_goals cases request <;> rfl

theorem queue_of_next? {p q : Processor} {s : State} (h : p.next? = some (s, q)) :
    p.queue = s :: q.queue := by
  rw [next?] at h
  cases hq : p.queue with
  | nil =>
    rw [hq] at h
    cases h
  | cons first rest =>
    rw [hq] at h
    cases h
    rfl

end Processor

/-- A lab, and what the courier of one processor has in its hand. -/
structure Relay where
  lab : Lab
  hand : Option State

namespace Relay

def processor (r : Relay) (n : Nat) : Processor := r.lab.bench.processors n

/-- What is on its way from a processor to the target. -/
def undelivered (r : Relay) (n : Nat) : List State := r.hand.toList ++ (r.processor n).queue

/-- One step of a caller, of a processor, of its courier, or of somebody else. -/
inductive Step (n : Nat) : Relay → List Entry → Relay → Prop where
  | pass {r : Relay} {request : Request} {device : Device}
    (slot : r.lab.target.slots request.action.capability = some device)
    (state : r.lab.target.cell.state = request.action.required) :
    Step n r [.passed request.action]
      { r with lab := r.lab.setCell (request.action.mark r.lab.target.cell) }
  /-- the processor serves a request, whoever makes it -/
  | serve {r : Relay} (request : Processor.Request) :
    Step n r ((r.processor n).entries ((r.processor n).yields request))
      { r with lab := (r.lab.serve (.processor, n) (.processor request)).1 }
  /-- the processor reports of its own accord -/
  | signal {r : Relay} (states : List State) :
    Step n r ((r.processor n).entries states) { r with lab := r.lab.signal n states }
  | receive {r : Relay} {s : State} {p : Processor} (free : r.hand = none)
    (next : (r.processor n).next? = some (s, p)) :
    Step n r [] { lab := r.lab.setProcessor n p, hand := some s }
  | deliver {r : Relay} {s : State} (held : r.hand = some s) :
    Step n r [.delivered s] { lab := r.lab.report s, hand := none }
  | report {r : Relay} (s : State) : Step n r [.reported s] { r with lab := r.lab.report s }
  /-- somebody attaches, releases, closes the queue or does something else that leaves the pair and
  the reports in the queue alone -/
  | aside {r : Relay} {lab : Lab} (cell : lab.target.cell = r.lab.target.cell)
    (queue : (lab.bench.processors n).queue = (r.processor n).queue) : Step n r [] { r with lab }

/-- The pair after a step is the one that the log of the step makes of the pair before it. -/
theorem cell_of_step {n : Nat} {a b : Relay} {log : List Entry} (h : Step n a log b) :
    b.lab.target.cell = a.lab.target.cell.follow (log.filterMap Entry.mark?) := by
  cases h with
  | @pass request device slot state =>
    have hmarks : [Entry.passed request.action].filterMap Entry.mark? = request.action.marks := by
      rw [List.filterMap_cons, Entry.mark?, Action.marks]
      cases request.action.unsettles <;> rfl
    rw [hmarks, Cell.follow_marks]
    rfl
  | serve request =>
    rw [Processor.follow_entries, ← (Processor.serve_report _ request).2]
    exact congrArg Target.cell (Lab.serve_target ..)
  | signal states =>
    rw [Processor.follow_entries]
    exact congrArg Target.cell (Lab.reportAll_target ..)
  | receive | deliver | report => rfl
  | aside cell queue => exact cell

/-- Every step puts reports into the queue, or applies the oldest of those on their way. -/
theorem carried_of_step {n : Nat} {a b : Relay} {log : List Entry} (h : Step n a log b) :
    carried (a.undelivered n) log = some (b.undelivered n) := by
  cases h with
  | pass | report => rfl
  | serve request =>
    have hafter : (a.lab.serve (.processor, n) (.processor request)).1.bench.processors n =
        ((a.processor n).serve request).processor := by
      rw [Lab.serve_bench]
      exact Family.put_same ..
    rw [undelivered, Processor.carried_entries, ← (Processor.serve_report _ request).1, ← hafter]
    rfl
  | signal states =>
    have hafter : (a.lab.signal n states).bench.processors n =
        ((a.processor n).report states).1 := by
      rw [Lab.signal, Lab.reportAll_bench]
      exact Family.put_same ..
    rw [undelivered, Processor.carried_entries, ← hafter]
    rfl
  | @receive s p free next =>
    have hqueue : (a.processor n).queue = s :: p.queue := Processor.queue_of_next? next
    have hafter : (a.lab.setProcessor n p).bench.processors n = p := Family.put_same ..
    rw [undelivered, free, hqueue, undelivered, processor, hafter]
    rfl
  | @deliver s held =>
    rw [undelivered, held]
    -- what the courier has in its hand is the oldest
    show (if s = s then some (a.processor n).queue else none).bind some = _
    rw [if_pos rfl]
    rfl
  | aside cell queue =>
    rw [undelivered, ← queue]
    rfl

theorem cell_of_walk {n : Nat} {a b : Relay} {log : List Entry} (h : Walk (Step n) a log b) :
    b.lab.target.cell = a.lab.target.cell.follow (log.filterMap Entry.mark?) :=
  h.follows (c := fun r => r.lab.target.cell) cell_of_step

theorem carried_of_walk {n : Nat} {a b : Relay} {log : List Entry} (h : Walk (Step n) a log b) :
    carried (a.undelivered n) log = some (b.undelivered n) := by
  have hstart : carried (a.undelivered n) [] = some (a.undelivered n) := rfl
  refine h.keeps_log (I := fun log r => carried (a.undelivered n) log = some (r.undelivered n))
    (fun hstep hbefore => ?_) hstart
  rw [carried_append, hbefore]
  exact carried_of_step hstep

theorem walk_act {n : Nat} {r : Relay} (request : Processor.Request)
    (slot : r.lab.target.slots (Request.processor request).action.capability =
      some (.processor, n))
    (state : r.lab.target.cell.state = (Request.processor request).action.required) :
    Walk (Step n) r (.passed (Request.processor request).action ::
        (r.processor n).entries ((r.processor n).yields request))
      { r with lab := (r.lab.act (.processor request)).1 } := by
  rw [Lab.act_of_passes slot state]
  exact (Walk.one (Step.pass slot state)).trans (.one (.serve request))

theorem walk_deliver {n : Nat} {lab : Lab} {s : State} {p : Processor}
    (next : (lab.bench.processors n).next? = some (s, p)) :
    Walk (Step n) ⟨lab, none⟩ [.delivered s] ⟨lab.deliver n, none⟩ := by
  have hnext : (processor ⟨lab, none⟩ n).next? = some (s, p) := next
  rw [Lab.deliver, next]
  exact (Walk.one (Step.receive rfl hnext)).trans (.one (.deliver rfl))

end Relay

/-! ## What answers a wait -/

/-- What a wait at the end of a log owes its answer to, if the log begins with a request that is let
through. -/
structure Answered (n : Nat) (a : Relay) (log : List Entry) (b : Relay) : Prop where
  /-- the wait is over with a stop if such a report is the last thing that bears on the pair since
  the request -/
  stopped : b.lab.wait? = some (.ok ()) ↔
    ∃ before e after, log = before ++ e :: after ∧
      (e = .delivered .stopped ∨ e = .reported .stopped) ∧ ∀ x ∈ after, x.mark? = none
  /-- reports are delivered in order, those on their way at the request first -/
  delivered : ∀ before s after, log = before ++ .delivered s :: after →
    (a.undelivered n ++ queuedIn before)[(deliveredIn before).length]? = some s
  /-- and once these are delivered, what is delivered was generated since the request -/
  fresh : ∀ before s after, log = before ++ .delivered s :: after →
    (a.undelivered n).length ≤ (deliveredIn before).length →
    (queuedIn before)[(deliveredIn before).length - (a.undelivered n).length]? = some s

/-- The last mark of a log, and where in the log it is. -/
theorem last_mark_iff {log : List Entry} {m : Mark} :
    (log.filterMap Entry.mark?).getLast? = some m ↔
      ∃ before e after, log = before ++ e :: after ∧ e.mark? = some m ∧
        ∀ x ∈ after, x.mark? = none := by
  rw [List.getLast?_filterMap, List.findSome?_eq_some_iff]
  constructor
  · rintro ⟨later, e, earlier, hlog, he, hnone⟩
    have hsplit := congrArg List.reverse hlog
    rw [List.reverse_reverse, List.reverse_append, List.reverse_cons, List.append_assoc] at hsplit
    exact ⟨earlier.reverse, e, later.reverse, hsplit, he,
      fun x hx => hnone x (List.mem_reverse.mp hx)⟩
  · rintro ⟨before, e, after, rfl, he, hnone⟩
    refine ⟨after.reverse, e, before.reverse, ?_, he, fun x hx => hnone x (List.mem_reverse.mp hx)⟩
    rw [List.reverse_append, List.reverse_cons, List.append_assoc]
    rfl

theorem Lab.wait?_eq_ok {lab : Lab} :
    lab.wait? = some (.ok ()) ↔ lab.target.cell.release? = some .stopped := by
  rw [Lab.wait?]
  cases lab.target.cell.release? with
  | none =>
    constructor
    · intro h
      cases h
    · intro h
      cases h
  | some r => cases r <;> simp [released]

/-- After a request that unsettles the pair, only what bears on the pair since then releases. -/
theorem Cell.release?_since {cell : Cell} {marks : List Mark} :
    (cell.unsettle.follow marks).release? = some .stopped ↔
      marks.getLast? = some (.report .stopped) := by
  rw [Cell.release?_follow]
  cases marks.getLast? with
  | none => exact ⟨nofun, nofun⟩
  | some m =>
    cases m with
    | request => exact ⟨nofun, nofun⟩
    | report s =>
      show s.release? = some .stopped ↔ some (Mark.report s) = some (.report .stopped)
      cases s <;> decide

theorem wait_answered {n : Nat} {a b : Relay} {action : Action} {log : List Entry}
    (unsettles : action.unsettles = true)
    (h : Walk (Relay.Step n) a (.passed action :: log) b) : Answered n a log b := by
  have hdelivered : ∀ before s after, log = before ++ .delivered s :: after →
      (a.undelivered n ++ queuedIn before)[(deliveredIn before).length]? = some s := by
    intro before s after hlog
    have hcarried := Relay.carried_of_walk h
    rw [hlog] at hcarried
    exact carried_delivered hcarried
  refine
    { stopped := ?_
      delivered := hdelivered
      fresh := fun before s after hlog hlater => ?_ }
  · have hcell : b.lab.target.cell =
        a.lab.target.cell.unsettle.follow (log.filterMap Entry.mark?) := by
      have hmark : (Entry.passed action).mark? = some .request := if_pos unsettles
      rw [Relay.cell_of_walk h, List.filterMap_cons_some hmark]
      rfl
    rw [Lab.wait?_eq_ok, hcell, Cell.release?_since, last_mark_iff]
    simp only [Entry.mark?_eq_stopped]
  · rw [← List.getElem?_append_right hlater]
    exact hdelivered before s after hlog

/-- A stopped target whose processor has a queue. -/
def Lab.relayed : Lab :=
  bare.run [.attach ⟨.execution, "cpu", { Fittings.plain with delivery := .queued }⟩,
    .report .stopped]

/-- A step, of which both reports are generated after the request and delivered before the wait. -/
theorem wait_answered_step : ∃ b,
    Action.step.unsettles = true ∧
      Walk (Relay.Step 0) ⟨.relayed, none⟩ [.passed .step, .queued .running, .queued .stopped,
        .delivered .running, .delivered .stopped] b ∧
      Relay.undelivered ⟨.relayed, none⟩ 0 = [] ∧ b.lab.wait? = some (.ok ()) ∧
      Answered 0 ⟨.relayed, none⟩ [.queued .running, .queued .stopped, .delivered .running,
        .delivered .stopped] b := by
  have hact := Relay.walk_act (n := 0) (r := ⟨.relayed, none⟩) .step rfl rfl
  have hwalk := hact.trans ((Relay.walk_deliver rfl).trans (Relay.walk_deliver rfl))
  exact ⟨_, rfl, hwalk, rfl, rfl, wait_answered rfl hwalk⟩

/-- The processor has halted, and the report of it is in the queue, when the target is let run. -/
theorem stale_stop_releases : ∃ b,
    Relay.undelivered ⟨Lab.relayed.run [.signal 0 [.stopped]], none⟩ 0 = [.stopped] ∧
      Walk (Relay.Step 0) ⟨Lab.relayed.run [.signal 0 [.stopped]], none⟩
        [.passed .cont, .queued .running, .delivered .stopped] b ∧
      b.lab.wait? = some (.ok ()) := by
  have hact := Relay.walk_act (n := 0) (r := ⟨Lab.relayed.run [.signal 0 [.stopped]], none⟩)
    .cont rfl rfl
  have hwalk := hact.trans (Relay.walk_deliver rfl)
  exact ⟨_, rfl, hwalk, rfl⟩

end TargetControl
