import TargetControl.Proofs.Courier

/-!
What a queued processor generates is delivered once and in order.

Somebody does one thing after another with a processor.  A deed first does its work and has its
answer, and then sends its reports one by one.  The courier may take a step between any two of these,
and so may others who leave the processor alone; `Mailroom.Step` has them all.

Two invariants carry `delivered_in_order`.  `Accounted` is a balance of reports: those applied, the
one in hand, those in the queue and those still to be sent are, in this order, what the deeds
generate, up to the first shutdown.  `Worked` says that the answers and the work of a processor do
not depend on shutdowns at all.
-/

namespace TargetControl

/-! ## Deeds -/

namespace Processor

/-- What is done with a processor by itself. -/
inductive Deed where
  | request (request : Request)
  /-- it halts of its own accord -/
  | halt
  /-- what it controls exits -/
  | exit
  | arm (fault : BackendFault)
  | shutdown
deriving DecidableEq, Repr

namespace Deed

/-- The operation in a lab that a deed is. -/
def operation (n : Nat) : Deed → Operation
  | .request r => .serve n (.processor r)
  | .halt => .signal n [.stopped]
  | .exit => .signal n [.exited]
  | .arm fault => .arm n fault
  | .shutdown => .close .processor n

/-- The reports that a deed generates, if it has an answer. -/
def generates : Deed → Except BackendFault Reply → List State
  | .request .cont, .ok _ => [.running]
  | .request .stop, .ok _ => [.stopped]
  | .request .step, .ok _ => [.running, .stopped]
  | .halt, _ => [.stopped]
  | .exit, _ => [.exited]
  | _, _ => []

end Deed

/-- The processor when a deed has been done but for its reports, and the answer. -/
def undertake (p : Processor) : Deed → Processor × Except BackendFault Reply
  | .request r => ({ (p.serve r).processor with queue := p.queue }, (p.serve r).outcome)
  | .halt | .exit => (p, .ok .done)
  | .arm fault => (p.arm fault, .ok .done)
  | .shutdown => (p.shutdown, .ok .done)

/-- The reports that a deed then has to make. -/
def intends (p : Processor) : Deed → List State
  | .request r => p.yields r
  | .halt => [.stopped]
  | .exit => [.exited]
  | .arm _ | .shutdown => []

theorem intends_eq (p : Processor) (d : Deed) :
    p.intends d = d.generates (p.undertake d).2 := by
  cases d with
  | request r =>
    show p.yields r = Deed.generates (.request r) (p.serve r).outcome
    rw [yields]
    cases (p.serve r).outcome <;> cases r <;> rfl
  | _ => rfl

theorem report_fst (p : Processor) (states : List State) :
    (p.report states).1 = { p with queue := p.queue ++ p.enqueued states } := by
  obtain ⟨delivery, isOpen, queue, calls, inserted, nextId, armed, shutdowns⟩ := p
  cases delivery <;> cases isOpen <;> simp [report, enqueued]

theorem report_none (p : Processor) : (p.report []).1 = p := by
  obtain ⟨delivery, isOpen, queue, calls, inserted, nextId, armed, shutdowns⟩ := p
  cases delivery <;> cases isOpen <;> simp [report]

/-- It makes no difference whether reports are made together or one after another. -/
theorem report_report (p : Processor) (first second : List State) :
    ((p.report first).1.report second).1 = (p.report (first ++ second)).1 := by
  obtain ⟨delivery, isOpen, queue, calls, inserted, nextId, armed, shutdowns⟩ := p
  cases delivery <;> cases isOpen <;> simp [report]

theorem eq_of_next? {p q : Processor} {s : State} (h : p.next? = some (s, q)) :
    q = { p with queue := q.queue } := by
  rw [next?] at h
  cases hq : p.queue with
  | nil =>
    rw [hq] at h
    cases h
  | cons first rest =>
    rw [hq] at h
    cases h
    rfl

theorem carryOut_reporting (p : Processor) (r : Request) :
    (p.carryOut r).1.delivery = p.delivery ∧ (p.carryOut r).1.isOpen = p.isOpen := by
  cases r <;> exact ⟨rfl, rfl⟩

/-- No request changes how a processor reports. -/
theorem serve_reporting (p : Processor) (r : Request) :
    (p.serve r).processor.delivery = p.delivery ∧ (p.serve r).processor.isOpen = p.isOpen := by
  cases hfit : r.objection? with
  | some fault =>
    rw [serve, hfit]
    exact ⟨rfl, rfl⟩
  | none =>
    cases harmed : p.armed with
    | some fault =>
      rw [serve, hfit, harmed]
      exact ⟨rfl, rfl⟩
    | none =>
      rw [serve_taken hfit harmed]
      simp only [report_fst]
      exact carryOut_reporting _ r

theorem undertake_reporting (p : Processor) (d : Deed) :
    (p.undertake d).1.delivery = p.delivery ∧
      (p.undertake d).1.isOpen = (p.isOpen && !decide (d = .shutdown)) ∧
      (p.undertake d).1.queue = p.queue := by
  cases d with
  | request r =>
    have hserve := p.serve_reporting r
    refine ⟨hserve.1, ?_, rfl⟩
    show (p.serve r).processor.isOpen = (p.isOpen && !decide (Deed.request r = .shutdown))
    rw [hserve.2]
    simp
  | shutdown =>
    refine ⟨rfl, ?_, rfl⟩
    show false = (p.isOpen && !decide (Deed.shutdown = .shutdown))
    simp
  | halt | exit | arm => exact ⟨rfl, by simp [undertake, arm], rfl⟩

/-- A request is its deed and then the reports that it yields. -/
theorem report_undertake (p : Processor) (r : Request) :
    ((p.undertake (.request r)).1.report (p.yields r)).1 = (p.serve r).processor := by
  have hqueue : (p.serve r).processor.queue = p.queue ++ p.enqueued (p.yields r) := by
    rw [(p.serve_report r).1, (p.report_eq _).1]
  have henqueued : (p.undertake (.request r)).1.enqueued (p.yields r) =
      p.enqueued (p.yields r) := by
    have hdelivery : (p.undertake (.request r)).1.delivery = p.delivery := (p.serve_reporting r).1
    have hopen : (p.undertake (.request r)).1.isOpen = p.isOpen := (p.serve_reporting r).2
    rw [enqueued, enqueued, hdelivery, hopen]
  rw [report_fst, henqueued]
  show { (p.serve r).processor with queue := p.queue ++ p.enqueued (p.yields r) } = _
  rw [← hqueue]

/-! ## Work -/

/-- Two processors have done the same work, however they report. -/
structure SameWork (p q : Processor) : Prop where
  calls : p.calls = q.calls
  inserted : p.inserted = q.inserted
  nextId : p.nextId = q.nextId
  armed : p.armed = q.armed

namespace SameWork

variable {p q r : Processor}

theorem refl (p : Processor) : SameWork p p := ⟨rfl, rfl, rfl, rfl⟩

theorem symm (h : SameWork p q) : SameWork q p :=
  ⟨h.calls.symm, h.inserted.symm, h.nextId.symm, h.armed.symm⟩

theorem trans (h : SameWork p q) (h' : SameWork q r) : SameWork p r :=
  ⟨h.calls.trans h'.calls, h.inserted.trans h'.inserted, h.nextId.trans h'.nextId,
    h.armed.trans h'.armed⟩

theorem report (p : Processor) (states : List State) : SameWork (p.report states).1 p := by
  rw [report_fst]
  exact ⟨rfl, rfl, rfl, rfl⟩

theorem carryOut (h : SameWork p q) (request : Request) :
    (p.carryOut request).2 = (q.carryOut request).2 ∧
      SameWork (p.carryOut request).1 (q.carryOut request).1 := by
  obtain ⟨hcalls, hinserted, hid, harmed⟩ := h
  cases request with
  | cont | stop | step => exact ⟨rfl, hcalls, hinserted, hid, harmed⟩
  | setBreakpoint | setWatchpoint =>
    simp only [Processor.carryOut, insert, hid, hinserted]
    exact ⟨trivial, hcalls, rfl, rfl, harmed⟩
  | removeBreakpoint id =>
    simp only [Processor.carryOut, hinserted]
    exact ⟨trivial, hcalls, rfl, hid, harmed⟩

/-- A request has the same answer and does the same work. -/
theorem serve (h : SameWork p q) (request : Request) :
    (p.serve request).outcome = (q.serve request).outcome ∧
      SameWork (p.serve request).processor (q.serve request).processor := by
  cases hfit : request.objection? with
  | some fault =>
    rw [Processor.serve, Processor.serve, hfit]
    exact ⟨rfl, h⟩
  | none =>
    cases harmed : p.armed with
    | some fault =>
      have harmed' : q.armed = some fault := h.armed.symm.trans harmed
      rw [Processor.serve, Processor.serve, hfit, harmed, harmed']
      exact ⟨rfl, h.calls, h.inserted, h.nextId, rfl⟩
    | none =>
      have harmed' : q.armed = none := h.armed.symm.trans harmed
      rw [serve_taken hfit harmed, serve_taken hfit harmed']
      have hlogged : SameWork { p with calls := p.calls ++ [request] }
          { q with calls := q.calls ++ [request] } :=
        ⟨by rw [h.calls], h.inserted, h.nextId, h.armed⟩
      obtain ⟨hreply, hwork⟩ := hlogged.carryOut request
      refine ⟨congrArg Except.ok hreply, ?_⟩
      exact (report _ _).trans (hwork.trans (report _ _).symm)

theorem undertake (h : SameWork p q) (d : Deed) :
    (p.undertake d).2 = (q.undertake d).2 ∧ SameWork (p.undertake d).1 (q.undertake d).1 := by
  cases d with
  | request request =>
    obtain ⟨hanswer, hwork⟩ := h.serve request
    exact ⟨hanswer, hwork.calls, hwork.inserted, hwork.nextId, hwork.armed⟩
  | arm fault => exact ⟨rfl, h.calls, h.inserted, h.nextId, rfl⟩
  | halt | exit | shutdown => exact ⟨rfl, h.calls, h.inserted, h.nextId, h.armed⟩

end SameWork

/-- What becomes of a processor with which some deeds are done, and their answers. -/
def undertakeAll (p : Processor) : List Deed → Processor × List (Except BackendFault Reply)
  | [] => (p, [])
  | d :: rest =>
    let (after, answers) := (p.undertake d).1.undertakeAll rest
    (after, (p.undertake d).2 :: answers)

theorem undertakeAll_concat (p : Processor) (deeds : List Deed) (d : Deed) :
    p.undertakeAll (deeds ++ [d]) =
      (((p.undertakeAll deeds).1.undertake d).1,
        (p.undertakeAll deeds).2 ++ [((p.undertakeAll deeds).1.undertake d).2]) := by
  induction deeds generalizing p with
  | nil => rfl
  | cons first rest ih =>
    rw [List.cons_append, undertakeAll, ih]
    rfl

end Processor

/-! ## The log -/

open Processor (Deed)

/-- A deed with its answer. -/
abbrev Done := Deed × Except BackendFault Reply

/-- What is noted in a mailroom. -/
inductive Posting where
  | did (done : Done)
  /-- the courier applies the report in its hand -/
  | applied (s : State)

def Posting.done? : Posting → Option Done
  | .did done => some done
  | .applied _ => none

def Posting.applied? : Posting → Option State
  | .applied s => some s
  | .did _ => none

def doneIn (log : List Posting) : List Done := log.filterMap Posting.done?

def appliedIn (log : List Posting) : List State := log.filterMap Posting.applied?

/-- Whether there is a shutdown among some deeds. -/
def closedBy (deeds : List Done) : Bool := deeds.any fun d => d.1 = .shutdown

/-- What the deeds before the first shutdown generate. -/
def generatedBy (deeds : List Done) : List State :=
  (deeds.takeWhile fun d => d.1 ≠ .shutdown).flatMap fun d => d.1.generates d.2

/-- The deeds but for the shutdowns. -/
def withoutShutdowns (deeds : List Done) : List Done := deeds.filter fun d => d.1 ≠ .shutdown

theorem doneIn_append (first second : List Posting) :
    doneIn (first ++ second) = doneIn first ++ doneIn second := List.filterMap_append

theorem appliedIn_append (first second : List Posting) :
    appliedIn (first ++ second) = appliedIn first ++ appliedIn second := List.filterMap_append

theorem closedBy_concat (deeds : List Done) (d : Done) :
    closedBy (deeds ++ [d]) = (closedBy deeds || decide (d.1 = .shutdown)) := by
  rw [closedBy, List.any_append]
  simp [closedBy]

theorem generatedBy_concat (deeds : List Done) (d : Done) :
    generatedBy (deeds ++ [d]) =
      generatedBy deeds ++
        if closedBy deeds || decide (d.1 = .shutdown) then [] else d.1.generates d.2 := by
  induction deeds with
  | nil => by_cases hd : d.1 = .shutdown <;> simp [generatedBy, closedBy, hd]
  | cons first rest ih =>
    by_cases hfirst : first.1 = .shutdown
    · simp [generatedBy, closedBy, hfirst]
    · have hgenerated : ∀ later : List Done,
          generatedBy (first :: later) = first.1.generates first.2 ++ generatedBy later := by
        intro later
        simp [generatedBy, hfirst]
      have hclosed : closedBy (first :: rest) = closedBy rest := by
        simp [closedBy, hfirst]
      rw [List.cons_append, hgenerated, hgenerated, ih, hclosed, List.append_assoc]

theorem withoutShutdowns_concat (deeds : List Done) (d : Done) :
    withoutShutdowns (deeds ++ [d]) =
      withoutShutdowns deeds ++ if d.1 = .shutdown then [] else [d] := by
  by_cases hd : d.1 = .shutdown <;> simp [withoutShutdowns, hd]

/-! ## Steps -/

/-- A lab, what the courier of one processor has in its hand, and what the deed in progress has still
to send. -/
structure Mailroom extends Relay where
  outbox : List State

namespace Mailroom

/-- What will still go into the queue. -/
def unsent (m : Mailroom) (n : Nat) : List State :=
  if (m.processor n).isOpen then m.outbox else []

/-- One step of somebody who does one deed after another, of the courier, or of others. -/
inductive Step (n : Nat) : Mailroom → List Posting → Mailroom → Prop where
  | start {m : Mailroom} (d : Deed) (sent : m.outbox = []) :
    Step n m [.did (d, ((m.processor n).undertake d).2)]
      { m with
        lab := m.lab.setProcessor n ((m.processor n).undertake d).1
        outbox := (m.processor n).intends d }
  | send {m : Mailroom} {s : State} {rest : List State} (next : m.outbox = s :: rest) :
    Step n m [] { m with lab := m.lab.signal n [s], outbox := rest }
  | receive {m : Mailroom} {s : State} {p : Processor} (free : m.hand = none)
    (next : (m.processor n).next? = some (s, p)) :
    Step n m [] { m with lab := m.lab.setProcessor n p, hand := some s }
  | apply {m : Mailroom} {s : State} (held : m.hand = some s) :
    Step n m [.applied s] { m with lab := m.lab.report s, hand := none }
  | aside {m : Mailroom} {lab : Lab} (alone : lab.bench.processors n = m.processor n) :
    Step n m [] { m with lab }

theorem processor_set (lab : Lab) (n : Nat) (p : Processor) :
    (lab.setProcessor n p).bench.processors n = p := Family.put_same ..

theorem processor_signal (lab : Lab) (n : Nat) (states : List State) :
    (lab.signal n states).bench.processors n = ((lab.bench.processors n).report states).1 := by
  rw [Lab.signal, Lab.reportAll_bench]
  exact Family.put_same ..

/-! An operation of a lab is such a walk: the deed, and then its reports with no other step
between them. -/

theorem signal_eq (lab : Lab) (n : Nat) (states : List State) :
    lab.signal n states =
      (lab.setProcessor n ((lab.bench.processors n).report states).1).reportAll
        ((lab.bench.processors n).report states).2 := rfl

/-- A queued processor reports nothing at once. -/
theorem signal_queued {lab : Lab} {n : Nat}
    (queued : (lab.bench.processors n).delivery = .queued) (states : List State) :
    lab.signal n states = lab.setProcessor n ((lab.bench.processors n).report states).1 := by
  have hlater : ((lab.bench.processors n).report states).2 = [] := by
    rw [(Processor.report_eq _ states).2, Processor.immediate, queued]
  rw [signal_eq, hlater, Lab.reportAll_nil]

theorem signal_nil {lab : Lab} {n : Nat}
    (queued : (lab.bench.processors n).delivery = .queued) : lab.signal n [] = lab := by
  rw [signal_queued queued, Processor.report_none, Lab.setProcessor, Family.put_self]
  rfl

theorem signal_cons {lab : Lab} {n : Nat}
    (queued : (lab.bench.processors n).delivery = .queued) (s : State) (states : List State) :
    (lab.signal n [s]).signal n states = lab.signal n (s :: states) := by
  have hqueued : ((lab.signal n [s]).bench.processors n).delivery = .queued := by
    rw [processor_signal, Processor.report_fst]
    exact queued
  rw [signal_queued hqueued, processor_signal, Processor.report_report, signal_queued queued,
    signal_queued queued, Lab.setProcessor, Lab.setProcessor]
  simp only [Lab.setBench_bench, Family.put_put]
  rfl

theorem walk_send {n : Nat} (states : List State) {m : Mailroom} (next : m.outbox = states)
    (queued : (m.processor n).delivery = .queued) :
    Walk (Step n) m [] { m with lab := m.lab.signal n states, outbox := [] } := by
  induction states generalizing m with
  | nil =>
    rw [signal_nil queued, ← next]
    exact .refl m
  | cons s rest ih =>
    have hfirst : Walk (Step n) m [] { m with lab := m.lab.signal n [s], outbox := rest } :=
      .one (.send next)
    have hqueued : (({ m with lab := m.lab.signal n [s], outbox := rest } : Mailroom).processor
        n).delivery = .queued := by
      rw [Relay.processor, processor_signal, Processor.report_fst]
      exact queued
    rw [← signal_cons queued]
    exact hfirst.trans (ih rfl hqueued)

theorem perform_operation {lab : Lab} {n : Nat}
    (queued : (lab.bench.processors n).delivery = .queued) (d : Deed) :
    (lab.perform (d.operation n)).1 =
      (lab.setProcessor n ((lab.bench.processors n).undertake d).1).signal n
        ((lab.bench.processors n).intends d) := by
  have hset : ∀ p q : Processor, (lab.setProcessor n p).setProcessor n q = lab.setProcessor n q := by
    intro p q
    simp only [Lab.setProcessor, Lab.setBench_bench, Family.put_put]
    rfl
  have hqueued : ((lab.setProcessor n ((lab.bench.processors n).undertake d).1).bench.processors
      n).delivery = .queued := by
    rw [processor_set, (Processor.undertake_reporting _ d).1, queued]
  rw [signal_queued hqueued, processor_set, hset]
  cases d with
  | request r =>
    have hlater : ((lab.bench.processors n).serve r).states = [] := by
      rw [(Processor.serve_report _ r).2, (Processor.report_eq _ _).2, Processor.immediate, queued]
    show (lab.setProcessor n _).reportAll ((lab.bench.processors n).serve r).states =
      lab.setProcessor n
        (((lab.bench.processors n).undertake (.request r)).1.report
          ((lab.bench.processors n).yields r)).1
    rw [hlater, Processor.report_undertake]
    rfl
  | halt => exact signal_queued queued [.stopped]
  | exit => exact signal_queued queued [.exited]
  | arm fault =>
    show lab.setProcessor n _ = lab.setProcessor n (((lab.bench.processors n).arm fault).report []).1
    rw [Processor.report_none]
  | shutdown =>
    show lab.setProcessor n _ = lab.setProcessor n ((lab.bench.processors n).shutdown.report []).1
    rw [Processor.report_none]

theorem walk_deed {n : Nat} {m : Mailroom} (d : Deed) (sent : m.outbox = [])
    (queued : (m.processor n).delivery = .queued) :
    Walk (Step n) m [.did (d, ((m.processor n).undertake d).2)]
      { m with lab := (m.lab.perform (d.operation n)).1, outbox := [] } := by
  have hqueued : ((m.lab.setProcessor n ((m.processor n).undertake d).1).bench.processors
      n).delivery = .queued := by
    rw [processor_set, (Processor.undertake_reporting _ d).1, queued]
  have hstart := Walk.one (Step.start (n := n) d sent)
  rw [perform_operation queued d]
  exact hstart.trans (walk_send _ rfl hqueued)

end Mailroom

/-! ## The balance of reports -/

/-- All that the deeds generate before the first shutdown is somewhere, in order and once. -/
structure Accounted (n : Nat) (log : List Posting) (m : Mailroom) : Prop where
  queued : (m.processor n).delivery = .queued
  isOpen : (m.processor n).isOpen = !closedBy (doneIn log)
  reports : appliedIn log ++ (m.undelivered n ++ m.unsent n) = generatedBy (doneIn log)

namespace Accounted

variable {n : Nat} {log : List Posting} {m : Mailroom}

/-- Steps that are not noted keep the balance if they move reports on without changing their order. -/
theorem quiet (h : Accounted n log m) {b : Mailroom}
    (delivery : (b.processor n).delivery = (m.processor n).delivery)
    (isOpen : (b.processor n).isOpen = (m.processor n).isOpen)
    (reports : b.undelivered n ++ b.unsent n = m.undelivered n ++ m.unsent n) :
    Accounted n (log ++ []) b := by
  rw [List.append_nil]
  exact ⟨delivery.trans h.queued, isOpen.trans h.isOpen, by rw [reports]; exact h.reports⟩

theorem start (h : Accounted n log m) (d : Deed) (sent : m.outbox = []) {b : Mailroom}
    (processor : b.processor n = ((m.processor n).undertake d).1) (hand : b.hand = m.hand)
    (outbox : b.outbox = (m.processor n).intends d) :
    Accounted n (log ++ [.did (d, ((m.processor n).undertake d).2)]) b := by
  obtain ⟨hdelivery, hopen, hqueue⟩ := (m.processor n).undertake_reporting d
  have hdone : doneIn (log ++ [.did (d, ((m.processor n).undertake d).2)]) =
      doneIn log ++ [(d, ((m.processor n).undertake d).2)] := doneIn_append ..
  have happlied : appliedIn (log ++ [.did (d, ((m.processor n).undertake d).2)]) =
      appliedIn log := (appliedIn_append ..).trans (List.append_nil _)
  have hundelivered : b.undelivered n = m.undelivered n := by
    rw [Relay.undelivered, Relay.undelivered, processor, hand, hqueue]
  have hunsent : m.unsent n = [] := by rw [Mailroom.unsent, sent, ite_self]
  refine ⟨?_, ?_, ?_⟩
  · rw [processor, hdelivery]
    exact h.queued
  · rw [processor, hopen, h.isOpen, hdone, closedBy_concat, Bool.not_or]
  · have hreports := h.reports
    rw [hunsent, List.append_nil] at hreports
    rw [hdone, happlied, generatedBy_concat, hundelivered, ← List.append_assoc, hreports,
      Mailroom.unsent, processor, hopen, h.isOpen, outbox, Processor.intends_eq]
    cases closedBy (doneIn log) <;> by_cases hd : d = .shutdown <;> simp [hd]

/-- A report that is sent goes to the end of the queue, or nowhere if the queue is closed. -/
theorem send (h : Accounted n log m) {s : State} {rest : List State}
    (next : m.outbox = s :: rest) :
    Accounted n (log ++ []) { m with lab := m.lab.signal n [s], outbox := rest } := by
  have hafter : (m.lab.signal n [s]).bench.processors n = ((m.processor n).report [s]).1 :=
    Mailroom.processor_signal m.lab n [s]
  rw [Processor.report_fst] at hafter
  refine h.quiet (by rw [Relay.processor, hafter]) (by rw [Relay.processor, hafter]) ?_
  rw [Relay.undelivered, Mailroom.unsent, Relay.processor, hafter, Relay.undelivered,
    Mailroom.unsent, next, Processor.enqueued, h.queued]
  cases (m.processor n).isOpen <;> simp

theorem step (h : Accounted n log m) {b : Mailroom} {more : List Posting}
    (hstep : Mailroom.Step n m more b) : Accounted n (log ++ more) b := by
  cases hstep with
  | start d sent => exact h.start d sent (Mailroom.processor_set ..) rfl rfl
  | send next => exact h.send next
  | @receive s p free next =>
    have hafter : (m.lab.setProcessor n p).bench.processors n = p := Mailroom.processor_set ..
    have hqueue := Processor.queue_of_next? next
    have heq := Processor.eq_of_next? next
    refine h.quiet (by rw [Relay.processor, hafter, heq]) (by rw [Relay.processor, hafter, heq]) ?_
    have hopen : p.isOpen = (m.processor n).isOpen := by rw [heq]
    rw [Relay.undelivered, Mailroom.unsent, Relay.processor, hafter, Relay.undelivered,
      Mailroom.unsent, free, hqueue, hopen]
    rfl
  | @apply s held =>
    -- the report in hand comes before those in the queue, so it is the next to be applied
    have happlied : appliedIn (log ++ [.applied s]) = appliedIn log ++ [s] := appliedIn_append ..
    have hdone : doneIn (log ++ [.applied s]) = doneIn log :=
      (doneIn_append ..).trans (List.append_nil _)
    have hreports := h.reports
    rw [Relay.undelivered, held] at hreports
    refine ⟨h.queued, by rw [hdone]; exact h.isOpen, ?_⟩
    rw [happlied, hdone, ← hreports, List.append_assoc]
    rfl
  | aside alone =>
    refine h.quiet (by rw [Relay.processor, alone]) (by rw [Relay.processor, alone]) ?_
    rw [Relay.undelivered, Mailroom.unsent, Relay.processor, alone]
    rfl

end Accounted

/-! ## The work does not depend on shutdowns -/

/-- A processor has answered as if it had never been shut down, and has done the same work. -/
structure Worked (start : Processor) (deeds : List Done) (p : Processor) : Prop where
  answers : (start.undertakeAll ((withoutShutdowns deeds).map Prod.fst)).2 =
    (withoutShutdowns deeds).map Prod.snd
  work : (start.undertakeAll ((withoutShutdowns deeds).map Prod.fst)).1.SameWork p

namespace Worked

variable {start p : Processor} {deeds : List Done}

theorem undertake (h : Worked start deeds p) (d : Deed) :
    Worked start (deeds ++ [(d, (p.undertake d).2)]) (p.undertake d).1 := by
  by_cases hd : d = .shutdown
  · have hsame : withoutShutdowns (deeds ++ [(d, (p.undertake d).2)]) = withoutShutdowns deeds := by
      rw [withoutShutdowns_concat, if_pos hd, List.append_nil]
    have hwork : p.SameWork (p.undertake d).1 := by
      rw [hd]
      exact ⟨rfl, rfl, rfl, rfl⟩
    refine ⟨?_, ?_⟩
    · rw [hsame]
      exact h.answers
    · rw [hsame]
      exact h.work.trans hwork
  · have hmore : withoutShutdowns (deeds ++ [(d, (p.undertake d).2)]) =
        withoutShutdowns deeds ++ [(d, (p.undertake d).2)] := by
      rw [withoutShutdowns_concat, if_neg hd]
    obtain ⟨hanswer, hwork⟩ := h.work.undertake d
    refine ⟨?_, ?_⟩
    · rw [hmore, List.map_append, List.map_append]
      show (start.undertakeAll (_ ++ [d])).2 = _ ++ [(p.undertake d).2]
      rw [Processor.undertakeAll_concat, h.answers, hanswer]
    · rw [hmore, List.map_append]
      show (start.undertakeAll (_ ++ [d])).1.SameWork _
      rw [Processor.undertakeAll_concat]
      exact hwork

theorem step {n : Nat} {log more : List Posting} {a b : Mailroom}
    (h : Worked start (doneIn log) (a.processor n)) (hstep : Mailroom.Step n a more b) :
    Worked start (doneIn (log ++ more)) (b.processor n) := by
  have hquiet : ∀ {more : List Posting}, doneIn more = [] →
      (a.processor n).SameWork (b.processor n) →
      Worked start (doneIn (log ++ more)) (b.processor n) := by
    intro more hnone hwork
    rw [doneIn_append, hnone, List.append_nil]
    exact ⟨h.answers, h.work.trans hwork⟩
  cases hstep with
  | start d sent =>
    have hafter : (a.lab.setProcessor n ((a.processor n).undertake d).1).bench.processors n =
        ((a.processor n).undertake d).1 := Mailroom.processor_set ..
    rw [doneIn_append]
    show Worked start (doneIn log ++ [(d, ((a.processor n).undertake d).2)])
      ((a.lab.setProcessor n ((a.processor n).undertake d).1).bench.processors n)
    rw [hafter]
    exact h.undertake d
  | @send s rest next =>
    refine hquiet rfl ?_
    rw [Relay.processor, Relay.processor, Mailroom.processor_signal]
    exact (Processor.SameWork.report ..).symm
  | @receive s p free next =>
    refine hquiet rfl ?_
    rw [Relay.processor, Relay.processor, Mailroom.processor_set, Processor.eq_of_next? next]
    exact ⟨rfl, rfl, rfl, rfl⟩
  | apply held => exact hquiet rfl (.refl _)
  | aside alone =>
    refine hquiet rfl ?_
    rw [Relay.processor, Relay.processor, alone]
    exact .refl _

end Worked

/-! ## Deliveries -/

/-- What is delivered, and what the deeds come to, when a walk with a new processor has come to some
point. -/
structure Dispatched (n : Nat) (log : List Posting) (m : Mailroom) : Prop where
  /-- between two deeds, what has been applied, what is in hand and what is in the queue are what the
  deeds before the first shutdown generate -/
  between : m.outbox = [] →
    appliedIn log ++ m.hand.toList ++ (m.processor n).queue = generatedBy (doneIn log)
  /-- within a deed before the first shutdown there is also what it has still to send -/
  within : closedBy (doneIn log) = false →
    appliedIn log ++ m.hand.toList ++ (m.processor n).queue ++ m.outbox = generatedBy (doneIn log)
  /-- after a shutdown nothing is added -/
  closed : closedBy (doneIn log) = true →
    appliedIn log ++ m.hand.toList ++ (m.processor n).queue = generatedBy (doneIn log)
  answers : ((Processor.new .queued).undertakeAll
    ((withoutShutdowns (doneIn log)).map Prod.fst)).2 = (withoutShutdowns (doneIn log)).map Prod.snd
  calls : (m.processor n).calls = ((Processor.new .queued).undertakeAll
    ((withoutShutdowns (doneIn log)).map Prod.fst)).1.calls
  inserted : (m.processor n).inserted = ((Processor.new .queued).undertakeAll
    ((withoutShutdowns (doneIn log)).map Prod.fst)).1.inserted

theorem dispatched {n : Nat} {log : List Posting} {m : Mailroom} (h : Accounted n log m)
    (hworked : Worked (.new .queued) (doneIn log) (m.processor n)) : Dispatched n log m := by
  have hsum : appliedIn log ++ m.hand.toList ++ (m.processor n).queue ++ m.unsent n =
      generatedBy (doneIn log) := by
    rw [← h.reports, Relay.undelivered]
    simp only [List.append_assoc]
  refine
    { between := fun hsent => ?_
      within := fun hopen => ?_
      closed := fun hclosed => ?_
      answers := hworked.answers
      calls := hworked.work.calls.symm
      inserted := hworked.work.inserted.symm }
  · have hunsent : m.unsent n = [] := by rw [Mailroom.unsent, hsent, ite_self]
    rw [hunsent, List.append_nil] at hsum
    exact hsum
  · have hunsent : m.unsent n = m.outbox := by
      rw [Mailroom.unsent, h.isOpen, hopen]
      rfl
    rw [hunsent] at hsum
    exact hsum
  · have hunsent : m.unsent n = [] := by
      rw [Mailroom.unsent, h.isOpen, hclosed]
      rfl
    rw [hunsent, List.append_nil] at hsum
    exact hsum

/-- Whatever is done with a new processor, and whenever its courier takes its steps. -/
theorem delivered_in_order {n : Nat} {a b : Mailroom} {log : List Posting}
    (new : a.processor n = .new .queued) (hand : a.hand = none) (outbox : a.outbox = [])
    (h : Walk (Mailroom.Step n) a log b) : Dispatched n log b := by
  have hstart : Accounted n [] a := by
    refine ⟨by rw [new]; rfl, by rw [new]; rfl, ?_⟩
    rw [Relay.undelivered, Mailroom.unsent, new, hand, outbox]
    rfl
  have hwork : Worked (.new .queued) (doneIn []) (a.processor n) := by
    rw [new]
    exact ⟨rfl, .refl _⟩
  have haccounted : Accounted n ([] ++ log) b :=
    h.keeps_log (fun hstep hbefore => hbefore.step hstep) hstart
  have hworked : Worked (.new .queued) (doneIn ([] ++ log)) (b.processor n) :=
    h.keeps_log (I := fun log m => Worked (.new .queued) (doneIn log) (m.processor n))
      (fun hstep hbefore => hbefore.step hstep) hwork
  exact dispatched haccounted hworked

/-- A lab with a new queued processor. -/
def Mailroom.opened : Mailroom :=
  { lab := Lab.bare.run [.install "cpu" .processor { Fittings.plain with delivery := .queued }]
    hand := none
    outbox := [] }

/-- The courier takes the first report of a step before the second is sent, and both are delivered
although the processor is shut down meanwhile.  A request that comes later is taken, and reports
nothing. -/
theorem delivered_in_order_step : ∃ b,
    Mailroom.opened.processor 0 = .new .queued ∧
      Walk (Mailroom.Step 0) .opened [.did (.request .step, .ok .done), .applied .running,
        .did (.shutdown, .ok .done), .did (.request .cont, .ok .done), .applied .stopped] b ∧
      b.outbox = [] ∧ b.undelivered 0 = [] ∧ (b.processor 0).calls = [.step, .cont] ∧
      Dispatched 0 [.did (.request .step, .ok .done), .applied .running,
        .did (.shutdown, .ok .done), .did (.request .cont, .ok .done), .applied .stopped] b := by
  have hstep := Walk.one (Mailroom.Step.start (n := 0) (m := .opened) (.request .step) rfl)
  have hfirst := hstep.trans ((Walk.one (.send rfl)).trans (.one (.receive rfl rfl)))
  have hsecond := hfirst.trans ((Walk.one (.send rfl)).trans (.one (.apply rfl)))
  have hclosed := hsecond.trans (Mailroom.walk_deed .shutdown rfl rfl)
  have hrequest := hclosed.trans (Mailroom.walk_deed (.request .cont) rfl rfl)
  have hall := hrequest.trans ((Walk.one (.receive rfl rfl)).trans (.one (.apply rfl)))
  exact ⟨_, rfl, hall, rfl, rfl, rfl, delivered_in_order rfl rfl rfl hall⟩

end TargetControl
