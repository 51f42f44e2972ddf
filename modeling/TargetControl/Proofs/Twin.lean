import TargetControl.Proofs.Delivery
import TargetControl.Proofs.Likeness

/-!
A direct processor and a queued one in its place.

Two processors are twins if they have been asked the same and nothing is left in a queue.  While they
have not been shut down, a request has the same answer from both, and what one of them delivers at
once stands in the queue of the other.  Two benches are twins if they have twins under one handle
and everything else in common; this outlasts whatever a target does to its devices but requests.
-/

namespace TargetControl

/-! ## Two processors -/

/-- A direct processor and a queued one that have been asked the same, with nothing in their
queues. -/
structure Processor.Twin (p q : Processor) : Prop where
  direct : p.delivery = .direct
  queued : q.delivery = .queued
  isOpen : q.isOpen = decide (p.shutdowns = 0)
  empty : p.queue = []
  drained : q.queue = []
  work : p.SameWork q
  shutdowns : q.shutdowns = p.shutdowns

namespace Processor.Twin

variable {p q : Processor}

theorem new : Twin (.new .direct) (.new .queued) :=
  ⟨rfl, rfl, rfl, rfl, rfl, ⟨rfl, rfl, rfl, rfl⟩, rfl⟩

theorem shutdown (h : Twin p q) : Twin p.shutdown q.shutdown := by
  refine ⟨h.direct, h.queued, ?_, h.empty, h.drained, ?_, congrArg (· + 1) h.shutdowns⟩
  · show false = decide (p.shutdowns + 1 = 0)
    simp
  · exact ⟨h.work.calls, h.work.inserted, h.work.nextId, h.work.armed⟩

theorem arm (h : Twin p q) (fault : BackendFault) : Twin (p.arm fault) (q.arm fault) :=
  ⟨h.direct, h.queued, h.isOpen, h.empty, h.drained,
    ⟨h.work.calls, h.work.inserted, h.work.nextId, rfl⟩, h.shutdowns⟩

/-- What one of them delivers at once the other puts into its queue. -/
theorem report (h : Twin p q) (unclosed : p.shutdowns = 0) (states : List State) :
    p.report states = (p, states) ∧ q.report states = ({ q with queue := states }, []) := by
  have hopen : q.isOpen = true := by
    rw [h.isOpen, unclosed]
    rfl
  refine ⟨report_direct h.direct states, ?_⟩
  rw [report_queued h.queued hopen, h.drained]
  rfl

theorem serve (h : Twin p q) (unclosed : p.shutdowns = 0) (r : Request) :
    (q.serve r).outcome = (p.serve r).outcome ∧ (q.serve r).states = [] ∧
      (q.serve r).processor.queue = (p.serve r).states ∧
      Twin (p.serve r).processor { (q.serve r).processor with queue := [] } := by
  obtain ⟨houtcome, hwork⟩ := h.work.serve r
  have hyields : q.yields r = p.yields r := by
    rw [yields, yields, houtcome]
  obtain ⟨hdirect, hqueued⟩ := h.report unclosed (p.yields r)
  have hqueue : (q.serve r).processor.queue = p.yields r := by
    rw [(q.serve_report r).1, hyields, hqueued]
  have hempty : (p.serve r).processor.queue = [] := by
    rw [(p.serve_report r).1, hdirect]
    exact h.empty
  refine ⟨houtcome.symm, ?_, ?_, ?_⟩
  · rw [(q.serve_report r).2, hyields, hqueued]
  · rw [hqueue, (p.serve_report r).2, hdirect]
  · refine ⟨(p.serve_reporting r).1.trans h.direct, (q.serve_reporting r).1.trans h.queued, ?_,
      hempty, rfl, ⟨hwork.calls, hwork.inserted, hwork.nextId, hwork.armed⟩, ?_⟩
    · rw [serve_shutdowns]
      exact (q.serve_reporting r).2.trans h.isOpen
    · show (q.serve r).processor.shutdowns = (p.serve r).processor.shutdowns
      rw [serve_shutdowns, serve_shutdowns, h.shutdowns]

end Processor.Twin

namespace Bench

/-! ## Two benches -/

/-- A bench with a processor in the state it has come to. -/
def putProcessor (b : Bench) (n : Nat) (p : Processor) : Bench :=
  { b with processors := Family.put b.processors n p }

theorem putProcessor_same (b : Bench) (n : Nat) (p : Processor) :
    (b.putProcessor n p).processors n = p := Family.put_same ..

theorem putProcessor_of_ne (b : Bench) {n k : Nat} (h : k ≠ n) (p : Processor) :
    (b.putProcessor n p).processors k = b.processors k := Family.put_of_ne _ h _

theorem putProcessor_putProcessor (b : Bench) (n : Nat) (p q : Processor) :
    (b.putProcessor n p).putProcessor n q = b.putProcessor n q := by
  rw [putProcessor, putProcessor, Family.put_put]
  rfl

theorem putProcessor_comm (b : Bench) {n k : Nat} (h : k ≠ n) (p q : Processor) :
    (b.putProcessor n p).putProcessor k q = (b.putProcessor k q).putProcessor n p := by
  rw [putProcessor, putProcessor, putProcessor, putProcessor]
  simp only [Family.put_comm _ h]

/-- What a bench does with devices other than a processor has nothing to do with the processor. -/
theorem shutdown_putProcessor (b : Bench) {n : Nat} (p : Processor) {device : Device}
    (h : device ≠ (.processor, n)) :
    (b.putProcessor n p).shutdown device =
      ⟨(b.shutdown device).bench.putProcessor n p, (b.shutdown device).outcome,
        (b.shutdown device).states⟩ := by
  obtain ⟨part, k⟩ := device
  cases part with
  | processor =>
    have hk : k ≠ n := fun heq => h (by rw [heq])
    show (⟨(b.putProcessor n p).putProcessor k ((b.putProcessor n p).processors k).shutdown,
      .ok (), []⟩ : Release) = _
    rw [putProcessor_comm b hk, putProcessor_of_ne b hk]
    rfl
  | _ => rfl

theorem install_putProcessor (b : Bench) {n : Nat} (p : Processor) (h : n < b.installed)
    (label : String) (part : Part) (fittings : Fittings) :
    ((b.putProcessor n p).install label part fittings).1 =
      (b.install label part fittings).1.putProcessor n p := by
  cases part with
  | processor =>
    have hne : b.installed ≠ n := Nat.ne_of_gt h
    have hput := Family.put_comm b.processors hne p (.new fittings.delivery)
    simp only [install, putProcessor, hput]
  | _ => rfl

/-- Whether a request that is handed to a device goes to a processor. -/
def Hits (n : Nat) (device : Device) (request : Request) : Prop :=
  device.1 ≠ .guest ∧ device.2 = n ∧ request.part = .processor

theorem serve_putProcessor (b : Bench) {n : Nat} (p : Processor) {device : Device}
    {request : Request} (h : ¬ Hits n device request) :
    (b.putProcessor n p).serve device request =
      ⟨(b.serve device request).bench.putProcessor n p, (b.serve device request).outcome,
        (b.serve device request).states⟩ := by
  obtain ⟨part, k⟩ := device
  cases request with
  | processor r =>
    by_cases hpart : part = .guest
    · rw [hpart]
      rfl
    · have hk : k ≠ n := fun heq => h ⟨hpart, heq, rfl⟩
      have hcomm := putProcessor_comm b hk p ((b.processors k).serve r).processor
      have hother := putProcessor_of_ne b hk p
      cases part with
      | guest => exact absurd rfl hpart
      | _ =>
        show (⟨(b.putProcessor n p).putProcessor k
          (((b.putProcessor n p).processors k).serve r).processor,
          (((b.putProcessor n p).processors k).serve r).outcome,
          (((b.putProcessor n p).processors k).serve r).states⟩ : Response) = _
        rw [hother, hcomm]
        rfl
  | memory r => cases part <;> rfl
  | registers r => cases part <;> rfl

theorem serve_of_hits {b : Bench} {n : Nat} {device : Device} {request : Request}
    (h : Hits n device request) :
    ∃ r, request = .processor r ∧ ∀ p : Processor, (b.putProcessor n p).serve device request =
      ⟨b.putProcessor n (p.serve r).processor, (p.serve r).outcome, (p.serve r).states⟩ := by
  obtain ⟨part, k⟩ := device
  obtain ⟨hpart, rfl, hrequest⟩ := h
  cases request with
  | memory r => cases hrequest
  | registers r => cases hrequest
  | processor r =>
    refine ⟨r, rfl, fun p => ?_⟩
    have hsame := putProcessor_same b k p
    have hput := putProcessor_putProcessor b k p (p.serve r).processor
    cases part with
    | guest => exact absurd rfl hpart
    | _ =>
      show (⟨(b.putProcessor k p).putProcessor k
        (((b.putProcessor k p).processors k).serve r).processor,
        (((b.putProcessor k p).processors k).serve r).outcome,
        (((b.putProcessor k p).processors k).serve r).states⟩ : Response) = _
      rw [hsame, hput]

/-- Two benches with everything in common but one processor. -/
inductive Twin (n : Nat) : Bench → Bench → Prop where
  | intro (b : Bench) {p q : Processor} (made : n < b.installed) (pair : Processor.Twin p q) :
    Twin n (b.putProcessor n p) (b.putProcessor n q)

namespace Twin

variable {n : Nat} {x y : Bench}

theorem pair (h : Twin n x y) : Processor.Twin (x.processors n) (y.processors n) := by
  cases h with
  | intro b made pair =>
    rw [putProcessor_same, putProcessor_same]
    exact pair

theorem made (h : Twin n x y) : n < y.installed := by
  cases h with
  | intro b made pair => exact made

theorem put (h : Twin n x y) {p q : Processor} (pair : Processor.Twin p q) :
    Twin n (x.putProcessor n p) (y.putProcessor n q) := by
  cases h with
  | intro b made _ =>
    rw [putProcessor_putProcessor, putProcessor_putProcessor]
    exact .intro b made pair

theorem likeness : Likeness (Twin n) := by
  refine
    { labels := fun h => ?_
      installed := fun h => ?_
      install := fun h label part fittings => ?_
      shutdown := fun h device => ?_ }
  · cases h with
    | intro b made pair => rfl
  · cases h with
    | intro b made pair => rfl
  · cases h with
    | intro b made pair =>
      rw [install_putProcessor b _ made, install_putProcessor b _ made]
      refine .intro _ ?_ pair
      rw [install_installed]
      exact Nat.lt_succ_of_lt made
  · cases h with
    | @intro b p q made pair =>
      by_cases hdevice : device = (.processor, n)
      · subst hdevice
        show Twin n ((b.putProcessor n p).putProcessor n ((b.putProcessor n p).processors n).shutdown)
            ((b.putProcessor n q).putProcessor n ((b.putProcessor n q).processors n).shutdown) ∧
          Except.ok () = Except.ok () ∧ [] = []
        rw [putProcessor_same, putProcessor_same, putProcessor_putProcessor,
          putProcessor_putProcessor]
        exact ⟨.intro b made pair.shutdown, rfl, rfl⟩
      · rw [shutdown_putProcessor b p hdevice, shutdown_putProcessor b q hdevice]
        refine ⟨.intro _ ?_ pair, rfl, rfl⟩
        rw [shutdown_installed]
        exact made

theorem other (h : Twin n x y) {k : Nat} (hk : k ≠ n) : y.processors k = x.processors k := by
  cases h with
  | intro b made pair => rw [putProcessor_of_ne b hk, putProcessor_of_ne b hk]

theorem putOther (h : Twin n x y) {k : Nat} (hk : k ≠ n) (p : Processor) :
    Twin n (x.putProcessor k p) (y.putProcessor k p) := by
  cases h with
  | intro b made pair =>
    rw [putProcessor_comm b hk, putProcessor_comm b hk]
    exact .intro (b.putProcessor k p) made pair

theorem load (h : Twin n x y) (k : Nat) (address : UInt64) (data : List UInt8) :
    Twin n { x with memories := Family.put x.memories k ((x.memories k).load address data) }
      { y with memories := Family.put y.memories k ((y.memories k).load address data) } := by
  cases h with
  | intro b made pair =>
    exact .intro
      { b with memories := Family.put b.memories k ((b.memories k).load address data) } made pair

end Twin
end Bench
end TargetControl
