import Mathlib
import TargetControl.Proofs.Delivery

/-!
The log of a processor, and what can be read off it.

A processor takes one turn after another: somebody does something with it, or its oldest report is
delivered.  A request is taken if it is not refused for its own sake and no fault is armed for it.
Which fault is armed depends on one turn only, the last that bears on faults (`pending`), so a fault
goes to one request and to no other (`Returned`).

The log holds the requests that were taken and nothing else.  The breakpoints are what the log says
when it is read from its beginning, with the insertions numbered as they come (`replay`).  Both are
`Tallied`, which every turn keeps.
-/

namespace TargetControl
namespace Processor

/-! ## Turns -/

/-- What befalls a processor. -/
inductive Turn where
  | deed (d : Deed)
  /-- its oldest report is delivered, if there is one -/
  | delivery
deriving DecidableEq, Repr

/-- The processor after a turn. -/
def take (p : Processor) : Turn → Processor
  | .deed (.request r) => (p.serve r).processor
  | .deed .halt => (p.report [.stopped]).1
  | .deed .exit => (p.report [.exited]).1
  | .deed (.arm fault) => p.arm fault
  | .deed .shutdown => p.shutdown
  | .delivery =>
    match p.next? with
    | none => p
    | some (_, q) => q

def takeAll (p : Processor) (turns : List Turn) : Processor := turns.foldl take p

theorem takeAll_concat (p : Processor) (turns : List Turn) (t : Turn) :
    p.takeAll (turns ++ [t]) = (p.takeAll turns).take t := List.foldl_append

namespace Turn

/-- The operation in a lab that a turn of its processor is. -/
def operation (n : Nat) : Turn → Operation
  | .deed d => d.operation n
  | .delivery => .deliver n

def request? : Turn → Option Request
  | .deed (.request r) => some r
  | _ => none

def fault? : Turn → Option BackendFault
  | .deed (.arm fault) => some fault
  | _ => none

/-- Whether a turn decides which fault is armed: it arms one, or it is a request that would be given
one back. -/
def bears : Turn → Bool
  | .deed (.arm _) => true
  | .deed (.request r) => r.objection?.isNone
  | _ => false

end Turn

/-- The turns of a processor are what operations do to it in a lab. -/
theorem processor_perform (lab : Lab) (n : Nat) (t : Turn) :
    (lab.perform (t.operation n)).1.bench.processors n = (lab.bench.processors n).take t := by
  cases t with
  | deed d =>
    cases d with
    | request r =>
      show (lab.serve (.processor, n) (.processor r)).1.bench.processors n = _
      rw [Lab.serve_bench]
      exact Family.put_same ..
    | halt => exact Mailroom.processor_signal lab n [.stopped]
    | exit => exact Mailroom.processor_signal lab n [.exited]
    | arm fault => exact Mailroom.processor_set lab n _
    | shutdown =>
      show (lab.close (.processor, n)).1.bench.processors n = _
      rw [Lab.close, Lab.reportAll_bench]
      exact Family.put_same ..
  | delivery =>
    show (lab.deliver n).bench.processors n = _
    rw [Lab.deliver, take]
    cases (lab.bench.processors n).next? with
    | none => rfl
    | some found =>
      obtain ⟨s, q⟩ := found
      exact Mailroom.processor_set lab n q

theorem processor_run (lab : Lab) (n : Nat) (turns : List Turn) :
    (lab.run (turns.map (Turn.operation n))).bench.processors n =
      (lab.bench.processors n).takeAll turns := by
  induction turns generalizing lab with
  | nil => rfl
  | cons t rest ih =>
    rw [List.map_cons, Lab.run_cons, ih, processor_perform]
    rfl

/-! ## Faults -/

/-- The fault that is armed after some turns: that of the last turn which bears on faults, if it arms
one. -/
def pending (turns : List Turn) : Option BackendFault :=
  (turns.filter Turn.bears).getLast?.bind Turn.fault?

/-- The fault that is armed in one turn is given back in another: no turn between them bears on
faults. -/
structure Returned (turns : List Turn) (i j : Nat) (fault : BackendFault) (r : Request) : Prop where
  armed : turns[i]? = some (.deed (.arm fault))
  request : turns[j]? = some (.deed (.request r))
  fit : r.objection? = none
  later : i < j
  between : ∀ k, i < k → k < j → ∀ t, turns[k]? = some t → t.bears = false

theorem pending_concat (turns : List Turn) (t : Turn) :
    pending (turns ++ [t]) = if t.bears then t.fault? else pending turns := by
  cases h : t.bears with
  | true => simp [pending, List.filter_append, h]
  | false => simp [pending, List.filter_append, h]

/-- A fault is armed at some place if it was armed in a turn before, and none of the turns since then
bears on faults. -/
theorem pending_take_iff (turns : List Turn) {j : Nat} (hj : j ≤ turns.length)
    (fault : BackendFault) :
    pending (turns.take j) = some fault ↔
      ∃ i, i < j ∧ turns[i]? = some (.deed (.arm fault)) ∧
        ∀ k, i < k → k < j → ∀ t, turns[k]? = some t → t.bears = false := by
  induction j with
  | zero => simp [pending]
  | succ j ih =>
    have hlt : j < turns.length := hj
    have hat : turns[j]? = some turns[j] := List.getElem?_eq_getElem hlt
    rw [List.take_succ_eq_append_getElem hlt, pending_concat]
    cases hbears : turns[j].bears with
    | true =>
      rw [if_pos rfl]
      constructor
      · intro hfault
        have harm : turns[j] = .deed (.arm fault) := by
          cases ht : turns[j] with
          | delivery =>
            rw [ht] at hfault
            cases hfault
          | deed d =>
            rw [ht] at hfault
            cases d <;> cases hfault
            rfl
        refine ⟨j, Nat.lt_succ_self j, by rw [hat, harm], ?_⟩
        intro k hjk hkj
        omega
      · rintro ⟨i, hi, harm, hbetween⟩
        have hij : i = j := by
          rcases Nat.lt_or_ge i j with hlt | hge
          · have hfalse := hbetween j hlt (Nat.lt_succ_self j) _ hat
            rw [hbears] at hfalse
            cases hfalse
          · omega
        subst hij
        rw [hat] at harm
        rw [Option.some.inj harm]
        rfl
    | false =>
      rw [if_neg Bool.false_ne_true, ih (Nat.le_of_lt hlt)]
      constructor
      · rintro ⟨i, hi, harm, hbetween⟩
        refine ⟨i, Nat.lt_succ_of_lt hi, harm, ?_⟩
        intro k hik hkj t ht
        by_cases hk : k = j
        · subst hk
          rw [hat] at ht
          rw [← Option.some.inj ht, hbears]
        · exact hbetween k hik (by omega) t ht
      · rintro ⟨i, hi, harm, hbetween⟩
        have hne : i ≠ j := by
          intro hij
          subst hij
          rw [hat] at harm
          rw [Option.some.inj harm] at hbears
          cases hbears
        exact ⟨i, by omega, harm, fun k hik hkj => hbetween k hik (Nat.lt_succ_of_lt hkj)⟩

/-! ## The log -/

/-- The request in some turn, if it is taken. -/
def takenAt (turns : List Turn) (j : Nat) : Option Request :=
  (turns[j]?.bind Turn.request?).filter fun r =>
    r.objection?.isNone && (pending (turns.take j)).isNone

/-- The requests that are taken, oldest first. -/
def taken (turns : List Turn) : List Request :=
  (List.range turns.length).filterMap (takenAt turns)

theorem taken_concat (turns : List Turn) (t : Turn) :
    taken (turns ++ [t]) =
      taken turns ++ (t.request?.filter fun r =>
        r.objection?.isNone && (pending turns).isNone).toList := by
  have hbefore : ∀ j ∈ List.range turns.length, takenAt (turns ++ [t]) j = takenAt turns j := by
    intro j hj
    have hj : j < turns.length := List.mem_range.mp hj
    rw [takenAt, takenAt, List.getElem?_append_left hj, List.take_append_of_le_length (by omega)]
  have hlast : takenAt (turns ++ [t]) turns.length =
      t.request?.filter fun r => r.objection?.isNone && (pending turns).isNone := by
    simp [takenAt]
  rw [taken, taken, List.length_append, List.length_singleton, List.range_succ,
    List.filterMap_append, List.filterMap_congr hbefore, List.filterMap_cons, hlast]
  cases t.request?.filter fun r => r.objection?.isNone && (pending turns).isNone with
  | none => rfl
  | some r => rfl

/-! ## Reading the log -/

/-- The number of the insertion that comes at some place, counted from one.  There are as many
numbers as 32 bits can tell apart, and they are given out in turn. -/
def idOf (k : Nat) : BreakpointId := ⟨UInt32.ofNat k⟩

theorem number_idOf (k : Nat) : (idOf k).number.toNat = k % 2 ^ 32 := UInt32.toNat_ofNat'

theorem next_idOf (k : Nat) : (idOf k).next = idOf (k + 1) := by
  show (⟨UInt32.ofNat k + 1⟩ : BreakpointId) = ⟨UInt32.ofNat (k + 1)⟩
  rw [UInt32.ofNat_add]
  rfl

namespace Request

def inserts (r : Request) : Bool := r.insertion?.isSome

end Request

/-- The number of insertions in a log. -/
def insertions (calls : List Request) : Nat := calls.countP Request.inserts

/-- Reads one request: the insertions before it and the breakpoints become those after it. -/
def enter (read : Nat × Keyed BreakpointId Insertion) (r : Request) :
    Nat × Keyed BreakpointId Insertion :=
  match r with
  | .setBreakpoint location options =>
    (read.1 + 1, Keyed.insert (idOf (read.1 + 1)) (.breakpoint location options) read.2)
  | .setWatchpoint subject write watchRead =>
    (read.1 + 1, Keyed.insert (idOf (read.1 + 1)) (.watchpoint subject write watchRead) read.2)
  | .removeBreakpoint id => (read.1, Keyed.erase id read.2)
  | .cont | .stop | .step => read

/-- Reads a log: the number of its insertions, and the breakpoints that they leave. -/
def replay (calls : List Request) : Nat × Keyed BreakpointId Insertion := calls.foldl enter (0, [])

theorem replay_concat (calls : List Request) (r : Request) :
    replay (calls ++ [r]) = enter (replay calls) r := List.foldl_append

theorem insertions_concat (calls : List Request) (r : Request) :
    insertions (calls ++ [r]) = insertions calls + if r.inserts then 1 else 0 := by
  simp [insertions, List.countP_append, List.countP_cons]

theorem replay_fst (calls : List Request) : (replay calls).1 = insertions calls := by
  induction calls using List.reverseRecOn with
  | nil => rfl
  | append_singleton calls r ih =>
    rw [replay_concat, insertions_concat, ← ih]
    cases r <;> rfl

/-- The answer to a request that is taken when a log has come so far. -/
def replyAfter (calls : List Request) : Request → Reply
  | .setBreakpoint .. | .setWatchpoint .. => .breakpoint (idOf (insertions calls + 1))
  | .removeBreakpoint id => .flag (Keyed.find? id (replay calls).2).isSome
  | .cont | .stop | .step => .done

/-! ## What every turn keeps -/

theorem serve_refused (p : Processor) {r : Request} {fault : BackendFault}
    (h : r.objection? = some fault) : p.serve r = ⟨p, .error fault, []⟩ := by
  simp only [serve, h]

theorem serve_returned {p : Processor} {r : Request} {fault : BackendFault}
    (hfit : r.objection? = none) (harmed : p.armed = some fault) :
    p.serve r = ⟨{ p with armed := none }, .error fault, []⟩ := by
  simp only [serve, hfit, harmed]

/-- After some turns a processor is what these turns make of it. -/
structure Tallied (turns : List Turn) (p : Processor) : Prop where
  calls : p.calls = taken turns
  inserted : p.inserted = (replay p.calls).2
  nextId : p.nextId = idOf (insertions p.calls + 1)
  armed : p.armed = pending turns

namespace Tallied

variable {turns : List Turn} {p : Processor}

/-- A turn that bears on no fault and is no request leaves the work of the processor as it is. -/
theorem idle (h : Tallied turns p) {t : Turn} (hbears : t.bears = false) (hrequest : t.request? = none)
    (hwork : SameWork (p.take t) p) : Tallied (turns ++ [t]) (p.take t) := by
  have htaken : taken (turns ++ [t]) = taken turns := by
    rw [taken_concat, hrequest]
    exact List.append_nil _
  have hpending : pending (turns ++ [t]) = pending turns := by
    rw [pending_concat, hbears]
    rfl
  refine ⟨?_, ?_, ?_, ?_⟩
  · rw [hwork.calls, htaken, h.calls]
  · rw [hwork.inserted, hwork.calls, h.inserted]
  · rw [hwork.nextId, hwork.calls, h.nextId]
  · rw [hwork.armed, hpending, h.armed]

/-- A request that is taken is logged, and is answered and carried out as the log says. -/
theorem serve_accepted (h : Tallied turns p) {r : Request} (hfit : r.objection? = none)
    (harmed : p.armed = none) :
    (p.serve r).outcome = .ok (replyAfter p.calls r) ∧
      (p.serve r).processor.calls = p.calls ++ [r] ∧
      (p.serve r).processor.inserted = (replay (p.calls ++ [r])).2 ∧
      (p.serve r).processor.nextId = idOf (insertions (p.calls ++ [r]) + 1) ∧
      (p.serve r).processor.armed = none := by
  have hwork := SameWork.report ({ p with calls := p.calls ++ [r] }.carryOut r).1 r.states
  rw [serve_taken hfit harmed]
  simp only [hwork.calls, hwork.inserted, hwork.nextId, hwork.armed]
  rw [replay_concat, insertions_concat]
  cases r with
  | cont | stop | step => exact ⟨rfl, rfl, h.inserted, h.nextId, harmed⟩
  | setBreakpoint | setWatchpoint =>
    refine ⟨?_, rfl, ?_, ?_, harmed⟩
    · show Except.ok (Reply.breakpoint p.nextId) = _
      rw [h.nextId]
      rfl
    · show Keyed.insert p.nextId _ p.inserted = _
      rw [h.nextId, h.inserted, ← replay_fst]
      rfl
    · show p.nextId.next = _
      rw [h.nextId, next_idOf]
      rfl
  | removeBreakpoint id =>
    refine ⟨?_, rfl, ?_, h.nextId, harmed⟩
    · show Except.ok (Reply.flag (Keyed.find? id p.inserted).isSome) = _
      rw [h.inserted]
      rfl
    · show Keyed.erase id p.inserted = _
      rw [h.inserted]
      rfl

theorem request (h : Tallied turns p) (r : Request) :
    Tallied (turns ++ [.deed (.request r)]) (p.serve r).processor := by
  cases hfit : r.objection? with
  | some fault =>
    rw [serve_refused p hfit]
    refine ⟨?_, h.inserted, h.nextId, ?_⟩
    · rw [taken_concat, h.calls]
      simp [Turn.request?, hfit]
    · rw [pending_concat, h.armed]
      simp [Turn.bears, hfit]
  | none =>
    have hpending : pending (turns ++ [.deed (.request r)]) = none := by
      rw [pending_concat]
      simp [Turn.bears, Turn.fault?, hfit]
    cases harmed : p.armed with
    | some fault =>
      have hfault : pending turns = some fault := h.armed.symm.trans harmed
      rw [serve_returned hfit harmed]
      refine ⟨?_, h.inserted, h.nextId, hpending.symm⟩
      rw [taken_concat, hfault]
      simp [Turn.request?, h.calls]
    | none =>
      have hnone : pending turns = none := h.armed.symm.trans harmed
      obtain ⟨-, hcalls, hinserted, hnext, hafter⟩ := h.serve_accepted hfit harmed
      refine ⟨?_, ?_, ?_, ?_⟩
      · rw [hcalls, taken_concat, h.calls, hnone]
        simp [Turn.request?, Option.filter, hfit]
      · rw [hcalls]
        exact hinserted
      · rw [hcalls]
        exact hnext
      · rw [hafter, hpending]

theorem take (h : Tallied turns p) (t : Turn) : Tallied (turns ++ [t]) (p.take t) := by
  cases t with
  | delivery =>
    apply h.idle rfl rfl
    rw [Processor.take]
    cases hnext : p.next? with
    | none => exact .refl p
    | some found =>
      obtain ⟨s, q⟩ := found
      have hq : q = { p with queue := q.queue } := eq_of_next? hnext
      show SameWork q p
      rw [hq]
      exact ⟨rfl, rfl, rfl, rfl⟩
  | deed d =>
    cases d with
    | request r => exact h.request r
    | halt | exit => exact h.idle rfl rfl (.report p _)
    | shutdown => exact h.idle rfl rfl ⟨rfl, rfl, rfl, rfl⟩
    | arm fault =>
      refine ⟨?_, h.inserted, h.nextId, ?_⟩
      · rw [taken_concat]
        simp only [Turn.request?, Option.filter_none, Option.toList_none, List.append_nil]
        exact h.calls
      · rw [pending_concat]
        rfl

theorem takeAll (delivery : Delivery) (turns : List Turn) :
    Tallied turns ((new delivery).takeAll turns) := by
  induction turns using List.reverseRecOn with
  | nil => exact ⟨rfl, rfl, rfl, rfl⟩
  | append_singleton turns t ih =>
    rw [takeAll_concat]
    exact ih.take t

end Tallied

/-! ## The law of the log -/

/-- A processor when some of its turns have been taken. -/
def stage (delivery : Delivery) (turns : List Turn) (j : Nat) : Processor :=
  (new delivery).takeAll (turns.take j)

/-- What the log of a processor is, and how its requests are answered, in the course of some
turns. -/
structure LogLaw (delivery : Delivery) (turns : List Turn) : Prop where
  /-- a processor on a bench comes to the same state when its turns are operations in a lab -/
  onBench : ∀ (lab : Lab) n, lab.bench.processors n = new delivery →
    (lab.run (turns.map (Turn.operation n))).bench.processors n = (new delivery).takeAll turns
  calls : ((new delivery).takeAll turns).calls = taken turns
  /-- a request is taken if it is not refused for its own sake and no fault goes to it -/
  taken_iff : ∀ j r, takenAt turns j = some r ↔
    turns[j]? = some (.deed (.request r)) ∧ r.objection? = none ∧
      ∀ i fault, ¬ Returned turns i j fault r
  inserted : ((new delivery).takeAll turns).inserted =
    (replay ((new delivery).takeAll turns).calls).2
  refused : ∀ j r fault, turns[j]? = some (.deed (.request r)) → r.objection? = some fault →
    (stage delivery turns j).serve r = ⟨stage delivery turns j, .error fault, []⟩
  returned : ∀ i j fault r, Returned turns i j fault r →
    (stage delivery turns j).serve r =
      ⟨{ stage delivery turns j with armed := none }, .error fault, []⟩
  /-- a fault is given back once -/
  once : ∀ i j j' fault fault' r r', Returned turns i j fault r → Returned turns i j' fault' r' →
    j = j'
  single : ∀ i i' j fault fault' r r', Returned turns i j fault r → Returned turns i' j fault' r' →
    i = i'
  /-- it is given back to the first request that can get it, unless another is armed before that -/
  first : ∀ i j fault r, turns[i]? = some (.deed (.arm fault)) → i < j →
    turns[j]? = some (.deed (.request r)) → r.objection? = none →
    (∀ k, i < k → k < j → ∀ other, turns[k]? ≠ some (.deed (.arm other))) →
    ∃ j' r', j' ≤ j ∧ Returned turns i j' fault r'
  accepted : ∀ j r, takenAt turns j = some r →
    ((stage delivery turns j).serve r).outcome = .ok (replyAfter (taken (turns.take j)) r) ∧
      ((stage delivery turns j).serve r).processor.calls = taken (turns.take j) ++ [r]
  /-- insertions are numbered from one, with 32 bits -/
  numbered : ∀ j r, takenAt turns j = some r → r.inserts = true → ∃ id : BreakpointId,
    id.number.toNat = (insertions (taken (turns.take j)) + 1) % 2 ^ 32 ∧
      ((stage delivery turns j).serve r).outcome = .ok (.breakpoint id)
  removed : ∀ j id, takenAt turns j = some (.removeBreakpoint id) →
    ((stage delivery turns j).serve (.removeBreakpoint id)).outcome =
      .ok (.flag (Keyed.find? id (stage delivery turns j).inserted).isSome)

theorem returned_iff {turns : List Turn} {j : Nat} {fault : BackendFault} {r : Request}
    (hat : turns[j]? = some (.deed (.request r))) (hfit : r.objection? = none) :
    (∃ i, Returned turns i j fault r) ↔ pending (turns.take j) = some fault := by
  have hlt : j < turns.length := (List.getElem?_eq_some_iff.mp hat).1
  rw [pending_take_iff turns (Nat.le_of_lt hlt)]
  constructor
  · rintro ⟨i, harmed, -, -, hlater, hbetween⟩
    exact ⟨i, hlater, harmed, hbetween⟩
  · rintro ⟨i, hlater, harmed, hbetween⟩
    exact ⟨i, harmed, hat, hfit, hlater, hbetween⟩

theorem takenAt_eq_some_iff {turns : List Turn} {j : Nat} {r : Request} :
    takenAt turns j = some r ↔
      turns[j]? = some (.deed (.request r)) ∧ r.objection? = none ∧
        pending (turns.take j) = none := by
  have hrequest : turns[j]?.bind Turn.request? = some r ↔
      turns[j]? = some (.deed (.request r)) := by
    rw [Option.bind_eq_some_iff]
    constructor
    · rintro ⟨t, hat, ht⟩
      rw [hat]
      cases t with
      | delivery => cases ht
      | deed d =>
        cases d <;> cases ht
        rfl
    · intro hat
      exact ⟨_, hat, rfl⟩
  rw [takenAt, Option.filter_eq_some_iff, hrequest, Bool.and_eq_true, Option.isNone_iff_eq_none,
    Option.isNone_iff_eq_none]

theorem Returned.bears {turns : List Turn} {i j : Nat} {fault : BackendFault} {r : Request}
    (h : Returned turns i j fault r) : (Turn.deed (.request r)).bears = true := by
  simp [Turn.bears, h.fit]

/-- Of two turns that a fault passes to, neither comes before the other. -/
theorem Returned.unique {turns : List Turn} {i j j' : Nat} {fault fault' : BackendFault}
    {r r' : Request} (h : Returned turns i j fault r) (h' : Returned turns i j' fault' r') :
    j = j' := by
  rcases Nat.lt_trichotomy j j' with hlt | heq | hgt
  · have hfalse := h'.between j h.later hlt _ h.request
    rw [h.bears] at hfalse
    cases hfalse
  · exact heq
  · have hfalse := h.between j' h'.later hgt _ h'.request
    rw [h'.bears] at hfalse
    cases hfalse

theorem Returned.source {turns : List Turn} {i i' j : Nat} {fault fault' : BackendFault}
    {r r' : Request} (h : Returned turns i j fault r) (h' : Returned turns i' j fault' r') :
    i = i' := by
  rcases Nat.lt_trichotomy i i' with hlt | heq | hgt
  · cases h.between i' hlt h'.later _ h'.armed
  · exact heq
  · cases h'.between i hgt h.later _ h.armed

/-- The first turn after some place that bears on faults, if there is one before another place. -/
theorem exists_first_bearing {turns : List Turn} {i j : Nat} {t : Turn} (hij : i < j)
    (hat : turns[j]? = some t) (hbears : t.bears = true) :
    ∃ j' t', i < j' ∧ j' ≤ j ∧ turns[j']? = some t' ∧ t'.bears = true ∧
      ∀ k, i < k → k < j' → ∀ u, turns[k]? = some u → u.bears = false := by
  induction j using Nat.strongRecOn generalizing t with
  | ind j ih =>
    by_cases hearlier : ∃ k, i < k ∧ k < j ∧ ∃ u, turns[k]? = some u ∧ u.bears = true
    · obtain ⟨k, hik, hkj, u, hu, hub⟩ := hearlier
      obtain ⟨j', t', hlater, hle, hat', hbears', hbetween⟩ := ih k hkj hik hu hub
      exact ⟨j', t', hlater, by omega, hat', hbears', hbetween⟩
    · refine ⟨j, t, hij, Nat.le_refl j, hat, hbears, ?_⟩
      intro k hik hkj u hu
      cases hub : u.bears with
      | false => rfl
      | true => exact absurd ⟨k, hik, hkj, u, hu, hub⟩ hearlier

/-- A request is taken if nothing is held against it and no fault goes to it. -/
theorem takenAt_iff_not_returned {turns : List Turn} {j : Nat} {r : Request} :
    takenAt turns j = some r ↔
      turns[j]? = some (.deed (.request r)) ∧ r.objection? = none ∧
        ∀ i fault, ¬ Returned turns i j fault r := by
  rw [takenAt_eq_some_iff]
  constructor
  · rintro ⟨hat, hfit, hnone⟩
    refine ⟨hat, hfit, fun i fault h => ?_⟩
    rw [(returned_iff hat hfit).mp ⟨i, h⟩] at hnone
    cases hnone
  · rintro ⟨hat, hfit, hnot⟩
    refine ⟨hat, hfit, ?_⟩
    cases hpending : pending (turns.take j) with
    | none => rfl
    | some fault =>
      obtain ⟨i, h⟩ := (returned_iff hat hfit).mpr hpending
      exact absurd h (hnot i fault)

/-- A fault that is not replaced is given back as soon as there is a request for it. -/
theorem exists_returned {turns : List Turn} {i j : Nat} {fault : BackendFault} {r : Request}
    (harmed : turns[i]? = some (.deed (.arm fault))) (hij : i < j)
    (hat : turns[j]? = some (.deed (.request r))) (hfit : r.objection? = none)
    (hkept : ∀ k, i < k → k < j → ∀ other, turns[k]? ≠ some (.deed (.arm other))) :
    ∃ j' r', j' ≤ j ∧ Returned turns i j' fault r' := by
  obtain ⟨j', t, hlater, hle, hat', hbears, hbetween⟩ :=
    exists_first_bearing hij hat (by simp [Turn.bears, hfit])
  cases t with
  | delivery => cases hbears
  | deed d =>
    cases d with
    | halt | exit | shutdown => cases hbears
    | arm other =>
      by_cases hj : j' = j
      · subst hj
        rw [hat] at hat'
        cases hat'
      · exact absurd hat' (hkept j' hlater (by omega) other)
    | request r' =>
      have hfit' : r'.objection? = none := by simpa [Turn.bears] using hbears
      exact ⟨j', r', hle, harmed, hat', hfit', hlater, hbetween⟩

theorem stage_tallied (delivery : Delivery) (turns : List Turn) (j : Nat) :
    Tallied (turns.take j) (stage delivery turns j) := .takeAll ..

theorem stage_accepted (delivery : Delivery) {turns : List Turn} {j : Nat} {r : Request}
    (h : takenAt turns j = some r) :
    ((stage delivery turns j).serve r).outcome = .ok (replyAfter (taken (turns.take j)) r) ∧
      ((stage delivery turns j).serve r).processor.calls = taken (turns.take j) ++ [r] := by
  have htallied := stage_tallied delivery turns j
  obtain ⟨-, hfit, hnone⟩ := takenAt_eq_some_iff.mp h
  obtain ⟨houtcome, hcalls, -⟩ := htallied.serve_accepted hfit (htallied.armed.trans hnone)
  rw [← htallied.calls]
  exact ⟨houtcome, hcalls⟩

theorem log_law (delivery : Delivery) (turns : List Turn) : LogLaw delivery turns := by
  have hall : Tallied turns ((new delivery).takeAll turns) := .takeAll delivery turns
  refine
    { onBench := fun lab n hnew => hnew ▸ processor_run lab n turns
      calls := hall.calls
      taken_iff := fun j r => takenAt_iff_not_returned
      inserted := hall.inserted
      refused := fun j r fault _ hobjection => serve_refused _ hobjection
      returned := fun i j fault r h => ?_
      once := fun i j j' fault fault' r r' h h' => h.unique h'
      single := fun i i' j fault fault' r r' h h' => h.source h'
      first := fun i j fault r harmed hij hat hfit hkept => exists_returned harmed hij hat hfit hkept
      accepted := fun j r htaken => stage_accepted delivery htaken
      numbered := fun j r htaken hinserts => ?_
      removed := fun j id htaken => ?_ }
  · have hpending := (returned_iff h.request h.fit).mp ⟨i, h⟩
    exact serve_returned h.fit ((stage_tallied delivery turns j).armed.trans hpending)
  · refine ⟨idOf (insertions (taken (turns.take j)) + 1), number_idOf _, ?_⟩
    rw [(stage_accepted delivery htaken).1]
    cases r with
    | setBreakpoint | setWatchpoint => rfl
    | cont | stop | step | removeBreakpoint => cases hinserts
  · have htallied := stage_tallied delivery turns j
    rw [(stage_accepted delivery htaken).1, htallied.inserted, htallied.calls]
    rfl

end Processor
end TargetControl
