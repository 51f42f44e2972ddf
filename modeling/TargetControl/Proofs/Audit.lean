import TargetControl.Proofs.Abreast

/-!
A listener that has been there from the beginning.

It is told of every change, and of nothing else.  So what it has received up to any point between two
operations can be replayed from a blank picture, and the picture it comes to is that of the target:
the state, and the slots that are occupied.
-/

namespace TargetControl

/-! ## Where listeners begin -/

namespace Lab

theorem run_addSinks (lab : Lab) (sinks : List Sink) :
    lab.run (sinks.map .addSink) = { lab with sinks := lab.sinks ++ sinks } := by
  induction sinks generalizing lab with
  | nil =>
    show lab = { lab with sinks := lab.sinks ++ [] }
    rw [List.append_nil]
  | cons sink rest ih =>
    show (lab.addSink sink).run (rest.map .addSink) = _
    rw [ih, addSink, List.append_assoc]
    rfl

theorem addTextLog_unrecorded (lab : Lab) (config : Config) (n : Nat)
    (h : lab.sinks.count (.recorder n) = 0 ∧ lab.outlets.records n = []) :
    (lab.addTextLog config).1.sinks.count (.recorder n) = 0 ∧
      (lab.addTextLog config).1.outlets.records n = [] := by
  unfold addTextLog
  repeat' split
  · exact h
  · exact ⟨List.count_append.trans (congrArg (· + 0) h.1), h.2⟩
  · exact h

/-- No recorder listens to a new target, and none has received anything. -/
theorem Initial.unrecorded {lab : Lab} (h : Initial lab) (n : Nat) :
    lab.sinks.count (.recorder n) = 0 ∧ lab.outlets.records n = [] := by
  cases h with
  | new => exact ⟨rfl, rfl⟩
  | @configured config setup files now lab h =>
    have hlog := addTextLog_unrecorded (Lab.new config.name setup files now) config n ⟨rfl, rfl⟩
    unfold ofConfig at h
    simp only at h
    split at h
    · cases h
    · next after hadd =>
      rw [hadd] at hlog
      simp only [Except.ok.injEq] at h
      subst h
      cases config.eventLog with
      | none => exact hlog
      | some path => exact ⟨List.count_append.trans (congrArg (· + 0) hlog.1), hlog.2⟩

end Lab

/-! ## What tells nobody of anything -/

/-- An operation that takes no report, fills no slot and empties none. -/
inductive Lab.Mute (lab : Lab) : Operation → Prop where
  | install (label : String) (part : Part) (fittings : Fittings) :
    Mute lab (.install label part fittings)
  | addSink (sink : Sink) : Mute lab (.addSink sink)
  | refusedAttach {x : Attachment} {failure : Failure}
    (h : (lab.attachLabelled x).2 = .error failure) : Mute lab (.attach x)
  | refusedAct {request : Request} {refusal : Refusal}
    (h : (lab.act request).2 = .error (.refused refusal)) : Mute lab (.act request)
  | initialized (h : lab.target.initialized = true) : Mute lab .init
  | unset (h : lab.target.setup = none) : Mute lab .init
  | vacant (h : lab.target.slots.attached = []) : Mute lab .shutdown
  | released {told : Except Failure Unit} (h : lab.wait? = some told) (states : List State) :
    Mute lab (.wait states)
  | waitFor (limit : Duration) (now : Instant) : Mute lab (.waitFor limit now)
  | setEntry (key : String) (value : Json) : Mute lab (.setEntry key value)
  | removeEntry (key : String) : Mute lab (.removeEntry key)
  | arm (handle : Nat) (fault : BackendFault) : Mute lab (.arm handle fault)
  | load (handle : Nat) (address : UInt64) (data : List UInt8) :
    Mute lab (.load handle address data)

theorem Slots.eq_empty_of_attached {slots : Slots Device} (h : slots.attached = []) :
    slots = .empty := by
  funext k
  have hk : k ∉ slots.attached := by
    rw [h]
    exact List.not_mem_nil
  rw [Slots.mem_attached, Slots.has] at hk
  cases hslot : slots k with
  | none => rfl
  | some device =>
    rw [hslot] at hk
    exact absurd rfl hk

theorem tale_of_mute {lab : Lab} {operation : Operation} (h : lab.Mute operation) :
    tale (lab.trail operation) = [] := by
  cases h with
  | @refusedAttach x failure h =>
    rw [Lab.trail, Lab.attachTrail]
    rcases hattach : lab.attachLabelled x with ⟨after, outcome⟩
    rw [hattach] at h
    rw [show outcome = .error failure from h]
    rfl
  | @refusedAct request refusal h =>
    rw [Lab.trail, Lab.actTrail]
    cases hslot : lab.target.slots request.action.capability with
    | none => rfl
    | some device =>
      by_cases hstate : lab.target.cell.state = request.action.required
      · -- a request that is let through is answered by the device
        rw [Lab.act_of_passes hslot hstate, Lab.serve_outcome] at h
        generalize (Bench.serve _ device request).outcome = outcome at h
        cases outcome with
        | ok reply => cases h
        | error fault => cases h
      · rw [Action.check_some, if_neg hstate]
        rfl
  | initialized h =>
    rw [Lab.trail, Lab.initTrail, if_pos h]
    rfl
  | unset h =>
    rw [Lab.trail, Lab.initTrail, h]
    split <;> rfl
  | vacant h =>
    rw [Lab.trail, Lab.shutdownTrail, Slots.eq_empty_of_attached h]
    rfl
  | released h states =>
    rw [Lab.trail, h]
    rfl
  | _ => rfl

/-! ## The audit -/

/-- What a listener makes out of what it has received: every event is about the target, every
change fits the picture that the ones before it have led to, and the last picture is true. -/
structure Audited (lab : Lab) (events : List Event) : Prop where
  named : ∀ e ∈ events, e.target = lab.target.name
  replayed : ∃ p, Picture.blank.replay? (events.map Event.change) = some p ∧
    p.state = lab.target.cell.state ∧ p.attached = lab.target.slots.attached

/-- What an operation adds to what a listener has received: one event for each report that is taken
in the course of it, for each attachment that is accepted and for each occupied slot that is
emptied. -/
structure Adds (lab : Lab) (operation : Operation) (before after : List Event) : Prop where
  events : ∃ events, after = before ++ events ∧
    (events.map Event.change).Perm (tale (lab.trail operation))
  mute : lab.Mute operation → after = before

structure AuditLaw (n : Nat) (start : Lab) (operations : List Operation) : Prop where
  boundary : ∀ before after, operations = before ++ after →
    Audited (start.run before) ((start.run before).outlets.records n)
  step : ∀ before operation after, operations = before ++ operation :: after →
    Adds (start.run before) operation ((start.run before).outlets.records n)
      ((start.run (before ++ [operation])).outlets.records n)

structure Listens (n : Nat) (lab : Lab) : Prop where
  once : lab.sinks.count (.recorder n) = 1
  named : ∀ e ∈ lab.outlets.records n, e.target = lab.target.name
  replayed : Picture.blank.replay? ((lab.outlets.records n).map Event.change) = some lab.picture

namespace Listens

variable {n : Nat} {lab : Lab}

theorem audited (h : Listens n lab) : Audited lab (lab.outlets.records n) :=
  ⟨h.named, lab.picture, h.replayed, rfl, rfl⟩

/-- The recorder receives the changes that the sinks are told of, and follows them. -/
theorem hear (h : Listens n lab) {changes : List Change} {after : Lab}
    (htold : Lab.Told lab changes after)
    (hreplay : lab.picture.replay? changes = some after.picture) :
    Listens n after ∧ ∃ events, after.outlets.records n = lab.outlets.records n ++ events ∧
      events.map Event.change = changes := by
  have hrecords := htold.records h.once
  have hchanges : (changes.map fun c => (⟨lab.target.name, c, lab.now⟩ : Event)).map Event.change =
      changes := by
    rw [List.map_map]
    exact List.map_id changes
  refine ⟨⟨?_, fun e he => ?_, ?_⟩, _, hrecords, hchanges⟩
  · rw [htold.sinks]
    exact h.once
  · rw [hrecords] at he
    rw [htold.name]
    rcases List.mem_append.mp he with hold | hnew
    · exact h.named e hold
    · obtain ⟨c, -, rfl⟩ := List.mem_map.mp hnew
      rfl
  · rw [hrecords, List.map_append, hchanges, Picture.replay?_append, h.replayed]
    exact hreplay

/-- An operation about the sinks or the entries tells nobody of anything.  The recorder may not be
added once more, since it would hear of everything twice. -/
theorem aside (h : Listens n lab) {operation : Operation} (hop : operation ≠ .addSink (.recorder n))
    (haside : operation.aside = true) :
    Listens n (lab.perform operation).1 ∧
      (lab.perform operation).1.outlets = lab.outlets ∧ tale (lab.trail operation) = [] := by
  cases operation with
  | addSink sink =>
    have hne : sink ≠ .recorder n := fun heq => hop (congrArg Operation.addSink heq)
    have honce : (lab.sinks ++ [sink]).count (.recorder n) = 1 := by
      rw [List.count_append, List.count_cons_of_ne hne, h.once]
      rfl
    exact ⟨⟨honce, h.named, h.replayed⟩, rfl, rfl⟩
  | setEntry key value => exact ⟨⟨h.once, h.named, h.replayed⟩, rfl, rfl⟩
  | removeEntry key => exact ⟨⟨h.once, h.named, h.replayed⟩, rfl, rfl⟩
  | _ => cases haside

theorem perform (h : Listens n lab) {operation : Operation}
    (hop : operation ≠ .addSink (.recorder n)) :
    Listens n (lab.perform operation).1 ∧
      Adds lab operation (lab.outlets.records n) ((lab.perform operation).1.outlets.records n) := by
  cases haside : operation.aside with
  | true =>
    obtain ⟨hafter, houtlets, htale⟩ := h.aside hop haside
    rw [houtlets]
    refine ⟨hafter, ⟨[], (List.append_nil _).symm, ?_⟩, fun _ => rfl⟩
    rw [htale]
    exact .refl []
  | false =>
    obtain ⟨changes, htold, -, hreplay, hperm⟩ := (Abreast.perform (.refl lab) haside).1.told
    obtain ⟨hafter, events, hrecords, rfl⟩ := h.hear htold hreplay
    refine ⟨hafter, ⟨events, hrecords, hperm⟩, fun hmute => ?_⟩
    rw [tale_of_mute hmute] at hperm
    have hnone : events = [] := List.map_eq_nil_iff.mp hperm.eq_nil
    rw [hrecords, hnone, List.append_nil]

theorem run (h : Listens n lab) {operations : List Operation}
    (hops : .addSink (.recorder n) ∉ operations) : Listens n (lab.run operations) := by
  induction operations generalizing lab with
  | nil => exact h
  | cons operation rest ih =>
    rw [List.mem_cons, not_or] at hops
    obtain ⟨hop, hrest⟩ := hops
    exact ih (h.perform (Ne.symm hop)).1 hrest

end Listens

/-- A recorder is a listener if it is added to a new target, once, among any other sinks. -/
theorem Lab.Initial.listens {start : Lab} (hstart : start.Initial) {sinks : List Sink} {n : Nat}
    (hn : sinks.count (.recorder n) = 1) : Listens n (start.run (sinks.map .addSink)) := by
  obtain ⟨hcount, hrecords⟩ := hstart.unrecorded n
  obtain ⟨hcell, hslots, -⟩ := hstart.fresh
  rw [run_addSinks]
  refine ⟨?_, ?_, ?_⟩
  · show (start.sinks ++ sinks).count (.recorder n) = 1
    rw [List.count_append, hcount, hn]
  · intro e he
    rw [hrecords] at he
    cases he
  · have hblank : start.picture = .blank := by
      rw [Lab.picture, hcell, hslots]
      rfl
    show Picture.blank.replay? ((start.outlets.records n).map Event.change) = some start.picture
    rw [hrecords, hblank]
    rfl

/-- At every point between two operations of a run, what a listener has received reconstructs the
target.  The recorder listens from before the first operation on, and may have any company. -/
theorem audit_replay {start : Lab} (hstart : start.Initial) {sinks : List Sink} {n : Nat}
    (hn : sinks.count (.recorder n) = 1) {operations : List Operation}
    (hops : .addSink (.recorder n) ∉ operations) :
    AuditLaw n (start.run (sinks.map .addSink)) operations := by
  have hlistens := hstart.listens hn
  constructor
  · rintro before after rfl
    have hbefore : .addSink (.recorder n) ∉ before :=
      fun hmem => hops (List.mem_append_left after hmem)
    exact (hlistens.run hbefore).audited
  · rintro before operation after rfl
    have hbefore : .addSink (.recorder n) ∉ before :=
      fun hmem => hops (List.mem_append_left _ hmem)
    have hop : operation ≠ .addSink (.recorder n) :=
      fun heq => hops (heq ▸ List.mem_append_right before List.mem_cons_self)
    rw [Lab.run_append]
    exact ((hlistens.run hbefore).perform hop).2

namespace Lab

/-- A target whose setup fails once, with nobody listening yet. -/
def unheard : Lab :=
  .new "unit"
    (some (Rehearsal.setup
      { failures := 1, nested := true, states := [.initialized],
        attachments := [⟨.execution, "cpu", .plain⟩], attachesBeforeFailing := false,
        failure := .initFailed "unit" "not ready" }))
    ⟨[], []⟩ .epoch

/-- Two sinks that fail, and a recorder between them. -/
def company : List Sink :=
  [.broken (.initFailed "unit" "closed"), .recorder 7,
    .fitful 0 [1, 2] (.initFailed "unit" "closed")]

/-- One attachment is refused, and one initialization fails. -/
def errands : List Operation :=
  [.attach ⟨.memory, "ram", .plain⟩, .attach ⟨.memory, "rom", .plain⟩, .init, .init,
    .report .stopped, .act (.processor .cont), .setEntry "note" .null, .shutdown]

end Lab

theorem audit_replay_errands :
    Lab.unheard.Initial ∧ Lab.company.count (.recorder 7) = 1 ∧
      .addSink (.recorder 7) ∉ Lab.errands ∧
      AuditLaw 7 (Lab.unheard.run (Lab.company.map .addSink)) Lab.errands ∧
      (((Lab.unheard.run (Lab.company.map .addSink)).run Lab.errands).outlets.records 7).map
          Event.change =
        [.attached .memory, .state .created .initialized, .state .initialized .initialized,
          .attached .execution, .state .initialized .stopped, .state .stopped .running,
          .detached .execution, .detached .memory] := by
  have hops : .addSink (.recorder 7) ∉ Lab.errands := by simp [Lab.errands]
  exact ⟨.new .., by decide, hops, audit_replay (.new ..) (by decide) hops, rfl⟩

end TargetControl
