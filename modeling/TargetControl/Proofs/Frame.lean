import TargetControl.Operation

/-!
What the moves of a lab change, and what they leave alone.

A report changes the pair of the target and what the sinks have taken.  Handing a request to a
device changes that device.  A release does both.  Everything else stays, and the lemmas here say
so once for each move, so that no later proof opens one.

`Told` is the frame of the sinks: between two labs they have heard of some changes, in that order,
and of nothing else.
-/

namespace TargetControl

/-! ## The pair -/

namespace Cell

/-- The pair after some reports. -/
def publishAll (states : List State) (c : Cell) : Cell := states.foldl (fun c s => c.publish s) c

@[simp] theorem publishAll_nil (c : Cell) : publishAll [] c = c := rfl

@[simp] theorem publishAll_cons (s : State) (states : List State) (c : Cell) :
    publishAll (s :: states) c = publishAll states (c.publish s) := rfl

/-- The last report decides the pair, if there is one. -/
theorem publishAll_eq (states : List State) (c : Cell) :
    publishAll states c =
      match states.getLast? with
      | none => c
      | some s => ⟨s, true⟩ := by
  induction states generalizing c with
  | nil => rfl
  | cons s rest ih =>
    rw [publishAll_cons, ih, List.getLast?_cons]
    cases rest.getLast? with
    | none => rfl
    | some last => rfl

end Cell

namespace Lab

/-! ## Reports -/

@[simp] theorem tell_target (lab : Lab) (c : Change) : (lab.tell c).target = lab.target := rfl

@[simp] theorem tell_bench (lab : Lab) (c : Change) : (lab.tell c).bench = lab.bench := rfl

@[simp] theorem setBench_target (lab : Lab) (b : Bench) : (lab.setBench b).target = lab.target :=
  rfl

@[simp] theorem setBench_bench (lab : Lab) (b : Bench) : (lab.setBench b).bench = b := rfl

@[simp] theorem setCell_bench (lab : Lab) (c : Cell) : (lab.setCell c).bench = lab.bench := rfl

@[simp] theorem setCell_target (lab : Lab) (c : Cell) :
    (lab.setCell c).target = { lab.target with cell := c } := rfl

@[simp] theorem report_target (lab : Lab) (s : State) :
    (lab.report s).target = { lab.target with cell := lab.target.cell.publish s } := rfl

@[simp] theorem report_bench (lab : Lab) (s : State) : (lab.report s).bench = lab.bench := rfl

@[simp] theorem reportAll_nil (lab : Lab) : lab.reportAll [] = lab := rfl

@[simp] theorem reportAll_cons (lab : Lab) (s : State) (states : List State) :
    lab.reportAll (s :: states) = (lab.report s).reportAll states := rfl

theorem reportAll_append (lab : Lab) (first second : List State) :
    lab.reportAll (first ++ second) = (lab.reportAll first).reportAll second := List.foldl_append

/-- Reports change the pair of the target only. -/
@[simp] theorem reportAll_target (lab : Lab) (states : List State) :
    (lab.reportAll states).target =
      { lab.target with cell := Cell.publishAll states lab.target.cell } := by
  induction states generalizing lab with
  | nil => rfl
  | cons s rest ih => rw [reportAll_cons, ih, report_target, Cell.publishAll_cons]

@[simp] theorem reportAll_bench (lab : Lab) (states : List State) :
    (lab.reportAll states).bench = lab.bench := by
  induction states generalizing lab with
  | nil => rfl
  | cons s rest ih => rw [reportAll_cons, ih, report_bench]

/-! ## Slots -/

@[simp] theorem fillSlot_target (lab : Lab) (kind : Capability) (device : Device) :
    (lab.fillSlot kind device).target =
      { lab.target with slots := lab.target.slots.fill kind device } := rfl

@[simp] theorem fillSlot_bench (lab : Lab) (kind : Capability) (device : Device) :
    (lab.fillSlot kind device).bench = lab.bench := rfl

/-- What the slots hold once one of them has been filled and that has been told. -/
theorem slots_attached (lab : Lab) (kind : Capability) (device : Device) (k : Capability) :
    ((lab.fillSlot kind device).tell (.attached kind)).target.slots k =
      if k = kind then some device else lab.target.slots k := rfl

@[simp] theorem takeSlots_target (lab : Lab) :
    lab.takeSlots.target = { lab.target with slots := .empty } := rfl

@[simp] theorem takeSlots_bench (lab : Lab) : lab.takeSlots.bench = lab.bench := rfl

/-- An attachment to an occupied slot is refused and changes nothing. -/
theorem attach_of_has {lab : Lab} {kind : Capability} (h : lab.target.slots.has kind = true)
    (device : Device) :
    lab.attach kind device = (lab, .error (.alreadyAttached lab.target.name kind)) := if_pos h

/-- An attachment to an empty slot fills it and is told. -/
theorem attach_of_none {lab : Lab} {kind : Capability} (h : lab.target.slots kind = none)
    (device : Device) :
    lab.attach kind device = ((lab.fillSlot kind device).tell (.attached kind), .ok ()) := by
  rw [attach, Slots.has_of_none h]
  rfl

@[simp] theorem release_none (lab : Lab) (kind : Capability) : lab.release kind none = lab := rfl

theorem release_some (lab : Lab) (kind : Capability) (device : Device) :
    lab.release kind (some device) =
      ((lab.setBench (lab.bench.shutdown device).bench).reportAll
        (lab.bench.shutdown device).states).tell (.detached kind) := rfl

@[simp] theorem releaseAll_nil (lab : Lab) (slots : Slots Device) : lab.releaseAll slots [] = lab :=
  rfl

@[simp] theorem releaseAll_cons (lab : Lab) (slots : Slots Device) (kind : Capability)
    (kinds : List Capability) :
    lab.releaseAll slots (kind :: kinds) = (lab.release kind (slots kind)).releaseAll slots kinds :=
  rfl

/-- A release changes the pair of the target only. -/
theorem release_target (lab : Lab) (kind : Capability) (slot : Option Device) :
    ∃ cell, (lab.release kind slot).target = { lab.target with cell } := by
  cases slot with
  | none => exact ⟨lab.target.cell, rfl⟩
  | some device =>
    rw [release_some, tell_target, reportAll_target, setBench_target]
    exact ⟨_, rfl⟩

theorem releaseAll_target (lab : Lab) (slots : Slots Device) (kinds : List Capability) :
    ∃ cell, (lab.releaseAll slots kinds).target = { lab.target with cell } := by
  induction kinds generalizing lab with
  | nil => exact ⟨lab.target.cell, rfl⟩
  | cons kind kinds ih =>
    obtain ⟨first, hfirst⟩ := release_target lab kind (slots kind)
    obtain ⟨cell, hcell⟩ := ih (lab.release kind (slots kind))
    rw [releaseAll_cons, hcell, hfirst]
    exact ⟨cell, rfl⟩

/-- A shutdown empties the slots, and otherwise changes the pair of the target only. -/
theorem shutdown_target (lab : Lab) :
    ∃ cell, lab.shutdown.target = { lab.target with cell, slots := .empty } :=
  releaseAll_target lab.takeSlots lab.target.slots Capability.all

/-! ## Requests -/

/-- A request that is let through goes to the device in its slot. -/
theorem act_of_passes {lab : Lab} {request : Request} {device : Device}
    (hslot : lab.target.slots request.action.capability = some device)
    (hstate : lab.target.cell.state = request.action.required) :
    lab.act request = (lab.setCell (request.action.mark lab.target.cell)).serve device request := by
  simp only [act, hslot, Action.check_some, if_pos hstate]

/-- A request whose slot is empty is refused. -/
theorem act_of_vacant {lab : Lab} {request : Request}
    (hslot : lab.target.slots request.action.capability = none) :
    lab.act request =
      (lab, .error (.refused ⟨request.action.name, .unavailable request.action.capability⟩)) := by
  simp only [act, hslot, Action.check_none]

/-- A request that the state of the target does not allow is refused. -/
theorem act_of_wrongState {lab : Lab} {request : Request} {device : Device}
    (hslot : lab.target.slots request.action.capability = some device)
    (hstate : lab.target.cell.state ≠ request.action.required) :
    lab.act request = (lab, .error (.refused ⟨request.action.name,
      .wrongState request.action.required lab.target.cell.state⟩)) := by
  simp only [act, hslot, Action.check_some, if_neg hstate]

/-- A device that serves a request changes the pair of the target only. -/
theorem serve_target (lab : Lab) (device : Device) (request : Request) :
    (lab.serve device request).1.target =
      { lab.target with
        cell := Cell.publishAll (lab.bench.serve device request).states lab.target.cell } :=
  reportAll_target (lab.setBench _) _

theorem serve_bench (lab : Lab) (device : Device) (request : Request) :
    (lab.serve device request).1.bench = (lab.bench.serve device request).bench :=
  reportAll_bench (lab.setBench _) _

theorem serve_outcome (lab : Lab) (device : Device) (request : Request) :
    (lab.serve device request).2 = (lab.bench.serve device request).outcome.mapError .backend := rfl

/-- A request changes the pair of the target only. -/
theorem act_target (lab : Lab) (request : Request) :
    ∃ cell, (lab.act request).1.target = { lab.target with cell } := by
  cases hslot : lab.target.slots request.action.capability with
  | none =>
    rw [act_of_vacant hslot]
    exact ⟨lab.target.cell, rfl⟩
  | some device =>
    by_cases hstate : lab.target.cell.state = request.action.required
    · rw [act_of_passes hslot hstate, serve_target]
      exact ⟨_, rfl⟩
    · rw [act_of_wrongState hslot hstate]
      exact ⟨lab.target.cell, rfl⟩

/-- The bench on which an attachment finds its device, and that device. -/
def obtained (lab : Lab) (a : Attachment) : Bench × Device :=
  lab.bench.obtain a.label a.kind.part a.fittings

theorem attachLabelled_eq (lab : Lab) (a : Attachment) :
    lab.attachLabelled a = (lab.setBench (lab.obtained a).1).attach a.kind (lab.obtained a).2 := rfl

/-- An attachment changes the slots of the target only. -/
theorem attachLabelled_target (lab : Lab) (a : Attachment) :
    ∃ slots, (lab.attachLabelled a).1.target = { lab.target with slots } := by
  rw [attachLabelled_eq]
  cases h : lab.target.slots a.kind with
  | some held =>
    have hhas : (lab.setBench (lab.obtained a).1).target.slots.has a.kind = true :=
      Slots.has_of_some h
    rw [attach_of_has hhas]
    exact ⟨lab.target.slots, rfl⟩
  | none =>
    have hnone : (lab.setBench (lab.obtained a).1).target.slots a.kind = none := h
    rw [attach_of_none hnone, tell_target, fillSlot_target]
    exact ⟨_, rfl⟩

/-! ## Waiting -/

/-- Whatever the waiter is told, the reports are all taken. -/
theorem waitThrough_fst (lab : Lab) (states : List State) :
    (lab.waitThrough states).1 = lab.reportAll states := by
  induction states generalizing lab with
  | nil => rfl
  | cons s rest ih =>
    rw [reportAll_cons, ← ih]
    rfl

theorem perform_wait (lab : Lab) (states : List State) :
    lab.perform (.wait states) =
      ((lab.wait states).1,
        match (lab.wait states).2 with
        | some told => told.map fun _ => .done
        | none => .ok .blocked) := by
  rw [perform]
  cases lab.wait states with
  | mk after told => cases told <;> rfl

section Limit

variable {lab : Lab} {told : Except Failure Unit} {limit : Duration} {deadline : Option Instant}
  {now : Instant}

/-- A look at a pair that releases the waiter does not come to the clock. -/
theorem look_of_told (h : lab.wait? = some told) : lab.look limit deadline now = some told := by
  unfold look
  rw [h]

theorem look_of_early (h : lab.wait? = none) (hearly : ∀ d ∈ deadline, now.nanos < d.nanos) :
    lab.look limit deadline now = none := by
  unfold look
  rw [h]
  cases deadline with
  | none => rfl
  | some d => exact if_neg (Nat.not_le.mpr (hearly d rfl))

theorem look_of_late (h : lab.wait? = none) {d : Instant} (hlate : d.nanos ≤ now.nanos) :
    lab.look limit (some d) now = some (.error (.timedOut lab.target.name limit)) := by
  unfold look
  rw [h]
  exact if_pos hlate

theorem waitUntil_of_some (h : lab.look limit deadline now = some told) (naps : List Nap) :
    waitUntil limit deadline now naps lab = (lab, some told) := by
  cases naps with
  | nil => rw [waitUntil, h]
  | cons nap rest => rw [waitUntil, h]

theorem waitUntil_of_none (h : lab.look limit deadline now = none) (nap : Nap) (rest : List Nap) :
    waitUntil limit deadline now (nap :: rest) lab =
      waitUntil limit deadline nap.woken rest (lab.reportAll nap.states) := by
  rw [waitUntil, h]

/-- Where nobody reports, the first look decides, or else the deadline if there is one. -/
theorem waitFor_eq (lab : Lab) (limit : Duration) (now : Instant) :
    lab.waitFor limit now =
      (lab, lab.wait?.or
        ((now.after? limit).map fun _ => .error (.timedOut lab.target.name limit))) := by
  rw [waitFor]
  cases hwait : lab.wait? with
  | some told => exact waitUntil_of_some (look_of_told hwait) _
  | none =>
    cases now.after? limit with
    | none => exact congrArg (lab, ·) (look_of_early hwait nofun)
    | some d =>
      by_cases hlate : d.nanos ≤ now.nanos
      · exact waitUntil_of_some (look_of_late hwait hlate) _
      · have hearly : lab.look limit (some d) now = none :=
          look_of_early hwait fun _ heq => Option.some.inj heq ▸ Nat.not_le.mp hlate
        exact (waitUntil_of_none hearly _ []).trans
          (waitUntil_of_some (look_of_late hwait (Nat.le_refl d.nanos)) [])

theorem perform_waitFor (lab : Lab) (limit : Duration) (now : Instant) :
    lab.perform (.waitFor limit now) =
      (lab,
        match (lab.waitFor limit now).2 with
        | some told => told.map fun _ => .done
        | none => .ok .blocked) := by
  rw [perform, waitFor_eq]
  cases lab.wait?.or _ <;> rfl

end Limit

/-! ## What the sinks are told -/

/-- The changes that reports make, one after another. -/
def transitions : State → List State → List Change
  | _, [] => []
  | before, after :: rest => .state before after :: transitions after rest

/-- From one lab to another the sinks have been told of some changes, in this order and of nothing
else, and the same sinks listen to the same target. -/
structure Told (a : Lab) (changes : List Change) (b : Lab) : Prop where
  sinks : b.sinks = a.sinks
  name : b.target.name = a.target.name
  now : b.now = a.now
  outlets : b.outlets =
    changes.foldl (fun o c => Sink.dispatch a.sinks ⟨a.target.name, c, a.now⟩ o) a.outlets

namespace Told

theorem refl (a : Lab) : Told a [] a := ⟨rfl, rfl, rfl, rfl⟩

theorem trans {a b c : Lab} {first second : List Change} (hab : Told a first b)
    (hbc : Told b second c) : Told a (first ++ second) c := by
  refine ⟨hbc.sinks.trans hab.sinks, hbc.name.trans hab.name, hbc.now.trans hab.now, ?_⟩
  rw [hbc.outlets, hab.outlets, hab.sinks, hab.name, hab.now, List.foldl_append]

/-- What tells of nothing adds nothing. -/
theorem quiet {a b c : Lab} {changes : List Change} (hab : Told a changes b)
    (hbc : Told b [] c) : Told a changes c := by
  have hac := hab.trans hbc
  rwa [List.append_nil] at hac

theorem tell (a : Lab) (c : Change) : Told a [c] (a.tell c) := ⟨rfl, rfl, rfl, rfl⟩

theorem setBench (a : Lab) (b : Bench) : Told a [] (a.setBench b) := ⟨rfl, rfl, rfl, rfl⟩

theorem setCell (a : Lab) (c : Cell) : Told a [] (a.setCell c) := ⟨rfl, rfl, rfl, rfl⟩

theorem takeSlots (a : Lab) : Told a [] a.takeSlots := ⟨rfl, rfl, rfl, rfl⟩

/-- Reports are told one by one, each with the state that it replaces. -/
theorem reportAll (a : Lab) (states : List State) :
    Told a (transitions a.target.cell.state states) (a.reportAll states) := by
  induction states generalizing a with
  | nil => exact refl a
  | cons s rest ih =>
    have hfirst : Told a [.state a.target.cell.state s] (a.report s) := ⟨rfl, rfl, rfl, rfl⟩
    exact hfirst.trans (ih (a.report s))

/-- A release is told after the reports that the device makes meanwhile. -/
theorem release (a : Lab) (kind : Capability) (device : Device) :
    Told a (transitions a.target.cell.state (a.bench.shutdown device).states ++ [.detached kind])
      (a.release kind (some device)) := by
  rw [release_some]
  have hreports := (setBench a (a.bench.shutdown device).bench).trans
    (reportAll (a.setBench (a.bench.shutdown device).bench) (a.bench.shutdown device).states)
  exact hreports.trans (tell _ _)

/-- A recorder that is one of the sinks has received each of the changes once, and in order. -/
theorem records {a b : Lab} {changes : List Change} (h : Told a changes b) {n : Nat}
    (hn : a.sinks.count (.recorder n) = 1) :
    b.outlets.records n =
      a.outlets.records n ++ changes.map fun c => ⟨a.target.name, c, a.now⟩ := by
  rw [h.outlets]
  clear h
  generalize a.outlets = o
  induction changes generalizing o with
  | nil => exact (List.append_nil _).symm
  | cons c rest ih =>
    have hfirst : (Sink.dispatch a.sinks ⟨a.target.name, c, a.now⟩ o).records n =
        o.records n ++ [⟨a.target.name, c, a.now⟩] := by
      rw [Sink.records_dispatch, hn, List.replicate_one]
    rw [List.foldl_cons, ih, hfirst, List.append_assoc]
    rfl

end Told

/-- Serving a request tells of the reports that the device makes before it answers. -/
theorem told_serve (a : Lab) (device : Device) (request : Request) :
    Told a (transitions a.target.cell.state (a.bench.serve device request).states)
      (a.serve device request).1 :=
  (Told.setBench a (a.bench.serve device request).bench).trans
    (Told.reportAll (a.setBench (a.bench.serve device request).bench) _)

end Lab
end TargetControl
