import TargetControl.Proofs.Releases

/-!
The ledger of releases over whole runs.

`Registered` is the invariant that carries it: what has a label or stands in a slot has been made,
and what has not been made has not been shut down.  Without it a new device could begin with
shutdowns of its own.  The ledger itself is kept by every move, since a device leaves a slot and is
shut down for it within one move.
-/

namespace TargetControl

/-! ## What has been made -/

/-- Handles are given out in order, so every device that is known has a handle below the next. -/
structure Registered (lab : Lab) : Prop where
  labelled : ∀ label device, Keyed.find? label lab.bench.labels = some device →
    device.2 < lab.bench.installed
  held : ∀ kind device, lab.target.slots kind = some device → device.2 < lab.bench.installed
  unmade : ∀ part handle, lab.bench.installed ≤ handle → lab.bench.shutdowns part handle = 0

namespace Registered

variable {a b : Lab}

theorem of_initial (h : a.Initial) : Registered a := by
  obtain ⟨-, hslots, hbench⟩ := h.fresh
  refine ⟨fun label device hfind => ?_, fun kind device hheld => ?_, fun part handle _ => ?_⟩
  · rw [hbench] at hfind
    cases hfind
  · rw [hslots] at hheld
    cases hheld
  · rw [hbench]
    cases part <;> rfl

/-- Without new devices and shutdowns it is enough that the slots hold nothing new. -/
theorem of_steady (h : Registered a) (hslots : b.target.slots = a.target.slots)
    (hbench : Bench.Steady a.bench b.bench) : Registered b := by
  refine ⟨fun label device hfind => ?_, fun kind device hheld => ?_, fun part handle hle => ?_⟩
  · rw [hbench.labels] at hfind
    rw [hbench.installed]
    exact h.labelled label device hfind
  · rw [hslots] at hheld
    rw [hbench.installed]
    exact h.held kind device hheld
  · rw [hbench.installed] at hle
    rw [hbench.shutdowns]
    exact h.unmade part handle hle

theorem install (h : Registered a) (label : String) (part : Part) (fittings : Fittings) :
    Registered (a.setBench (a.bench.install label part fittings).1) := by
  refine ⟨fun label' device hfind => ?_, fun kind device hheld => ?_, fun part' handle hle => ?_⟩
  · rw [Lab.setBench_bench, Bench.install_labels, Keyed.find?_insert] at hfind
    rw [Lab.setBench_bench, Bench.install_installed]
    split at hfind
    · cases hfind
      exact Nat.lt_succ_self _
    · exact Nat.lt_succ_of_lt (h.labelled label' device hfind)
  · rw [Lab.setBench_bench, Bench.install_installed]
    exact Nat.lt_succ_of_lt (h.held kind device hheld)
  · rw [Lab.setBench_bench, Bench.install_installed] at hle
    rw [Lab.setBench_bench, Bench.shutdowns_install]
    split
    · rfl
    · exact h.unmade part' handle (by omega)

theorem attach (h : Registered a) {kind : Capability} {device : Device} {label : String}
    (hlabelled : Keyed.find? label a.bench.labels = some device) :
    Registered ((a.fillSlot kind device).tell (.attached kind)) := by
  refine ⟨h.labelled, fun k d hheld => ?_, h.unmade⟩
  rw [Lab.slots_attached] at hheld
  split at hheld
  · cases hheld
    exact h.labelled label device hlabelled
  · exact h.held k d hheld

/-- What has not been made is in no slot. -/
theorem holding_unmade (h : Registered a) {part : Part} {handle : Nat}
    (hle : a.bench.installed ≤ handle) : a.target.slots.holding (part, handle) = 0 := by
  refine List.countP_eq_zero.mpr fun kind _ hheld => ?_
  have hlt := h.held kind (part, handle) (of_decide_eq_true hheld)
  exact absurd hle (Nat.not_le_of_lt hlt)

theorem shutdown (h : Registered a) : Registered a.shutdown := by
  obtain ⟨hlabels, hinstalled⟩ :
      a.shutdown.bench.labels = a.bench.labels ∧ a.shutdown.bench.installed = a.bench.installed :=
    Lab.releaseAll_registry a.target.slots Capability.all a.takeSlots
  refine ⟨fun label device hfind => ?_, fun kind device hheld => ?_, fun part handle hle => ?_⟩
  · rw [hlabels] at hfind
    rw [hinstalled]
    exact h.labelled label device hfind
  · rw [Lab.shutdown_slots] at hheld
    cases hheld
  · rw [hinstalled] at hle
    rw [Lab.shutdown_shutdowns, h.unmade part handle hle, h.holding_unmade hle]

end Registered

theorem Move.registered {a b : Lab} {moments : List Moment} (hmove : Move False a moments b)
    (h : Registered a) : Registered b := by
  cases hmove with
  | idle hidle => exact h.of_steady hidle.slots hidle.bench
  | install label part fittings => exact h.install label part fittings
  | report s => exact h.of_steady rfl (.refl _)
  | pass slot state => exact h.of_steady rfl (.refl _)
  | attach vacant fits labelled => exact h.attach labelled
  | shutdown => exact h.shutdown
  | close device ht => exact ht.elim

/-! ## The ledger -/

/-- Releases and holdings add up to attachments, for every device. -/
def Balanced (devices : List Device) (lab : Lab) : Prop :=
  ∀ part handle, lab.bench.shutdowns part handle + lab.target.slots.holding (part, handle) =
    devices.count (part, handle)

theorem Balanced.of_initial {lab : Lab} (h : lab.Initial) : Balanced [] lab := by
  obtain ⟨-, hslots, hbench⟩ := h.fresh
  intro part handle
  rw [hslots, hbench]
  cases part <;> rfl

theorem Move.balanced {a b : Lab} {moments : List Moment} {devices : List Device}
    (hmove : Move False a moments b) (hregistered : Registered a) (h : Balanced devices a) :
    Balanced (devices ++ attachments moments) b := by
  have hnil : ∀ lab : Lab, Balanced devices lab → Balanced (devices ++ []) lab := by
    intro lab hlab
    rw [List.append_nil]
    exact hlab
  cases hmove with
  | idle hidle =>
    refine hnil b fun part handle => ?_
    rw [hidle.bench.shutdowns, hidle.slots]
    exact h part handle
  | install label part fittings =>
    refine hnil _ fun part' handle => ?_
    rw [Lab.setBench_bench, Lab.setBench_target, Bench.shutdowns_install]
    split
    · next heq =>
      cases heq
      rw [← h part a.bench.installed, hregistered.unmade part _ (Nat.le_refl _)]
    · exact h part' handle
  | report s => exact hnil _ h
  | pass slot state => exact hnil _ h
  | @attach kind device label vacant fits labelled =>
    intro part handle
    have hheld := Slots.holding_fill vacant device (part, handle)
    have hcount : (devices ++ [device]).count (part, handle) =
        devices.count (part, handle) + if (part, handle) = device then 1 else 0 := by
      rw [List.count_append, List.count_singleton]
      by_cases hd : (part, handle) = device
      · rw [if_pos hd, if_pos (by rw [hd]; exact beq_self_eq_true device)]
      · rw [if_neg hd, if_neg fun heq => hd (eq_of_beq heq).symm]
    show a.bench.shutdowns part handle + (a.target.slots.fill kind device).holding (part, handle) =
      (devices ++ [device]).count (part, handle)
    rw [hheld, hcount, ← h part handle, Nat.add_assoc]
  | shutdown =>
    rw [a.attachments_shutdownTrail]
    refine hnil _ fun part handle => ?_
    rw [Lab.shutdown_shutdowns, Lab.shutdown_slots, Slots.holding_empty, Nat.add_zero]
    exact h part handle
  | close device ht => exact ht.elim

theorem Path.balanced {a b : Lab} {moments : List Moment} {devices : List Device}
    (hpath : Path False a moments b) (hregistered : Registered a) (h : Balanced devices a) :
    Balanced (devices ++ attachments moments) b := by
  induction hpath generalizing devices with
  | refl =>
    rw [attachments, List.filterMap_nil, List.append_nil]
    exact h
  | move hmove _ ih =>
    rw [attachments_append, ← List.append_assoc]
    exact ih (hmove.registered hregistered) (hmove.balanced hregistered h)

/-! ## Empty slots -/

theorem Move.vacant {tampered : Prop} {a b : Lab} {moments : List Moment} {kind : Capability}
    (hmove : Move tampered a moments b) (h : a.target.slots kind = none)
    (hno : ∀ m ∈ moments, ∀ device, m.what ≠ .attached kind device) :
    b.target.slots kind = none := by
  cases hmove with
  | idle hidle =>
    rw [hidle.slots]
    exact h
  | install label part fittings => exact h
  | report s => exact h
  | pass slot state => exact h
  | @attach kind' device label vacant fits labelled =>
    rw [Lab.slots_attached]
    split
    · next heq =>
      subst heq
      exact absurd rfl (hno _ List.mem_cons_self device)
    · exact h
  | shutdown => rw [Lab.shutdown_slots, Slots.empty_apply]
  | close device ht => exact h

/-- A slot stays empty until something is attached to it. -/
theorem Path.vacant {tampered : Prop} {a b : Lab} {moments : List Moment} {kind : Capability}
    (hpath : Path tampered a moments b) (h : a.target.slots kind = none)
    (hno : ∀ m ∈ moments, ∀ device, m.what ≠ .attached kind device) :
    b.target.slots kind = none := by
  induction hpath with
  | refl => exact h
  | move hmove _ ih =>
    have hfirst := hmove.vacant h fun m hm => hno m (List.mem_append_left _ hm)
    exact ih hfirst fun m hm => hno m (List.mem_append_right _ hm)

/-- No request is let through whose slot is empty. -/
theorem Move.unserved {tampered : Prop} {a b : Lab} {moments : List Moment} {kind : Capability}
    (hmove : Move tampered a moments b) (h : a.target.slots kind = none) {m : Moment}
    (hm : m ∈ moments) {request : Request} (hkind : request.terms.kind = kind) :
    m.what ≠ .passed request := by
  intro hpassed
  cases hmove with
  | idle | install | close => cases hm
  | report s =>
    rw [List.mem_singleton.mp hm] at hpassed
    cases hpassed
  | attach vacant fits labelled =>
    rw [List.mem_singleton.mp hm] at hpassed
    cases hpassed
  | pass slot state =>
    rw [List.mem_singleton.mp hm] at hpassed
    cases hpassed
    rw [← hkind, request.terms_eq, slot] at h
    cases h
  | shutdown =>
    rcases Lab.mem_releasesTrail hm with ⟨before, after, hwhat⟩ | ⟨k, device, hwhat⟩ <;>
      rw [hwhat] at hpassed <;> cases hpassed

/-- Until something is attached to an empty slot, no request is let through that needs it. -/
theorem Path.unserved {tampered : Prop} {a b : Lab} {moments : List Moment} {kind : Capability}
    (hpath : Path tampered a moments b) (h : a.target.slots kind = none)
    {before rest : List Moment} (hsplit : moments = before ++ rest)
    (hno : ∀ m ∈ before, ∀ device, m.what ≠ .attached kind device) {m : Moment} (hm : m ∈ before)
    {request : Request} (hkind : request.terms.kind = kind) : m.what ≠ .passed request := by
  induction hpath generalizing before with
  | refl =>
    rw [(List.append_eq_nil_iff.mp hsplit.symm).1] at hm
    cases hm
  | @move a b c first later hmove _ ih =>
    rcases List.append_eq_append_iff.mp hsplit with ⟨more, hbefore, hlater⟩ | ⟨more, hfirst, _⟩
    · -- the whole move lies before the end, so its slot is still empty afterwards
      rw [hbefore] at hm hno
      have hvacant := hmove.vacant h fun m hm => hno m (List.mem_append_left _ hm)
      rcases List.mem_append.mp hm with hm | hm
      · exact hmove.unserved h hm hkind
      · exact ih hvacant hlater (fun m hm => hno m (List.mem_append_right _ hm)) hm
    · rw [hfirst] at hmove
      exact hmove.unserved h (List.mem_append_left _ hm) hkind

/-! ## The law -/

/-- What attaching to an occupied slot and shutting down come to. -/
structure SlotLaw (lab : Lab) : Prop where
  occupied : ∀ kind device, lab.target.slots.has kind = true →
    lab.attach kind device = (lab, .error (.alreadyAttached lab.target.name kind))
  /-- a device may be made for the attachment, which leaves the others as they are -/
  occupiedLabelled : ∀ a : Attachment, lab.target.slots.has a.kind = true →
    lab.attachLabelled a =
      (lab.setBench (lab.obtained a).1, .error (.alreadyAttached lab.target.name a.kind))
  emptied : lab.shutdown.target.slots = .empty
  released : ∀ part handle, lab.shutdown.bench.shutdowns part handle =
    lab.bench.shutdowns part handle + lab.target.slots.holding (part, handle)
  told : ∃ changes, Lab.Told lab changes lab.shutdown ∧
    Lab.Detaches changes lab.target.slots.attached
  again : lab.shutdown.shutdown = lab.shutdown
  /-- after a shutdown and whatever comes next but an attachment of the kind -/
  unavailable : ∀ later kind,
    (∀ m ∈ lab.shutdown.chronicle later, ∀ device, m.what ≠ .attached kind device) →
    ∀ request, request.terms.kind = kind →
      (lab.shutdown.run later).act request = (lab.shutdown.run later,
        .error (.refused ⟨request.terms.name, .unavailable kind⟩))
  /-- also within the operations that come next, such as a setup that makes requests -/
  unserved : ∀ later before rest kind, lab.shutdown.chronicle later = before ++ rest →
    (∀ m ∈ before, ∀ device, m.what ≠ .attached kind device) →
    ∀ m ∈ before, ∀ request, request.terms.kind = kind → m.what ≠ .passed request

theorem Lab.slotLaw (lab : Lab) : SlotLaw lab := by
  have hempty : ∀ kind, lab.shutdown.target.slots kind = none := by
    intro kind
    rw [shutdown_slots, Slots.empty_apply]
  refine
    { occupied := fun kind device hhas => attach_of_has hhas device
      occupiedLabelled := fun a hhas => ?_
      emptied := shutdown_slots lab
      released := shutdown_shutdowns lab
      told := told_shutdown lab
      again := shutdown_of_empty (shutdown_slots lab)
      unavailable := fun later kind hno request hkind => ?_
      unserved := fun later before rest kind hsplit hno m hm request hkind =>
        (lab.shutdown.path_run_any later).unserved (hempty kind) hsplit hno hm hkind }
  · have hhas' : (lab.setBench (lab.obtained a).1).target.slots.has a.kind = true := hhas
    rw [attachLabelled_eq, attach_of_has hhas', setBench_target]
  · have hvacant := (lab.shutdown.path_run_any later).vacant (hempty kind) hno
    rw [← hkind] at hvacant ⊢
    exact act_refused_vacant hvacant

/-- In every run in which only the target shuts devices down, each device has been shut down as often
as it has been attached, less the slots that hold it. -/
theorem release_ledger {start : Lab} (hstart : start.Initial) {operations : List Operation}
    (huntampered : ∀ part handle, .close part handle ∉ operations) :
    Balanced (attachments (start.chronicle operations)) (start.run operations) ∧
      SlotLaw (start.run operations) := by
  have hpath : Path False start (start.chronicle operations) (start.run operations) :=
    start.path_run operations (.inr huntampered)
  exact ⟨hpath.balanced (.of_initial hstart) (.of_initial hstart), Lab.slotLaw _⟩

/-- A guest that is attached to two slots, released from both, and attached again. -/
def Lab.revisit : List Operation :=
  [.install "any" .guest .plain, .attach ⟨.execution, "any", .plain⟩,
    .attach ⟨.memory, "any", .plain⟩, .shutdown, .attach ⟨.monitor, "any", .plain⟩]

theorem release_ledger_revisit :
    attachments (Lab.bare.chronicle Lab.revisit) = [(.guest, 0), (.guest, 0), (.guest, 0)] ∧
      (Lab.bare.run Lab.revisit).bench.shutdowns .guest 0 = 2 ∧
      Balanced (attachments (Lab.bare.chronicle Lab.revisit)) (Lab.bare.run Lab.revisit) ∧
      SlotLaw (Lab.bare.run Lab.revisit) :=
  ⟨rfl, rfl, release_ledger Lab.initial_bare (by simp [Lab.revisit])⟩

end TargetControl
