import TargetControl.Proofs.Guarding

/-!
The ledger of releases.

Each time a device is attached it goes into a slot, and each time a target lets go of it, it is shut
down.  So in a run in which nobody else shuts devices down, the times a device has been shut down
and the slots that hold it add up to the times it has been attached.

A shutdown of the target takes every slot, whatever becomes of the single releases.  The slots stay
empty until something is attached again, and a shutdown of empty slots is nothing at all.
-/

namespace TargetControl

/-! ## Holdings -/

/-- How many slots hold a device. -/
def Slots.holding (slots : Slots Device) (device : Device) : Nat :=
  Capability.all.countP fun kind => slots kind = some device

@[simp] theorem Slots.holding_empty (device : Device) : Slots.empty.holding device = 0 := rfl

theorem Slots.countP_fill {slots : Slots Device} {kind : Capability} (held device : Device)
    {kinds : List Capability} (hkind : kind ∉ kinds) :
    kinds.countP (fun k => slots.fill kind held k = some device) =
      kinds.countP fun k => slots k = some device := by
  refine List.countP_congr fun k hk => ?_
  have hne : k ≠ kind := fun heq => hkind (heq ▸ hk)
  rw [Slots.fill_apply, if_neg hne]

/-- Filling an empty slot adds to what is held of one device. -/
theorem Slots.holding_fill {slots : Slots Device} {kind : Capability} (h : slots kind = none)
    (held device : Device) :
    (slots.fill kind held).holding device =
      slots.holding device + if device = held then 1 else 0 := by
  -- the slot in question stands between slots that stay as they are
  obtain ⟨before, after, hall, hbefore, hafter⟩ :
      ∃ before after, Capability.all = before ++ kind :: after ∧ kind ∉ before ∧ kind ∉ after := by
    have hnodup : Capability.all.Nodup := by decide
    obtain ⟨before, after, hall⟩ := List.append_of_mem (Capability.mem_all kind)
    rw [hall, List.nodup_append, List.nodup_cons] at hnodup
    obtain ⟨-, ⟨hafter, -⟩, hapart⟩ := hnodup
    exact ⟨before, after, hall, fun hk => hapart kind hk kind List.mem_cons_self rfl, hafter⟩
  have hfill : slots.fill kind held kind = some held := if_pos rfl
  rw [holding, holding, hall, List.countP_append, List.countP_append, List.countP_cons,
    List.countP_cons, countP_fill held device hbefore, countP_fill held device hafter, hfill, h]
  by_cases hd : device = held
  · rw [hd]
    simp
    omega
  · have hd' : held ≠ device := fun heq => hd heq.symm
    simp [hd, hd']

/-! ## Attachments and shutdowns -/

def Happening.attached? : Happening → Option Device
  | .attached _ device => some device
  | .reported .. | .passed _ | .released .. => none

/-- The devices that are attached in the course of some moments, once for each time. -/
def attachments (moments : List Moment) : List Device :=
  moments.filterMap fun m => m.what.attached?

theorem attachments_append (first second : List Moment) :
    attachments (first ++ second) = attachments first ++ attachments second :=
  List.filterMap_append

namespace Lab

theorem mem_reportTrail {lab : Lab} {states : List State} {m : Moment}
    (h : m ∈ lab.reportTrail states) : ∃ before after, m.what = .reported before after := by
  induction states generalizing lab with
  | nil => cases h
  | cons s rest ih =>
    rcases List.mem_cons.mp h with rfl | hrest
    · exact ⟨_, _, rfl⟩
    · exact ih hrest

/-- In a release a device is shut down and may report.  Nothing is attached or let through. -/
theorem mem_releaseTrail {lab : Lab} {kind : Capability} {slot : Option Device} {m : Moment}
    (h : m ∈ lab.releaseTrail kind slot) :
    (∃ before after, m.what = .reported before after) ∨ ∃ k device, m.what = .released k device := by
  cases slot with
  | none => cases h
  | some device =>
    rcases List.mem_cons.mp h with rfl | hrest
    · exact Or.inr ⟨kind, device, rfl⟩
    · exact Or.inl (mem_reportTrail hrest)

theorem mem_releasesTrail {slots : Slots Device} {kinds : List Capability} {lab : Lab} {m : Moment}
    (h : m ∈ releasesTrail slots kinds lab) :
    (∃ before after, m.what = .reported before after) ∨ ∃ k device, m.what = .released k device := by
  induction kinds generalizing lab with
  | nil => cases h
  | cons kind kinds ih =>
    rcases List.mem_append.mp h with hfirst | hrest
    · exact mem_releaseTrail hfirst
    · exact ih hrest

theorem attachments_shutdownTrail (lab : Lab) : attachments lab.shutdownTrail = [] := by
  refine List.filterMap_eq_nil_iff.mpr fun m hm => ?_
  rcases mem_releasesTrail hm with ⟨before, after, h⟩ | ⟨kind, device, h⟩ <;> rw [h] <;> rfl

/-- A release counts for the device that is released, whether or not it fails. -/
theorem release_shutdowns (lab : Lab) (kind : Capability) (slot : Option Device) (part : Part)
    (handle : Nat) :
    (lab.release kind slot).bench.shutdowns part handle =
      lab.bench.shutdowns part handle + if slot = some (part, handle) then 1 else 0 := by
  cases slot with
  | none => rfl
  | some device =>
    rw [release_some, tell_bench, reportAll_bench, setBench_bench, Bench.shutdowns_shutdown]
    by_cases h : (part, handle) = device
    · rw [if_pos h, if_pos (by rw [h])]
    · rw [if_neg h, if_neg fun heq => h (Option.some.inj heq).symm]

theorem releaseAll_shutdowns (slots : Slots Device) (kinds : List Capability) (lab : Lab)
    (part : Part) (handle : Nat) :
    (lab.releaseAll slots kinds).bench.shutdowns part handle =
      lab.bench.shutdowns part handle +
        kinds.countP fun kind => slots kind = some (part, handle) := by
  induction kinds generalizing lab with
  | nil => rfl
  | cons kind kinds ih =>
    rw [releaseAll_cons, ih, release_shutdowns, List.countP_cons]
    simp only [decide_eq_true_eq]
    omega

/-- A shutdown shuts each device down once for every slot that held it. -/
theorem shutdown_shutdowns (lab : Lab) (part : Part) (handle : Nat) :
    lab.shutdown.bench.shutdowns part handle =
      lab.bench.shutdowns part handle + lab.target.slots.holding (part, handle) :=
  releaseAll_shutdowns lab.target.slots Capability.all lab.takeSlots part handle

/-- Releases keep of a processor whatever its own shutdown keeps. -/
theorem releaseAll_keeps {β : Type} {f : Processor → β} (hf : ∀ p : Processor, f p.shutdown = f p)
    (slots : Slots Device) (kinds : List Capability) (lab : Lab) (n : Nat) :
    f ((lab.releaseAll slots kinds).bench.processors n) = f (lab.bench.processors n) := by
  induction kinds generalizing lab with
  | nil => rfl
  | cons kind kinds ih =>
    rw [releaseAll_cons, ih]
    cases slots kind with
    | none => rfl
    | some device =>
      rw [release_some, tell_bench, reportAll_bench, setBench_bench]
      obtain ⟨part, k⟩ := device
      cases part with
      | processor => exact Family.put_keeps f (hf _) n
      | _ => rfl

theorem release_registry (lab : Lab) (kind : Capability) (slot : Option Device) :
    (lab.release kind slot).bench.labels = lab.bench.labels ∧
      (lab.release kind slot).bench.installed = lab.bench.installed := by
  cases slot with
  | none => exact ⟨rfl, rfl⟩
  | some device =>
    rw [release_some, tell_bench, reportAll_bench, setBench_bench]
    exact ⟨lab.bench.shutdown_labels device, lab.bench.shutdown_installed device⟩

theorem releaseAll_registry (slots : Slots Device) (kinds : List Capability) (lab : Lab) :
    (lab.releaseAll slots kinds).bench.labels = lab.bench.labels ∧
      (lab.releaseAll slots kinds).bench.installed = lab.bench.installed := by
  induction kinds generalizing lab with
  | nil => exact ⟨rfl, rfl⟩
  | cons kind kinds ih =>
    obtain ⟨hlabels, hinstalled⟩ := release_registry lab kind (slots kind)
    rw [releaseAll_cons, (ih _).1, (ih _).2]
    exact ⟨hlabels, hinstalled⟩

theorem shutdown_slots (lab : Lab) : lab.shutdown.target.slots = .empty := by
  obtain ⟨cell, h⟩ := shutdown_target lab
  rw [h]

/-- There is nothing to shut down where the slots are empty. -/
theorem shutdown_of_empty {lab : Lab} (h : lab.target.slots = .empty) : lab.shutdown = lab := by
  have htake : lab.takeSlots = lab := by
    rw [takeSlots, ← h]
  rw [shutdown, htake, h]
  rfl

end Lab

/-! ## What the sinks are told -/

def Change.detached? : Change → Option Capability
  | .detached kind => some kind
  | .state .. | .attached _ => none

namespace Lab

/-- Some changes are those of a release: reports, and the detachments given. -/
def Detaches (changes : List Change) (kinds : List Capability) : Prop :=
  changes.filterMap Change.detached? = kinds ∧ ∀ c ∈ changes, ∀ kind, c ≠ .attached kind

theorem Detaches.append {first second : List Change} {kinds kinds' : List Capability}
    (h : Detaches first kinds) (h' : Detaches second kinds') :
    Detaches (first ++ second) (kinds ++ kinds') := by
  refine ⟨by rw [List.filterMap_append, h.1, h'.1], fun c hc => ?_⟩
  rcases List.mem_append.mp hc with hfirst | hsecond
  · exact h.2 c hfirst
  · exact h'.2 c hsecond

theorem detaches_transitions (before : State) (states : List State) :
    Detaches (transitions before states) [] := by
  induction states generalizing before with
  | nil => exact ⟨rfl, nofun⟩
  | cons s rest ih =>
    refine ⟨(ih s).1, fun c hc => ?_⟩
    rcases List.mem_cons.mp hc with rfl | hrest
    · exact nofun
    · exact (ih s).2 c hrest

theorem told_release (lab : Lab) (kind : Capability) (slot : Option Device) :
    ∃ changes, Told lab changes (lab.release kind slot) ∧
      Detaches changes (if slot.isSome then [kind] else []) := by
  cases slot with
  | none => exact ⟨[], .refl lab, rfl, nofun⟩
  | some device =>
    have hlast : Detaches [.detached kind] [kind] := by
      refine ⟨rfl, fun c hc => ?_⟩
      rw [List.mem_singleton.mp hc]
      exact nofun
    exact ⟨_, .release lab kind device, (detaches_transitions _ _).append hlast⟩

/-- The releases are told in the order in which they are made, one for each slot that was held. -/
theorem told_releaseAll (slots : Slots Device) (kinds : List Capability) (lab : Lab) :
    ∃ changes, Told lab changes (lab.releaseAll slots kinds) ∧
      Detaches changes (kinds.filter slots.has) := by
  induction kinds generalizing lab with
  | nil => exact ⟨[], .refl lab, rfl, nofun⟩
  | cons kind kinds ih =>
    obtain ⟨first, htold, hfirst⟩ := told_release lab kind (slots kind)
    obtain ⟨rest, htold', hrest⟩ := ih (lab.release kind (slots kind))
    have hkinds : (kind :: kinds).filter slots.has =
        (if (slots kind).isSome then [kind] else []) ++ kinds.filter slots.has := by
      rw [List.filter_cons, Slots.has]
      cases (slots kind).isSome <;> rfl
    rw [hkinds]
    exact ⟨first ++ rest, htold.trans htold', hfirst.append hrest⟩

theorem told_shutdown (lab : Lab) :
    ∃ changes, Told lab changes lab.shutdown ∧ Detaches changes lab.target.slots.attached := by
  obtain ⟨changes, htold, hkinds⟩ :=
    told_releaseAll lab.target.slots Capability.all lab.takeSlots
  exact ⟨changes, (Told.takeSlots lab).trans htold, hkinds⟩

end Lab
end TargetControl
