import TargetControl.Proofs.Chronicle
import TargetControl.Proofs.Traffic

/-!
Which devices are called when a target is shut down.

A request keeps what it found in its slot, and nothing holds the slots between its look and its
call.  So a device may be called after a shutdown of the target has shut it down, as
`overtaken_calls` shows.  `late_calls` says when: the request had looked before that shutdown took
the slots, or the device was attached again between the two.  A request that looks at a slot which
has been taken and not been filled since finds nothing, is refused, and calls no device.

What carries it is that each call makes one look, which stands in the log before its other marks,
and that the look found what the marks before it had left in the slot.
-/

namespace TargetControl

/-! ## What a look finds -/

/-- What is in a slot was there from the start, or has been put there since. -/
theorem Slots.filled_of_follow {marks : List CallMark} {slots : Slots Device} {kind : Capability}
    {device : Device} (h : slots.follow marks kind = some device) :
    slots kind = some device ∨ ∃ j, .filled j kind device ∈ marks := by
  induction marks generalizing slots with
  | nil => exact Or.inl h
  | cons m rest ih =>
    have hlater : (m.apply slots).follow rest kind = some device := h
    rcases ih hlater with hslot | ⟨j, hj⟩
    · cases m with
      | filled j k d =>
        have hfill : slots.fill k d kind = some device := hslot
        rw [Slots.fill_apply] at hfill
        by_cases hk : kind = k
        · rw [if_pos hk] at hfill
          cases hfill
          rw [hk]
          exact Or.inr ⟨j, List.mem_cons_self⟩
        · rw [if_neg hk] at hfill
          exact Or.inl hfill
      | taken j contents => cases hslot
      | _ => exact Or.inl hslot
    · exact Or.inr ⟨j, List.mem_cons_of_mem m hj⟩

/-- After the slots have been taken there is in each what has been put there since. -/
theorem Slots.filled_of_taken {first second : List CallMark} {j : Nat}
    {contents : List (Capability × Device)} {slots : Slots Device} {kind : Capability}
    {device : Device} (h : slots.follow (first ++ .taken j contents :: second) kind = some device) :
    ∃ k, .filled k kind device ∈ second := by
  rw [Slots.follow_append] at h
  have hempty : Slots.empty.follow second kind = some device := h
  rcases Slots.filled_of_follow hempty with hnone | hfilled
  · cases hnone
  · exact hfilled

/-- A call has begun with a look at a slot, which has found what was there. -/
structure LookedAt (held : Slots Device) (log : List CallMark) (i : Nat) (request : Request)
    (found : Option Device) (early later : List CallMark) : Prop where
  split : log = early ++ .looked i request found :: later
  first : ∀ m ∈ early, m.call ≠ i
  found : found = held.follow early request.action.capability

namespace LookedAt

variable {held : Slots Device} {log early later early' later' : List CallMark} {i : Nat}
  {request request' : Request} {found found' : Option Device}

theorem dropWhile (h : LookedAt held log i request found early later) :
    log.dropWhile (fun m => m.call ≠ i) = .looked i request found :: later := by
  have hearly : ∀ m ∈ early, decide (m.call ≠ i) = true := by
    intro m hm
    rw [decide_eq_true_eq]
    exact h.first m hm
  rw [h.split, List.dropWhile_append_of_pos hearly, List.dropWhile_cons_of_neg]
  simp [CallMark.call]

theorem unique (h : LookedAt held log i request found early later)
    (h' : LookedAt held log i request' found' early' later') :
    request' = request ∧ found' = found := by
  have hsame := h.dropWhile.symm.trans h'.dropWhile
  cases hsame
  exact ⟨rfl, rfl⟩

theorem append (h : LookedAt held log i request found early later) (new : List CallMark) :
    LookedAt held (log ++ new) i request found early (later ++ new) := by
  refine ⟨?_, h.first, h.found⟩
  rw [h.split, List.append_assoc, List.cons_append]

end LookedAt

/-! ## The invariant -/

/-- What the log holds of a call at each stage. -/
def CallStage.Backed (held : Slots Device) (log : List CallMark) (i : Nat) : CallStage → Prop
  | .idle => ∀ m ∈ log, m.call ≠ i
  | .looked request found => ∃ early later, LookedAt held log i request found early later
  | .passed request device => ∃ early later, LookedAt held log i request (some device) early later
  | .served request _ _ =>
    ∃ device early later, LookedAt held log i request (some device) early later
  | .releasing left | .closing _ _ left =>
    ∃ contents, .taken i contents ∈ log ∧ ∀ p ∈ left, p ∈ contents
  | .filled _ | .ended => True

theorem CallStage.Backed.append {held : Slots Device} {log new : List CallMark} {i : Nat}
    {stage : CallStage} (h : stage.Backed held log i) (hnew : ∀ m ∈ new, m.call ≠ i) :
    stage.Backed held (log ++ new) i := by
  cases stage with
  | idle =>
    intro m hm
    rcases List.mem_append.mp hm with hold | hmem
    · exact h m hold
    · exact hnew m hmem
  | looked request found | passed request device =>
    obtain ⟨early, later, hlook⟩ := h
    exact ⟨early, later ++ new, hlook.append new⟩
  | served request states outcome =>
    obtain ⟨device, early, later, hlook⟩ := h
    exact ⟨device, early, later ++ new, hlook.append new⟩
  | releasing left | closing kind states left =>
    obtain ⟨contents, htaken, hleft⟩ := h
    exact ⟨contents, List.mem_append_left new htaken, hleft⟩
  | filled kind => trivial
  | ended => trivial

namespace Traffic

variable {held : Slots Device} {t t' : Traffic} {before log new : List CallMark}

structure Known (held : Slots Device) (log : List CallMark) (t : Traffic) : Prop where
  slots : t.lab.target.slots = held.follow log
  calls : ∀ i, (t.calls i).Backed held log i

theorem Known.stage {i : Nat} {stage : CallStage} (h : Known held before t)
    (hstage : t.calls i = stage) : stage.Backed held before i := by
  rw [← hstage]
  exact h.calls i

/-- A step of one call, seen from the calls. -/
theorem Known.move {i : Nat} {stage : CallStage} (h : Known held before t) (lab : Lab)
    (hslots : lab.target.slots = held.follow (before ++ new)) (hnew : ∀ m ∈ new, m.call = i)
    (hown : stage.Backed held (before ++ new) i) :
    Known held (before ++ new) ((t.setLab lab).move i stage) := by
  refine ⟨hslots, each_move (t := t.setLab lab) h.calls (fun j hj hbacked => ?_) hown⟩
  refine hbacked.append fun m hm hcall => hj ?_
  rw [← hcall, hnew m hm]

theorem Known.step (hstep : Step t new t') (h : Known held before t) :
    Known held (before ++ new) t' := by
  have hslots : t'.lab.target.slots = held.follow (before ++ new) := by
    rw [hstep.slots, h.slots, Slots.follow_append]
  have hone : ∀ m : CallMark, ∀ m' ∈ [m], m'.call = m.call := by
    intro m m' hm'
    rw [List.mem_singleton.mp hm']
  have hnone : ∀ i : Nat, ∀ m ∈ ([] : List CallMark), m.call = i :=
    fun _ => List.forall_mem_nil _
  cases hstep with
  | look request stage =>
    refine h.move t.lab hslots (hone _) ⟨before, [], rfl, h.stage stage, ?_⟩
    rw [h.slots]
  | refuse stage check => exact h.move t.lab hslots (hone _) trivial
  | @pass i request found device cell stage check =>
    obtain ⟨early, later, hlook⟩ := h.stage stage
    have hfound : found = some device := by
      cases found with
      | none => cases check
      | some d =>
        rw [Action.check_some] at check
        split at check
        · cases check
          rfl
        · cases check
    rw [hfound] at hlook
    exact h.move _ hslots (hnone _) ⟨early, later ++ [], hlook.append []⟩
  | invoke stage =>
    obtain ⟨early, later, hlook⟩ := h.stage stage
    exact h.move _ hslots (hone _) ⟨_, early, later ++ _, hlook.append _⟩
  | relay stage =>
    obtain ⟨device, early, later, hlook⟩ := h.stage stage
    exact h.move _ hslots (hnone _) ⟨device, early, later ++ [], hlook.append []⟩
  | answer stage => exact h.move t.lab hslots (hone _) trivial
  | fill device stage vacant => exact h.move _ hslots (hone _) trivial
  | decline stage occupied => exact h.move t.lab hslots (hnone _) trivial
  | announce stage => exact h.move _ hslots (hone _) trivial
  | take stage =>
    refine h.move _ hslots (hone _) ⟨_, ?_, fun p hp => hp⟩
    exact List.mem_append_right before List.mem_cons_self
  | close stage =>
    obtain ⟨contents, htaken, hleft⟩ := h.stage stage
    refine h.move _ hslots (hone _) ⟨contents, ?_, fun p hp => ?_⟩
    · exact List.mem_append_left _ htaken
    · exact hleft p (List.mem_cons_of_mem _ hp)
  | hear stage =>
    obtain ⟨contents, htaken, hleft⟩ := h.stage stage
    exact h.move _ hslots (hnone _) ⟨contents, List.mem_append_left _ htaken, hleft⟩
  | release stage =>
    obtain ⟨contents, htaken, hleft⟩ := h.stage stage
    exact h.move _ hslots (hone _) ⟨contents, List.mem_append_left _ htaken, hleft⟩
  | leave stage => exact h.move t.lab hslots (hnone _) trivial
  | aside told slots other =>
    rw [List.append_nil] at hslots ⊢
    exact ⟨hslots, h.calls⟩

theorem known_of_walk {lab : Lab} (h : Walk Step (opened lab) log t) :
    Known lab.target.slots log t := by
  have hopened : Known lab.target.slots [] (opened lab) := ⟨rfl, fun _ => List.forall_mem_nil _⟩
  exact h.keeps_log Known.step hopened

end Traffic

/-! ## The law -/

/-- A request that called a device after a shutdown had shut it down had looked at its slot before
that shutdown took the slots, or looked at it after the device had been put back. -/
def Excused (held : Slots Device) (log : List CallMark) (i j : Nat) (request : Request)
    (device : Device) : Prop :=
  ∃ early later contents, LookedAt held log i request (some device) early later ∧
    (∃ kind, (kind, device) ∈ contents) ∧
    (.taken j contents ∈ later ∨ ∃ first second k, early = first ++ .taken j contents :: second ∧
      .filled k request.action.capability device ∈ second)

structure LateCallLaw (held : Slots Device) (log : List CallMark) : Prop where
  /-- a request begins with a look, which finds what the marks before it have left in its slot -/
  looked : ∀ before i request found after, log = before ++ .looked i request found :: after →
    LookedAt held log i request found before after
  invoked : ∀ before i request device after, log = before ++ .invoked i request device :: after →
    ∃ early later, LookedAt held before i request (some device) early later
  late : ∀ before i request device after, log = before ++ .invoked i request device :: after →
    ∀ j, .closed j device ∈ before → Excused held before i j request device
  /-- a look at a slot that has been taken and not been filled since -/
  vacant : ∀ first j contents second i request found after,
    log = (first ++ .taken j contents :: second) ++ .looked i request found :: after →
    (∀ k device, .filled k request.action.capability device ∉ second) →
    found = none ∧ (∀ request' device, .invoked i request' device ∉ log) ∧
      ∀ request' outcome, .answered i request' outcome ∈ log →
        outcome = .error (.refused ⟨request.action.name, .unavailable request.action.capability⟩)

namespace Traffic

variable {lab : Lab} {t : Traffic} {log before after : List CallMark}

theorem lookedAt_of_walk (h : Walk Step (opened lab) log t) {i : Nat} {request : Request}
    {found : Option Device} (hsplit : log = before ++ .looked i request found :: after) :
    LookedAt lab.target.slots log i request found before after := by
  obtain ⟨x, y, hwalk, hstep⟩ := at_mark h hsplit
  have hknown := known_of_walk hwalk
  cases hstep with
  | look request stage =>
    refine ⟨hsplit, hknown.stage stage, ?_⟩
    rw [hknown.slots]

theorem lookedAt_of_invoked (h : Walk Step (opened lab) log t) {i : Nat} {request : Request}
    {device : Device} (hsplit : log = before ++ .invoked i request device :: after) :
    ∃ early later, LookedAt lab.target.slots before i request (some device) early later := by
  obtain ⟨x, y, hwalk, hstep⟩ := at_mark h hsplit
  cases hstep with
  | invoke stage => exact (known_of_walk hwalk).stage stage

/-- An answer comes from the device that was found, or is the refusal of a request that may have
found none. -/
theorem lookedAt_of_answered (h : Walk Step (opened lab) log t) {i : Nat} {request : Request}
    {outcome : Except Failure Reply}
    (hsplit : log = before ++ .answered i request outcome :: after) :
    ∃ found early later, LookedAt lab.target.slots before i request found early later ∧
      (found = none → outcome =
        .error (.refused ⟨request.action.name, .unavailable request.action.capability⟩)) := by
  obtain ⟨x, y, hwalk, hstep⟩ := at_mark h hsplit
  cases hstep with
  | @refuse _ _ found obstacle stage check =>
    obtain ⟨early, later, hlook⟩ := (known_of_walk hwalk).stage stage
    refine ⟨found, early, later, hlook, fun hnone => ?_⟩
    rw [hnone, Action.check_none] at check
    cases check
    rfl
  | answer stage =>
    obtain ⟨device, early, later, hlook⟩ := (known_of_walk hwalk).stage stage
    exact ⟨some device, early, later, hlook, nofun⟩

theorem taken_of_closed (h : Walk Step (opened lab) log t) {j : Nat} {device : Device}
    (hmem : .closed j device ∈ log) :
    ∃ contents, .taken j contents ∈ log ∧ ∃ kind, (kind, device) ∈ contents := by
  obtain ⟨before, after, hsplit⟩ := List.append_of_mem hmem
  obtain ⟨x, y, hwalk, hstep⟩ := at_mark h hsplit
  cases hstep with
  | @close _ kind _ left stage =>
    obtain ⟨contents, htaken, hleft⟩ := (known_of_walk hwalk).stage stage
    refine ⟨contents, ?_, kind, hleft _ List.mem_cons_self⟩
    rw [hsplit]
    exact List.mem_append_left _ htaken

/-- The marks before one of a walk are the log of a walk too. -/
theorem walk_before (h : Walk Step (opened lab) log t) {m : CallMark}
    (hsplit : log = before ++ m :: after) : ∃ x, Walk Step (opened lab) before x := by
  obtain ⟨x, y, hwalk, hstep⟩ := at_mark h hsplit
  exact ⟨x, hwalk⟩

theorem excused_of_closed (h : Walk Step (opened lab) log t) {i j : Nat} {request : Request}
    {device : Device} (hsplit : log = before ++ .invoked i request device :: after)
    (hclosed : .closed j device ∈ before) :
    Excused lab.target.slots before i j request device := by
  obtain ⟨early, later, hlook⟩ := lookedAt_of_invoked h hsplit
  obtain ⟨x, hwalk⟩ := walk_before h hsplit
  obtain ⟨contents, htaken, hheld⟩ := taken_of_closed hwalk hclosed
  refine ⟨early, later, contents, hlook, hheld, ?_⟩
  rw [hlook.split] at htaken
  rcases List.mem_append.mp htaken with hearly | hlater
  · -- the look came after the slots had been taken, so what it found had been put there since
    obtain ⟨first, second, rfl⟩ := List.append_of_mem hearly
    have hfound := hlook.found.symm
    obtain ⟨k, hk⟩ := Slots.filled_of_taken hfound
    exact Or.inr ⟨first, second, k, rfl, hk⟩
  · rcases List.mem_cons.mp hlater with heq | hlater
    · cases heq
    · exact Or.inl hlater

theorem lookedAt_vacant (h : Walk Step (opened lab) log t) {first second : List CallMark}
    {i j : Nat} {contents : List (Capability × Device)} {request : Request} {found : Option Device}
    (hsplit : log = (first ++ .taken j contents :: second) ++ .looked i request found :: after)
    (hno : ∀ k device, .filled k request.action.capability device ∉ second) : found = none := by
  have hlook := lookedAt_of_walk h hsplit
  cases found with
  | none => rfl
  | some device =>
    obtain ⟨k, hk⟩ := Slots.filled_of_taken hlook.found.symm
    exact absurd hk (hno k device)

/-- In every schedule of requests, attachments, shutdowns and reports. -/
theorem late_calls {lab : Lab} {log : List CallMark} {t : Traffic}
    (h : Walk Step (opened lab) log t) : LateCallLaw lab.target.slots log := by
  refine
    { looked := fun before i request found after hsplit => lookedAt_of_walk h hsplit
      invoked := fun before i request device after hsplit => lookedAt_of_invoked h hsplit
      late := fun before i request device after hsplit j hclosed =>
        excused_of_closed h hsplit hclosed
      vacant := fun first j contents second i request found after hsplit hno => ?_ }
  have hlook := lookedAt_of_walk h hsplit
  have hnone : found = none := lookedAt_vacant h hsplit hno
  subst hnone
  refine ⟨rfl, fun request' device hmem => ?_, fun request' outcome hmem => ?_⟩
  · obtain ⟨before, after', hinvoked⟩ := List.append_of_mem hmem
    obtain ⟨early, later, hfound⟩ := lookedAt_of_invoked h hinvoked
    have hwhole := hfound.append (.invoked i request' device :: after')
    rw [← hinvoked] at hwhole
    cases (hlook.unique hwhole).2
  · obtain ⟨before, after', hanswered⟩ := List.append_of_mem hmem
    obtain ⟨found, early, later, hfound, hrefused⟩ := lookedAt_of_answered h hanswered
    have hwhole := hfound.append (.answered i request' outcome :: after')
    rw [← hanswered] at hwhole
    obtain ⟨rfl, rfl⟩ := hlook.unique hwhole
    exact hrefused rfl

/-- A request looks, a shutdown runs from its beginning to its end, and the request goes on. -/
def overtaken : List CallMark :=
  [.looked 0 (.processor .cont) (some (.processor, 0)), .taken 1 [(.execution, (.processor, 0))],
    .closed 1 (.processor, 0), .told 1 (.detached .execution),
    .invoked 0 (.processor .cont) (.processor, 0)]

theorem walk_overtaken : ∃ t, Walk Step (opened Lab.halted) overtaken t := by
  have hlooks := Walk.one (Step.look (t := opened Lab.halted) (i := 0) (.processor .cont) rfl)
  have hshuts := hlooks.trans (.step (.take (i := 1) rfl) (.step (.close (i := 1) rfl)
    (.step (.release (i := 1) rfl) (.one (.leave (i := 1) rfl)))))
  have hcalls := hshuts.trans (.step (.pass (i := 0) rfl rfl) (.one (.invoke (i := 0) rfl)))
  exact ⟨_, hcalls⟩

theorem late_calls_overtaken :
    ∃ t, Walk Step (opened Lab.halted) overtaken t ∧
      LateCallLaw Lab.halted.target.slots overtaken := by
  obtain ⟨t, hwalk⟩ := walk_overtaken
  exact ⟨t, hwalk, late_calls hwalk⟩

/-- A target may call a device that it has shut down. -/
theorem overtaken_calls :
    ¬ ∀ (lab : Lab) (log : List CallMark) (t : Traffic), lab.Reachable →
      Walk Step (opened lab) log t →
        ∀ before i request device after, log = before ++ .invoked i request device :: after →
          ∀ j, .closed j device ∉ before := by
  intro hclaim
  obtain ⟨t, hwalk⟩ := walk_overtaken
  refine hclaim Lab.halted overtaken t Lab.reachable_halted hwalk
    (overtaken.take 4) 0 (.processor .cont) (.processor, 0) [] rfl 1 ?_
  simp [overtaken]

end Traffic
end TargetControl
