import TargetControl.Proofs.Interleaving

/-!
Traffic: requests, attachments and shutdowns that are under way at the same time.

A request looks at its slot and lets go of the slots again.  It is let through or refused in a
second step, and handed to the device in a third.  An attachment fills its slot and tells of that
afterwards.  A shutdown takes what all the slots hold, and then shuts down one device after another
and tells of each.  Between any two of these steps any other call may move.

Each call has a number of its own.  Nobody else changes the slots, so they are what the marks of a
walk make of those at its start, which `Step.slots` says of each step.  A call that nobody comes
between is the operation of the lab that it is named for, by `walk_act`, `walk_attach` and
`walk_shutdown`.
-/

namespace TargetControl

/-- What slots hold, in the order in which a target releases it. -/
def Slots.contents (slots : Slots Device) : List (Capability × Device) :=
  Capability.all.filterMap fun kind => (slots kind).map fun device => (kind, device)

/-- Where a call is. -/
inductive CallStage where
  | idle
  /-- a request that has looked at its slot -/
  | looked (request : Request) (found : Option Device)
  /-- a request that has been let through -/
  | passed (request : Request) (device : Device)
  /-- a request whose device has some reports to make before it answers -/
  | served (request : Request) (states : List State) (outcome : Except Failure Reply)
  /-- an attachment that has yet to be told -/
  | filled (kind : Capability)
  /-- a shutdown that has something left to release -/
  | releasing (left : List (Capability × Device))
  /-- a shutdown whose latest device has some reports to make, before its release is told -/
  | closing (kind : Capability) (states : List State) (left : List (Capability × Device))
  | ended

/-- What calls do that others can see. -/
inductive CallMark where
  | looked (call : Nat) (request : Request) (found : Option Device)
  | invoked (call : Nat) (request : Request) (device : Device)
  | answered (call : Nat) (request : Request) (outcome : Except Failure Reply)
  | filled (call : Nat) (kind : Capability) (device : Device)
  | taken (call : Nat) (contents : List (Capability × Device))
  | closed (call : Nat) (device : Device)
  | told (call : Nat) (change : Change)

namespace CallMark

def call : CallMark → Nat
  | .looked i .. | .invoked i .. | .answered i .. | .filled i .. | .taken i _ | .closed i _
  | .told i _ => i

/-- The slots after a mark. -/
def apply (slots : Slots Device) : CallMark → Slots Device
  | .filled _ kind device => slots.fill kind device
  | .taken .. => .empty
  | _ => slots

end CallMark

def Slots.follow (marks : List CallMark) (slots : Slots Device) : Slots Device :=
  marks.foldl CallMark.apply slots

theorem Slots.follow_append (first second : List CallMark) (slots : Slots Device) :
    slots.follow (first ++ second) = (slots.follow first).follow second := List.foldl_append

structure Traffic where
  lab : Lab
  calls : Nat → CallStage

namespace Traffic

def opened (lab : Lab) : Traffic := ⟨lab, fun _ => .idle⟩

def move (t : Traffic) (i : Nat) (stage : CallStage) : Traffic :=
  { t with calls := Family.put t.calls i stage }

def setLab (t : Traffic) (lab : Lab) : Traffic := { t with lab }

/-- One step of a call, or of somebody else. -/
inductive Step : Traffic → List CallMark → Traffic → Prop where
  | look {t : Traffic} {i : Nat} (request : Request) (stage : t.calls i = .idle) :
    Step t [.looked i request (t.lab.target.slots request.action.capability)]
      (t.move i (.looked request (t.lab.target.slots request.action.capability)))
  | refuse {t : Traffic} {i : Nat} {request : Request} {found : Option Device} {obstacle : Obstacle}
    (stage : t.calls i = .looked request found)
    (check : request.action.check found t.lab.target.cell = .error obstacle) :
    Step t [.answered i request (.error (.refused ⟨request.action.name, obstacle⟩))]
      (t.move i .ended)
  | pass {t : Traffic} {i : Nat} {request : Request} {found : Option Device} {device : Device}
    {cell : Cell} (stage : t.calls i = .looked request found)
    (check : request.action.check found t.lab.target.cell = .ok (device, cell)) :
    Step t [] ((t.setLab (t.lab.setCell cell)).move i (.passed request device))
  | invoke {t : Traffic} {i : Nat} {request : Request} {device : Device}
    (stage : t.calls i = .passed request device) :
    Step t [.invoked i request device]
      ((t.setLab (t.lab.setBench (t.lab.bench.serve device request).bench)).move i
        (.served request (t.lab.bench.serve device request).states
          ((t.lab.bench.serve device request).outcome.mapError .backend)))
  | relay {t : Traffic} {i : Nat} {request : Request} {s : State} {states : List State}
    {outcome : Except Failure Reply} (stage : t.calls i = .served request (s :: states) outcome) :
    Step t [] ((t.setLab (t.lab.report s)).move i (.served request states outcome))
  | answer {t : Traffic} {i : Nat} {request : Request} {outcome : Except Failure Reply}
    (stage : t.calls i = .served request [] outcome) :
    Step t [.answered i request outcome] (t.move i .ended)
  | fill {t : Traffic} {i : Nat} {kind : Capability} (device : Device) (stage : t.calls i = .idle)
    (vacant : t.lab.target.slots kind = none) :
    Step t [.filled i kind device] ((t.setLab (t.lab.fillSlot kind device)).move i (.filled kind))
  /-- an attachment that finds its slot occupied -/
  | decline {t : Traffic} {i : Nat} {kind : Capability} (stage : t.calls i = .idle)
    (occupied : t.lab.target.slots.has kind = true) : Step t [] (t.move i .ended)
  | announce {t : Traffic} {i : Nat} {kind : Capability} (stage : t.calls i = .filled kind) :
    Step t [.told i (.attached kind)] ((t.setLab (t.lab.tell (.attached kind))).move i .ended)
  | take {t : Traffic} {i : Nat} (stage : t.calls i = .idle) :
    Step t [.taken i t.lab.target.slots.contents]
      ((t.setLab t.lab.takeSlots).move i (.releasing t.lab.target.slots.contents))
  | close {t : Traffic} {i : Nat} {kind : Capability} {device : Device}
    {left : List (Capability × Device)} (stage : t.calls i = .releasing ((kind, device) :: left)) :
    Step t [.closed i device]
      ((t.setLab (t.lab.setBench (t.lab.bench.shutdown device).bench)).move i
        (.closing kind (t.lab.bench.shutdown device).states left))
  | hear {t : Traffic} {i : Nat} {kind : Capability} {s : State} {states : List State}
    {left : List (Capability × Device)} (stage : t.calls i = .closing kind (s :: states) left) :
    Step t [] ((t.setLab (t.lab.report s)).move i (.closing kind states left))
  | release {t : Traffic} {i : Nat} {kind : Capability} {left : List (Capability × Device)}
    (stage : t.calls i = .closing kind [] left) :
    Step t [.told i (.detached kind)]
      ((t.setLab (t.lab.tell (.detached kind))).move i (.releasing left))
  | leave {t : Traffic} {i : Nat} (stage : t.calls i = .releasing []) : Step t [] (t.move i .ended)
  /-- somebody reports, in one step or in several, or works on the devices or the entries -/
  | aside {t : Traffic} {lab : Lab} {changes : List Change} (told : t.lab.Told changes lab)
    (slots : lab.target.slots = t.lab.target.slots) (other : ∀ c ∈ changes, c.kind = .state) :
    Step t [] (t.setLab lab)

variable {t t' : Traffic} {log : List CallMark}

/-! ## Walks -/

theorem calls_move (t : Traffic) (i : Nat) (stage : CallStage) :
    (t.move i stage).calls i = stage := Family.put_same ..

theorem Step.length_le (h : Step t log t') : log.length ≤ 1 := by
  cases h <;> simp

/-- What is in the log of a walk was logged by one of its steps, which logged nothing else. -/
theorem at_mark (h : Walk Step t log t') {before after : List CallMark} {m : CallMark}
    (hsplit : log = before ++ m :: after) :
    ∃ x y, Walk Step t before x ∧ Step x [m] y := by
  obtain ⟨x, y, first, former, latter, hwalk, hstep, rfl⟩ := h.at_log hsplit
  have hlength := hstep.length_le
  rw [List.length_append, List.length_cons] at hlength
  have hformer : former = [] := List.eq_nil_of_length_eq_zero (by omega)
  have hlatter : latter = [] := List.eq_nil_of_length_eq_zero (by omega)
  subst hformer hlatter
  rw [List.append_nil]
  exact ⟨x, y, hwalk, hstep⟩

theorem Step.slots (h : Step t log t') :
    t'.lab.target.slots = t.lab.target.slots.follow log := by
  cases h with
  | aside told slots other => exact slots
  | _ => rfl

/-! ## Invariants of the calls -/

/-- What is known of each call from the log so far is known after a step of one of them, if it is
known of that one, and if marks of the others do not bear on it. -/
theorem each_move {B : List CallMark → Nat → CallStage → Prop} {i : Nat} {stage : CallStage}
    {before new : List CallMark} (hall : ∀ j, B before j (t.calls j))
    (hothers : ∀ j, j ≠ i → B before j (t.calls j) → B (before ++ new) j (t.calls j))
    (hown : B (before ++ new) i stage) : ∀ j, B (before ++ new) j ((t.move i stage).calls j) := by
  intro j
  show B (before ++ new) j (Family.put t.calls i stage j)
  by_cases hj : j = i
  · rw [hj, Family.put_same]
    exact hown
  · rw [Family.put_of_ne _ hj]
    exact hothers j hj (hall j)

/-! ## Calls that nobody comes between -/

/-- Of two stages that a call is given in turn only the second matters. -/
theorem Step.again {i : Nat} {first second : CallStage}
    (h : Step t log ((t'.move i first).move i second)) : Step t log (t'.move i second) := by
  have hput : (t'.move i first).move i second = t'.move i second := by
    rw [move, move, move, Family.put_put]
  rwa [hput] at h

theorem walk_relays (i : Nat) (request : Request) (outcome : Except Failure Reply)
    (states : List State) (t : Traffic) :
    Walk Step (t.move i (.served request states outcome)) []
      ((t.setLab (t.lab.reportAll states)).move i (.served request [] outcome)) := by
  induction states generalizing t with
  | nil => exact .refl _
  | cons s rest ih =>
    have hrelay : Step (t.move i (.served request (s :: rest) outcome)) []
        (((t.setLab (t.lab.report s)).move i (.served request (s :: rest) outcome)).move i
          (.served request rest outcome)) := .relay (calls_move t i _)
    exact .step hrelay.again (ih (t.setLab (t.lab.report s)))

/-- What a device reports within a request comes before its answer. -/
theorem walk_serve (i : Nat) (request : Request) (device : Device) (t : Traffic) :
    Walk Step (t.move i (.passed request device))
      [.invoked i request device, .answered i request (t.lab.serve device request).2]
      ((t.setLab (t.lab.serve device request).1).move i .ended) := by
  have hinvoke : Step _ [.invoked i request device]
      (((t.setLab (t.lab.setBench (t.lab.bench.serve device request).bench)).move i _).move i
        (.served request (t.lab.bench.serve device request).states
          (t.lab.serve device request).2)) := .invoke (calls_move t i (.passed request device))
  have hrelays := walk_relays i request (t.lab.serve device request).2
    (t.lab.bench.serve device request).states
    (t.setLab (t.lab.setBench (t.lab.bench.serve device request).bench))
  have hanswer := Step.answer (calls_move (t.setLab (t.lab.serve device request).1) i
    (.served request [] (t.lab.serve device request).2))
  exact .step hinvoke.again (hrelays.trans (.one hanswer.again))

theorem walk_act {i : Nat} (request : Request) (stage : t.calls i = .idle) :
    ∃ log, Walk Step t (log ++ [.answered i request (t.lab.act request).2])
      ((t.setLab (t.lab.act request).1).move i .ended) := by
  have hlook := Step.look request stage
  have hlooked := calls_move t i
    (.looked request (t.lab.target.slots request.action.capability))
  cases hcheck : request.action.check (t.lab.target.slots request.action.capability)
      t.lab.target.cell with
  | error obstacle =>
    have hact : t.lab.act request =
        (t.lab, .error (.refused ⟨request.action.name, obstacle⟩)) := by
      simp only [Lab.act, hcheck]
    rw [hact]
    have hrefuse := (Step.refuse hlooked hcheck).again
    exact ⟨[_], .step hlook (.one hrefuse)⟩
  | ok found =>
    obtain ⟨device, cell⟩ := found
    have hact : t.lab.act request = (t.lab.setCell cell).serve device request := by
      simp only [Lab.act, hcheck]
    rw [hact]
    have hpass : Step _ [] (((t.setLab (t.lab.setCell cell)).move i _).move i
        (.passed request device)) := .pass hlooked hcheck
    have hserve := walk_serve i request device (t.setLab (t.lab.setCell cell))
    have hwalk := Walk.step hlook (.step hpass.again hserve)
    exact ⟨[_, .invoked i request device], hwalk⟩

theorem walk_attach {i : Nat} (kind : Capability) (device : Device) (stage : t.calls i = .idle) :
    ∃ log, Walk Step t log ((t.setLab (t.lab.attach kind device).1).move i .ended) := by
  cases hslot : t.lab.target.slots kind with
  | some held =>
    have hhas : t.lab.target.slots.has kind = true := Slots.has_of_some hslot
    rw [Lab.attach_of_has hhas]
    exact ⟨_, .one (.decline stage hhas)⟩
  | none =>
    rw [Lab.attach_of_none hslot]
    have hannounce : Step _ [.told i (.attached kind)]
        (((t.setLab ((t.lab.fillSlot kind device).tell (.attached kind))).move i _).move i
          .ended) :=
      .announce (calls_move (t.setLab (t.lab.fillSlot kind device)) i (.filled kind))
    exact ⟨_, .step (.fill device stage hslot) (.one hannounce.again)⟩

theorem walk_hears (i : Nat) (kind : Capability) (left : List (Capability × Device))
    (states : List State) (t : Traffic) :
    Walk Step (t.move i (.closing kind states left)) []
      ((t.setLab (t.lab.reportAll states)).move i (.closing kind [] left)) := by
  induction states generalizing t with
  | nil => exact .refl _
  | cons s rest ih =>
    have hhear : Step (t.move i (.closing kind (s :: rest) left)) []
        (((t.setLab (t.lab.report s)).move i (.closing kind (s :: rest) left)).move i
          (.closing kind rest left)) := .hear (calls_move t i _)
    exact .step hhear.again (ih (t.setLab (t.lab.report s)))

theorem walk_releases (i : Nat) (left : List (Capability × Device)) (t : Traffic) :
    ∃ log, Walk Step (t.move i (.releasing left)) log
      ((t.setLab (left.foldl (fun lab held => lab.release held.1 (some held.2)) t.lab)).move i
        (.releasing [])) := by
  induction left generalizing t with
  | nil => exact ⟨[], .refl _⟩
  | cons held left ih =>
    obtain ⟨kind, device⟩ := held
    have hclose : Step _ [.closed i device] (((t.setLab (t.lab.setBench _)).move i _).move i _) :=
      .close (calls_move t i (.releasing ((kind, device) :: left)))
    have hhears := walk_hears i kind left (t.lab.bench.shutdown device).states
      (t.setLab (t.lab.setBench (t.lab.bench.shutdown device).bench))
    have hrelease : Step _ [.told i (.detached kind)]
        (((t.setLab (t.lab.release kind (some device))).move i _).move i (.releasing left)) :=
      .release (calls_move (t.setLab _) i (.closing kind [] left))
    obtain ⟨log, hrest⟩ := ih (t.setLab (t.lab.release kind (some device)))
    exact ⟨_, .step hclose.again (hhears.trans (.step hrelease.again hrest))⟩

/-- A shutdown skips the slots that are empty. -/
theorem releaseAll_eq (slots : Slots Device) (kinds : List Capability) (lab : Lab) :
    lab.releaseAll slots kinds =
      (kinds.filterMap fun kind => (slots kind).map fun device => (kind, device)).foldl
        (fun lab held => lab.release held.1 (some held.2)) lab := by
  induction kinds generalizing lab with
  | nil => rfl
  | cons kind kinds ih =>
    rw [Lab.releaseAll_cons, ih, List.filterMap_cons]
    cases slots kind with
    | none => rfl
    | some device => rfl

theorem walk_shutdown {i : Nat} (stage : t.calls i = .idle) :
    ∃ log, Walk Step t log ((t.setLab t.lab.shutdown).move i .ended) := by
  obtain ⟨log, hreleases⟩ :=
    walk_releases i t.lab.target.slots.contents (t.setLab t.lab.takeSlots)
  have hleave := Step.leave (calls_move (t.setLab t.lab.shutdown) i (.releasing []))
  have hshutdown : t.lab.shutdown = t.lab.target.slots.contents.foldl
      (fun lab held => lab.release held.1 (some held.2)) t.lab.takeSlots :=
    releaseAll_eq t.lab.target.slots Capability.all t.lab.takeSlots
  rw [hshutdown] at hleave ⊢
  exact ⟨_, .step (.take stage) (hreleases.trans (.one hleave.again))⟩

end Traffic
end TargetControl
