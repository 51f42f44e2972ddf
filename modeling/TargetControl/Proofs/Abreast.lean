import TargetControl.Proofs.Likeness
import TargetControl.Proofs.Waiting

/-!
Two labs that go abreast, and what those who listen make out of them.

Who listens to a target, and the entries that are set beside its state, are no part of its control.
Two labs are beside one another if they differ in these alone.  Whatever is done to both has the
same answer then, tells whoever listens of the same changes, and leaves the labs beside one another.

`Seen` says this together with what the changes are: the happenings that the chronicle tells of, in
an order in which a listener can follow them.  A listener keeps a picture of the state and the slots,
and after each operation the picture is true again.  Within a shutdown it is not, since the slots are
emptied before the first release is told, so the picture is a parameter and not read off the lab.
-/

namespace TargetControl

/-! ## Pictures -/

/-- What a listener makes out of a target: its state, and which of its slots are occupied. -/
structure Picture where
  state : State
  held : Capability → Bool

namespace Picture

def blank : Picture := ⟨.created, fun _ => false⟩

def mark (p : Picture) (kind : Capability) (flag : Bool) : Picture :=
  { p with held := fun k => if k = kind then flag else p.held k }

/-- What is held in a picture but for some capabilities. -/
def without (p : Picture) (kinds : List Capability) : Capability → Bool :=
  fun k => p.held k && decide (k ∉ kinds)

theorem without_nil (p : Picture) : p.without [] = p.held :=
  funext fun k => Bool.and_true (p.held k)

theorem without_cons (p : Picture) (kind : Capability) (kinds : List Capability) :
    p.without (kind :: kinds) = (p.mark kind false).without kinds := by
  funext k
  by_cases hk : k = kind <;> simp [without, mark, hk]

theorem without_cons_of_vacant {p : Picture} {kind : Capability} (h : p.held kind = false)
    (kinds : List Capability) : p.without (kind :: kinds) = p.without kinds := by
  funext k
  by_cases hk : k = kind <;> simp [without, hk, h]

theorem without_all (p : Picture) : p.without Capability.all = fun _ => false := by
  funext k
  simp [without, k.mem_all]

/-- The picture after a change, if the change can have come about. -/
def see? (p : Picture) : Change → Option Picture
  | .state before after => if before = p.state then some { p with state := after } else none
  | .attached kind => if p.held kind then none else some (p.mark kind true)
  | .detached kind => if p.held kind then some (p.mark kind false) else none

def replay? (p : Picture) : List Change → Option Picture
  | [] => some p
  | c :: rest => (p.see? c).bind fun q => q.replay? rest

def attached (p : Picture) : List Capability := Capability.all.filter p.held

theorem replay?_append (p : Picture) (first second : List Change) :
    p.replay? (first ++ second) = (p.replay? first).bind fun q => q.replay? second := by
  induction first generalizing p with
  | nil => rfl
  | cons c rest ih =>
    show ((p.see? c).bind fun q => q.replay? (rest ++ second)) = _
    simp only [ih, replay?, Option.bind_assoc]

/-- Reports that begin with the state of the picture end with that of the pair. -/
theorem replay?_transitions (p : Picture) (cell : Cell) (h : cell.state = p.state)
    (states : List State) :
    p.replay? (Lab.transitions cell.state states) =
      some { p with state := (Cell.publishAll states cell).state } := by
  induction states generalizing p cell with
  | nil =>
    rw [Lab.transitions, Cell.publishAll_nil, h]
    rfl
  | cons s rest ih =>
    have hsee : p.see? (.state cell.state s) = some { p with state := s } := if_pos h
    rw [Lab.transitions, replay?, hsee, Option.bind_some]
    exact ih { p with state := s } (cell.publish s) rfl

end Picture

def Lab.picture (lab : Lab) : Picture := ⟨lab.target.cell.state, lab.target.slots.has⟩

/-! ## What happenings are told as -/

def Happening.change? : Happening → Option Change
  | .reported before after => some (.state before after)
  | .attached kind _ => some (.attached kind)
  | .released kind _ => some (.detached kind)
  | .passed _ => none

/-- The changes among some moments. -/
def tale (moments : List Moment) : List Change := moments.filterMap fun m => m.what.change?

theorem tale_append (first second : List Moment) : tale (first ++ second) = tale first ++ tale second :=
  List.filterMap_append

theorem tale_reportTrail (lab : Lab) (states : List State) :
    tale (lab.reportTrail states) = Lab.transitions lab.target.cell.state states := by
  induction states generalizing lab with
  | nil => rfl
  | cons s rest ih => exact congrArg (_ :: ·) (ih (lab.report s))

/-! ## Labs beside one another -/

/-- Two lists that are the same but for members of one kind, which either may have anywhere. -/
inductive SameBut {α : Type} (kind : α → Bool) : List α → List α → Prop where
  | nil : SameBut kind [] []
  | cons (x : α) {first second : List α} (h : SameBut kind first second) :
    SameBut kind (x :: first) (x :: second)
  | left {x : α} {first second : List α} (hx : kind x = true) (h : SameBut kind first second) :
    SameBut kind (x :: first) second
  | right {x : α} {first second : List α} (hx : kind x = true) (h : SameBut kind first second) :
    SameBut kind first (x :: second)

theorem SameBut.refl {α : Type} (kind : α → Bool) (xs : List α) : SameBut kind xs xs := by
  induction xs with
  | nil => exact .nil
  | cons x rest ih => exact .cons x ih

/-- Whether a step of a setup is about the entries. -/
def SetupStep.aside : SetupStep → Bool
  | .setEntry .. | .removeEntry _ => true
  | _ => false

/-- Whether an operation is about the sinks or the entries. -/
def Operation.aside : Operation → Bool
  | .addSink _ | .setEntry .. | .removeEntry _ => true
  | _ => false

/-- Two setups that do the same but for the entries that they set and remove. -/
def Setup.Akin (s t : Setup) : Prop :=
  ∀ run, SameBut SetupStep.aside (s run).steps (t run).steps ∧ (t run).failure = (s run).failure

theorem Setup.Akin.refl (s : Setup) : Akin s s := fun _ => ⟨.refl _ _, rfl⟩

/-- What is not beside the control of a target: all but the entries, the sinks and what these have
taken. -/
structure Control where
  name : String
  cell : Cell
  slots : Slots Device
  initialized : Bool
  runs : Nat
  bench : Bench

def Lab.control (lab : Lab) : Control :=
  { name := lab.target.name
    cell := lab.target.cell
    slots := lab.target.slots
    initialized := lab.target.initialized
    runs := lab.target.runs
    bench := lab.bench }

def Lab.withEntries (lab : Lab) (entries : Entries) : Lab :=
  { lab with target := { lab.target with entries } }

structure Beside (a b : Lab) : Prop where
  control : b.control = a.control
  now : b.now = a.now
  setup : Option.Rel Setup.Akin a.target.setup b.target.setup

namespace Beside

variable {a b : Lab}

theorem refl (a : Lab) : Beside a a := by
  refine ⟨rfl, rfl, ?_⟩
  cases a.target.setup with
  | none => exact .none
  | some s => exact .some (.refl s)

theorem name (h : Beside a b) : b.target.name = a.target.name := congrArg Control.name h.control

theorem cell (h : Beside a b) : b.target.cell = a.target.cell := congrArg Control.cell h.control

theorem slots (h : Beside a b) : b.target.slots = a.target.slots := congrArg Control.slots h.control

theorem initialized (h : Beside a b) : b.target.initialized = a.target.initialized :=
  congrArg Control.initialized h.control

theorem runs (h : Beside a b) : b.target.runs = a.target.runs := congrArg Control.runs h.control

theorem bench (h : Beside a b) : b.bench = a.bench := congrArg Control.bench h.control

theorem obtained (h : Beside a b) (x : Attachment) : b.obtained x = a.obtained x := by
  rw [Lab.obtained, Lab.obtained, h.bench]

theorem released (h : Beside a b) : b.released = a.released := by
  funext r
  cases r with
  | stopped => rfl
  | exited =>
    show Except.error (Failure.exited b.target.name) = .error (.exited a.target.name)
    rw [h.name]

theorem wait? (h : Beside a b) : b.wait? = a.wait? := by
  rw [Lab.wait?, Lab.wait?, h.cell, h.released]

theorem setBench (h : Beside a b) (bench : Bench) : Beside (a.setBench bench) (b.setBench bench) :=
  ⟨congrArg (fun c => { c with bench }) h.control, h.now, h.setup⟩

theorem setCell (h : Beside a b) (cell : Cell) : Beside (a.setCell cell) (b.setCell cell) :=
  ⟨congrArg (fun c => { c with cell }) h.control, h.now, h.setup⟩

theorem tell (h : Beside a b) (change : Change) : Beside (a.tell change) (b.tell change) :=
  ⟨h.control, h.now, h.setup⟩

theorem report (h : Beside a b) (s : State) : Beside (a.report s) (b.report s) :=
  ⟨congrArg (fun c => { c with cell := c.cell.publish s }) h.control, h.now, h.setup⟩

theorem reportAll (h : Beside a b) (states : List State) :
    Beside (a.reportAll states) (b.reportAll states) := by
  induction states generalizing a b with
  | nil => exact h
  | cons s rest ih => exact ih (h.report s)

/-- What is about the sinks or the entries may be done in one of the two alone. -/
theorem left (h : Beside a b) {operation : Operation} (hop : operation.aside = true) :
    Beside (a.perform operation).1 b ∧ (a.perform operation).1.outlets = a.outlets := by
  cases operation with
  | addSink | setEntry | removeEntry => exact ⟨⟨h.control, h.now, h.setup⟩, rfl⟩
  | _ => cases hop

theorem right (h : Beside a b) {operation : Operation} (hop : operation.aside = true) :
    Beside a (b.perform operation).1 := by
  cases operation with
  | addSink | setEntry | removeEntry => exact ⟨h.control, h.now, h.setup⟩
  | _ => cases hop

end Beside

/-! ## What is seen of two labs -/

/-- Two labs are taken from beside one another to beside one another.  Those who listen to either are
told of the same changes, which are those that happen, and a listener who begins with one picture
ends with the other. -/
structure Seen (p : Picture) (a b : Lab) (moments : List Moment) (p' : Picture) (a' b' : Lab) :
    Prop where
  beside : Beside a' b'
  told : ∃ changes, Lab.Told a changes a' ∧ Lab.Told b changes b' ∧ p.replay? changes = some p' ∧
    changes.Perm (tale moments)

/-- Two labs go abreast, before the eyes of listeners whose pictures are true at both ends. -/
abbrev Abreast (a b : Lab) (moments : List Moment) (a' b' : Lab) : Prop :=
  Seen a.picture a b moments a'.picture a' b'

namespace Seen

variable {p q r : Picture} {a b a' b' a'' b'' : Lab} {moments first second : List Moment}

theorem trans (h : Seen p a b first q a' b') (h' : Seen q a' b' second r a'' b'') :
    Seen p a b (first ++ second) r a'' b'' := by
  obtain ⟨changes, ha, hb, hreplay, hperm⟩ := h.told
  obtain ⟨changes', ha', hb', hreplay', hperm'⟩ := h'.told
  refine ⟨h'.beside, changes ++ changes', ha.trans ha', hb.trans hb', ?_, ?_⟩
  · rw [Picture.replay?_append, hreplay]
    exact hreplay'
  · rw [tale_append]
    exact hperm.append hperm'

/-- What tells of nothing leaves the pictures as they are. -/
theorem silent (h : Beside a' b') (ha : Lab.Told a [] a') (hb : Lab.Told b [] b')
    (htale : tale moments = []) : Seen p a b moments p a' b' :=
  ⟨h, [], ha, hb, rfl, by rw [htale]⟩

theorem refl (h : Beside a b) : Seen p a b [] p a b := silent h (.refl a) (.refl b) rfl

end Seen

namespace Abreast

variable {a b : Lab}

theorem setBench (h : Beside a b) (bench : Bench) :
    Abreast a b [] (a.setBench bench) (b.setBench bench) :=
  Seen.silent (h.setBench bench) (.setBench a bench) (.setBench b bench) rfl

theorem reportAll (h : Beside a b) (states : List State) :
    Abreast a b (a.reportTrail states) (a.reportAll states) (b.reportAll states) := by
  have hpicture : (a.reportAll states).picture =
      { a.picture with state := (Cell.publishAll states a.target.cell).state } := by
    rw [Lab.picture, Lab.reportAll_target]
    rfl
  have hb := Lab.Told.reportAll b states
  rw [h.cell] at hb
  refine ⟨h.reportAll states, _, .reportAll a states, hb, ?_, ?_⟩
  · rw [hpicture]
    exact a.picture.replay?_transitions a.target.cell rfl states
  · rw [tale_reportTrail]

/-- A call on a device, and the states that are reported in the course of it. -/
theorem call (h : Beside a b) (bench : Bench) (states : List State) :
    Abreast a b ((a.setBench bench).reportTrail states) ((a.setBench bench).reportAll states)
      ((b.setBench bench).reportAll states) :=
  (setBench h bench).trans (reportAll (h.setBench bench) states)

/-! ### Slots -/

theorem attach (h : Beside a b) {kind : Capability} (device : Device)
    (vacant : a.target.slots kind = none) :
    Abreast a b [⟨.attached kind device, (a.fillSlot kind device).tell (.attached kind)⟩]
      ((a.fillSlot kind device).tell (.attached kind))
      ((b.fillSlot kind device).tell (.attached kind)) := by
  have hbeside : Beside ((a.fillSlot kind device).tell (.attached kind))
      ((b.fillSlot kind device).tell (.attached kind)) :=
    ⟨congrArg (fun c => { c with slots := c.slots.fill kind device }) h.control, h.now, h.setup⟩
  have htold : ∀ lab : Lab, Lab.Told lab [.attached kind]
      ((lab.fillSlot kind device).tell (.attached kind)) := fun lab => ⟨rfl, rfl, rfl, rfl⟩
  refine ⟨hbeside, _, htold a, htold b, ?_, .refl _⟩
  have hvacant : ¬ a.picture.held kind = true := by
    show ¬ a.target.slots.has kind = true
    rw [Slots.has_of_none vacant]
    decide
  have hmark : a.picture.mark kind true =
      ((a.fillSlot kind device).tell (.attached kind)).picture := by
    have hheld : ∀ k, (if k = kind then true else a.target.slots.has k) =
        (a.target.slots.fill kind device).has k := by
      intro k
      rw [Slots.has, Slots.has, Slots.fill_apply]
      split <;> rfl
    exact congrArg (Picture.mk a.target.cell.state) (funext hheld)
  show (a.picture.see? (.attached kind)).bind _ = _
  rw [Picture.see?, if_neg hvacant, Option.bind_some, hmark]
  rfl

theorem attachLabelled (h : Beside a b) (x : Attachment) :
    Abreast a b (a.attachTrail x) (a.attachLabelled x).1 (b.attachLabelled x).1 ∧
      (b.attachLabelled x).2 = (a.attachLabelled x).2 := by
  have hset := setBench h (a.obtained x).1
  rw [Lab.attachTrail, Lab.attachLabelled_eq, Lab.attachLabelled_eq, h.obtained]
  cases hslot : a.target.slots x.kind with
  | some held =>
    have ha : (a.setBench (a.obtained x).1).target.slots.has x.kind = true := Slots.has_of_some hslot
    have hb : (b.setBench (a.obtained x).1).target.slots.has x.kind = true := by
      rw [hset.beside.slots]
      exact ha
    rw [Lab.attach_of_has ha, Lab.attach_of_has hb, hset.beside.name]
    exact ⟨hset, rfl⟩
  | none =>
    have ha : (a.setBench (a.obtained x).1).target.slots x.kind = none := hslot
    have hb : (b.setBench (a.obtained x).1).target.slots x.kind = none := by
      rw [hset.beside.slots]
      exact ha
    rw [Lab.attach_of_none ha, Lab.attach_of_none hb]
    exact ⟨hset.trans (attach hset.beside (a.obtained x).2 ha), rfl⟩

end Abreast

/-! ### Releases -/

namespace Seen

variable {p : Picture} {a b : Lab}

/-- A release of a slot that is occupied in the picture.  It is told after the reports that the
device makes meanwhile. -/
theorem release (h : Beside a b) (hp : a.target.cell.state = p.state) {kind : Capability}
    (held : p.held kind = true) (device : Device) :
    Seen p a b (a.releaseTrail kind (some device))
      ⟨(a.release kind (some device)).target.cell.state, (p.mark kind false).held⟩
      (a.release kind (some device)) (b.release kind (some device)) := by
  have hbeside : Beside (a.release kind (some device)) (b.release kind (some device)) := by
    rw [Lab.release_some, Lab.release_some, h.bench]
    exact ((h.setBench _).reportAll _).tell (.detached kind)
  have hb := Lab.Told.release b kind device
  rw [h.bench, h.cell] at hb
  refine ⟨hbeside, _, .release a kind device, hb, ?_, ?_⟩
  · rw [Picture.replay?_append, p.replay?_transitions _ hp, Option.bind_some, Picture.replay?,
      Picture.see?, if_pos held, Lab.release_some, Lab.tell_target, Lab.reportAll_target]
    rfl
  · have htale := tale_reportTrail (a.setBench (a.bench.shutdown device).bench)
      (a.bench.shutdown device).states
    show List.Perm _ (.detached kind :: tale ((a.setBench _).reportTrail _))
    rw [htale]
    exact List.perm_append_singleton _ _

theorem releaseAll (slots : Slots Device) {kinds : List Capability} (hnodup : kinds.Nodup)
    (h : Beside a b) (hp : a.target.cell.state = p.state)
    (hheld : ∀ k ∈ kinds, p.held k = slots.has k) :
    Seen p a b (Lab.releasesTrail slots kinds a)
      ⟨(a.releaseAll slots kinds).target.cell.state, p.without kinds⟩
      (a.releaseAll slots kinds) (b.releaseAll slots kinds) := by
  induction kinds generalizing a b p with
  | nil =>
    rw [Lab.releaseAll_nil, Lab.releaseAll_nil, Picture.without_nil, hp]
    exact refl h
  | cons kind kinds ih =>
    obtain ⟨hkind, hnodup⟩ := List.nodup_cons.mp hnodup
    have hfirst := hheld kind List.mem_cons_self
    have hrest : ∀ k ∈ kinds, p.held k = slots.has k :=
      fun k hk => hheld k (List.mem_cons_of_mem kind hk)
    rw [Lab.releasesTrail, Lab.releaseAll_cons, Lab.releaseAll_cons]
    cases hslot : slots kind with
    | none =>
      rw [Slots.has_of_none hslot] at hfirst
      rw [Picture.without_cons_of_vacant hfirst]
      exact ih hnodup h hp hrest
    | some device =>
      rw [Slots.has_of_some hslot] at hfirst
      have hrelease := release h hp hfirst device
      have hmarked : ∀ k ∈ kinds, (p.mark kind false).held k = slots.has k := by
        intro k hk
        have hne : k ≠ kind := fun heq => hkind (heq ▸ hk)
        exact (if_neg hne).trans (hrest k hk)
      rw [Picture.without_cons]
      exact hrelease.trans (ih hnodup hrelease.beside rfl hmarked)

end Seen

namespace Abreast

variable {a b : Lab}

theorem shutdown (h : Beside a b) : Abreast a b a.shutdownTrail a.shutdown b.shutdown := by
  have htake : Beside a.takeSlots b.takeSlots :=
    ⟨congrArg (fun c => { c with slots := .empty }) h.control, h.now, h.setup⟩
  have hstart : Seen a.picture a b [] a.picture a.takeSlots b.takeSlots :=
    Seen.silent htake (.takeSlots a) (.takeSlots b) rfl
  have hnodup : Capability.all.Nodup := by decide
  have hreleases := Seen.releaseAll (p := a.picture) a.target.slots hnodup htake rfl fun _ _ => rfl
  have hend : a.shutdown.picture =
      ⟨a.shutdown.target.cell.state, a.picture.without Capability.all⟩ := by
    obtain ⟨cell, htarget⟩ := a.shutdown_target
    rw [Lab.picture, Picture.without_all, htarget]
    rfl
  rw [Abreast, hend, Lab.shutdown, Lab.shutdown, h.slots]
  exact hstart.trans hreleases

/-! ### Requests -/

theorem serve (h : Beside a b) (device : Device) (request : Request) :
    Abreast a b (a.serveTrail device request) (a.serve device request).1
        (b.serve device request).1 ∧
      (b.serve device request).2 = (a.serve device request).2 := by
  rw [Lab.serve, Lab.serve, h.bench]
  exact ⟨call h _ _, rfl⟩

theorem act (h : Beside a b) (request : Request) :
    Abreast a b (a.actTrail request) (a.act request).1 (b.act request).1 ∧
      (b.act request).2 = (a.act request).2 := by
  rw [Lab.actTrail]
  have hslots := congrFun h.slots request.action.capability
  cases hslot : a.target.slots request.action.capability with
  | none =>
    rw [hslot] at hslots
    rw [Lab.act_of_vacant hslot, Lab.act_of_vacant hslots]
    exact ⟨Seen.refl h, rfl⟩
  | some device =>
    rw [hslot] at hslots
    by_cases hstate : a.target.cell.state = request.action.required
    · have hstate' : b.target.cell.state = request.action.required := by
        rw [h.cell]
        exact hstate
      rw [Lab.act_of_passes hslot hstate, Lab.act_of_passes hslots hstate', h.cell,
        Action.check_some, if_pos hstate]
      have hset := h.setCell (request.action.mark a.target.cell)
      -- the state is the same before and after the request is let through
      have hpicture : (a.setCell (request.action.mark a.target.cell)).picture = a.picture :=
        congrArg (Picture.mk · a.target.slots.has) (request.action.mark_state a.target.cell)
      have hpass : Abreast a b
          [⟨.passed request, a.setCell (request.action.mark a.target.cell)⟩]
          (a.setCell (request.action.mark a.target.cell))
          (b.setCell (request.action.mark a.target.cell)) := by
        rw [Abreast, hpicture]
        exact Seen.silent hset (.setCell a _) (.setCell b _) rfl
      obtain ⟨hserve, houtcome⟩ := serve hset device request
      exact ⟨hpass.trans hserve, houtcome⟩
    · have hstate' : b.target.cell.state ≠ request.action.required := by
        rw [h.cell]
        exact hstate
      rw [Lab.act_of_wrongState hslot hstate, Lab.act_of_wrongState hslots hstate', h.cell,
        Action.check_some, if_neg hstate]
      exact ⟨Seen.refl h, rfl⟩

/-! ### Initialization -/

/-- The entries of both may be replaced, by different ones. -/
theorem withEntries (h : Beside a b) (x y : Entries) :
    Abreast a b [] (a.withEntries x) (b.withEntries y) := by
  have hbeside : Beside (a.withEntries x) (b.withEntries y) :=
    ⟨h.control, h.now, h.setup⟩
  exact Seen.silent hbeside ⟨rfl, rfl, rfl, rfl⟩ ⟨rfl, rfl, rfl, rfl⟩ rfl

theorem setInitialized (h : Beside a b) (flag : Bool) :
    Abreast a b [] (a.setInitialized flag) (b.setInitialized flag) := by
  have hbeside : Beside (a.setInitialized flag) (b.setInitialized flag) :=
    ⟨congrArg (fun c => { c with initialized := flag }) h.control, h.now, h.setup⟩
  exact Seen.silent hbeside ⟨rfl, rfl, rfl, rfl⟩ ⟨rfl, rfl, rfl, rfl⟩ rfl

theorem countRun (h : Beside a b) : Abreast a b [] a.countRun b.countRun := by
  have hbeside : Beside a.countRun b.countRun :=
    ⟨congrArg (fun c => { c with runs := c.runs + 1 }) h.control, h.now, h.setup⟩
  exact Seen.silent hbeside ⟨rfl, rfl, rfl, rfl⟩ ⟨rfl, rfl, rfl, rfl⟩ rfl

theorem take (h : Beside a b) (step : SetupStep) :
    Abreast a b (a.takeTrail step) (a.take step).1 (b.take step).1 ∧
      (b.take step).2 = (a.take step).2 := by
  cases step with
  | nested => exact ⟨Seen.refl h, rfl⟩
  | report state => exact ⟨reportAll h [state], rfl⟩
  | attach x => exact attachLabelled h x
  | offer x => exact ⟨(attachLabelled h x).1, rfl⟩
  | act request => exact ⟨(act h request).1, rfl⟩
  | setEntry key value => exact ⟨withEntries h _ _, rfl⟩
  | removeEntry key => exact ⟨withEntries h _ _, rfl⟩
  | shutdown => exact ⟨shutdown h, rfl⟩

/-- A step that is about the entries may be taken by one of the two alone. -/
theorem take_aside {step : SetupStep} (hstep : step.aside = true) (lab : Lab) :
    ∃ entries, lab.take step = (lab.withEntries entries, .ok ()) ∧ lab.takeTrail step = [] := by
  cases step with
  | setEntry key value => exact ⟨_, rfl, rfl⟩
  | removeEntry key => exact ⟨_, rfl, rfl⟩
  | nested | report | attach | offer | act | shutdown => cases hstep

theorem setupSteps {first second : List SetupStep} (hsteps : SameBut SetupStep.aside first second)
    (h : Beside a b) :
    Abreast a b (Lab.setupTrail first a) (Lab.setupSteps Lab.quiet first a).1
        (Lab.setupSteps Lab.quiet second b).1 ∧
      (Lab.setupSteps Lab.quiet second b).2 = (Lab.setupSteps Lab.quiet first a).2 := by
  induction hsteps generalizing a b with
  | nil => exact ⟨Seen.refl h, rfl⟩
  | @cons step first second hrest ih =>
    obtain ⟨htake, houtcome⟩ := take h step
    rw [Lab.setupTrail, Lab.setupSteps_cons, Lab.setupSteps_cons]
    rw [Lab.take, Lab.take] at htake houtcome
    rw [Lab.take]
    revert htake houtcome
    rcases Lab.setupStep Lab.quiet a step with ⟨a', outcome⟩
    rcases Lab.setupStep Lab.quiet b step with ⟨b', outcome'⟩
    rintro htake rfl
    cases outcome' with
    | error failure =>
      rw [List.append_nil]
      exact ⟨htake, rfl⟩
    | ok done =>
      obtain ⟨hlater, hsame⟩ := ih htake.beside
      exact ⟨htake.trans hlater, hsame⟩
  | @left step first second hstep hrest ih =>
    obtain ⟨entries, htake, htrail⟩ := take_aside hstep a
    have halone : Abreast a b [] (a.withEntries entries) b := withEntries h entries b.target.entries
    obtain ⟨hlater, hsame⟩ := ih halone.beside
    rw [Lab.setupTrail, Lab.setupSteps_cons, htrail, htake]
    rw [Lab.take] at htake
    rw [htake]
    exact ⟨halone.trans hlater, hsame⟩
  | @right step first second hstep hrest ih =>
    obtain ⟨entries, htake, -⟩ := take_aside hstep b
    have halone : Abreast a b [] a (b.withEntries entries) := withEntries h a.target.entries entries
    obtain ⟨hlater, hsame⟩ := ih halone.beside
    rw [Lab.take] at htake
    rw [Lab.setupSteps_cons, htake]
    exact ⟨halone.trans hlater, hsame⟩

theorem concluded {moments : List Moment} {r s : Lab × Except Failure Unit}
    (h : Abreast a b moments r.1 s.1) (hsame : s.2 = r.2) :
    Abreast a b moments (Lab.concluded r).1 (Lab.concluded s).1 ∧
      (Lab.concluded s).2 = (Lab.concluded r).2 := by
  obtain ⟨a', outcome⟩ := r
  obtain ⟨b', outcome'⟩ := s
  obtain rfl : outcome' = outcome := hsame
  cases outcome' with
  | error failure =>
    have hboth := h.trans (setInitialized h.beside false)
    rw [List.append_nil] at hboth
    exact ⟨hboth, rfl⟩
  | ok done => exact ⟨h, rfl⟩

theorem runSetup (h : Beside a b) {s t : Setup} (hakin : Setup.Akin s t) :
    Abreast a b (Lab.setupTrail (s (a.target.runs + 1)).steps a.countRun)
        (Lab.runSetup Lab.quiet s a).1 (Lab.runSetup Lab.quiet t b).1 ∧
      (Lab.runSetup Lab.quiet t b).2 = (Lab.runSetup Lab.quiet s a).2 := by
  obtain ⟨hsteps, hfailure⟩ := hakin (a.target.runs + 1)
  have hstart := countRun h
  obtain ⟨hlater, hsame⟩ := setupSteps hsteps hstart.beside
  rw [Lab.runSetup_eq, Lab.runSetup_eq, h.runs, hsame]
  refine ⟨hstart.trans hlater, ?_⟩
  show Lab.ending (t _) _ = Lab.ending (s _) _
  cases (Lab.setupSteps Lab.quiet (s (a.target.runs + 1)).steps a.countRun).2 with
  | error failure => rfl
  | ok done => rw [Lab.ending, Lab.ending, hfailure]

theorem init (h : Beside a b) :
    Abreast a b a.initTrail a.init.1 b.init.1 ∧ b.init.2 = a.init.2 := by
  have hset := setInitialized h true
  have hsetup := h.setup
  rw [Lab.initTrail, Lab.init_eq, Lab.init_eq, h.initialized]
  cases a.target.initialized with
  | true => exact ⟨Seen.refl h, rfl⟩
  | false =>
    revert hsetup
    generalize hs : a.target.setup = s
    generalize ht : b.target.setup = t
    intro hsetup
    cases hsetup with
    | none => exact ⟨hset, rfl⟩
    | some hakin =>
      obtain ⟨hrun, hsame⟩ := runSetup hset.beside hakin
      exact concluded (hset.trans hrun) hsame

/-! ### Operations -/

theorem wait (h : Beside a b) (states : List State) :
    Abreast a b (a.trail (.wait states)) (a.wait states).1 (b.wait states).1 ∧
      (b.wait states).2 = (a.wait states).2 := by
  have hwait := h.wait?
  rw [Lab.trail]
  cases ha : a.wait? with
  | some told =>
    rw [ha] at hwait
    rw [Lab.wait_of_released ha, Lab.wait_of_released hwait]
    exact ⟨Seen.refl h, rfl⟩
  | none =>
    rw [ha] at hwait
    rw [Lab.wait_of_blocked ha, Lab.wait_of_blocked hwait, h.released]
    exact ⟨reportAll h states, rfl⟩

theorem deliver (h : Beside a b) (handle : Nat) :
    Abreast a b (a.trail (.deliver handle)) (a.deliver handle) (b.deliver handle) := by
  rw [Lab.trail, Lab.deliver, Lab.deliver, h.bench]
  cases (a.bench.processors handle).next? with
  | none => exact Seen.refl h
  | some next =>
    show Abreast a b _ ((a.setProcessor handle next.2).report next.1)
      ((b.setProcessor handle next.2).report next.1)
    rw [Lab.setProcessor, Lab.setProcessor, h.bench]
    exact call h _ [next.1]

/-- Any operation that is not itself one about the sinks or the entries. -/
theorem perform (h : Beside a b) {operation : Operation} (hop : operation.aside = false) :
    Abreast a b (a.trail operation) (a.perform operation).1 (b.perform operation).1 ∧
      (b.perform operation).2 = (a.perform operation).2 := by
  cases operation with
  | addSink | setEntry | removeEntry => cases hop
  | install label part fittings =>
    rw [Lab.perform, Lab.perform, h.bench]
    exact ⟨setBench h _, rfl⟩
  | attach x =>
    obtain ⟨hafter, hsame⟩ := attachLabelled h x
    exact ⟨hafter, congrArg (Except.map fun _ => Answer.done) hsame⟩
  | init =>
    obtain ⟨hafter, hsame⟩ := init h
    exact ⟨hafter, congrArg (Except.map fun _ => Answer.done) hsame⟩
  | shutdown => exact ⟨shutdown h, rfl⟩
  | report state => exact ⟨reportAll h [state], rfl⟩
  | act request =>
    obtain ⟨hafter, hsame⟩ := act h request
    exact ⟨hafter, congrArg (Except.map Answer.reply) hsame⟩
  | wait states =>
    obtain ⟨hafter, hsame⟩ := wait h states
    rw [Lab.perform_wait, Lab.perform_wait, hsame]
    exact ⟨hafter, rfl⟩
  | waitFor limit now =>
    rw [Lab.perform_waitFor, Lab.perform_waitFor, Lab.waitFor_eq, Lab.waitFor_eq, h.wait?, h.name]
    exact ⟨Seen.refl h, rfl⟩
  | deliver handle => exact ⟨deliver h handle, rfl⟩
  | serve handle request =>
    obtain ⟨hafter, hsame⟩ := serve h (request.part, handle) request
    exact ⟨hafter, congrArg (Except.map Answer.reply) hsame⟩
  | signal handle states =>
    rw [Lab.perform, Lab.perform, Lab.signal, Lab.signal, h.bench]
    show Abreast a b _ ((a.setProcessor handle _).reportAll _) ((b.setProcessor handle _).reportAll _) ∧ _
    rw [Lab.setProcessor, Lab.setProcessor, h.bench]
    exact ⟨call h _ _, rfl⟩
  | arm handle fault =>
    rw [Lab.perform, Lab.perform, Lab.setProcessor, Lab.setProcessor, h.bench]
    exact ⟨setBench h _, rfl⟩
  | load handle address data =>
    rw [Lab.perform, Lab.perform, Lab.setMemory, Lab.setMemory, h.bench]
    exact ⟨setBench h _, rfl⟩
  | close part handle =>
    rw [Lab.perform, Lab.perform, Lab.close, Lab.close, h.bench]
    exact ⟨call h _ _, rfl⟩

end Abreast
end TargetControl
