import TargetControl.Proofs.Interleaving

/-!
Sleeping waiters and the reports that wake them.

A waiter takes the lock of the pair and looks.  If the pair does not release it, the waiter falls
asleep, which frees the lock in the same step, and once woken it takes the lock and looks again.  A
publisher changes the pair under the lock and wakes all sleepers only after it has freed the lock.
Between its two steps others may look, fall asleep, publish or let a request through.

`no_lost_wakeup` says that this loses nobody: where a waiter sleeps on a pair that would release it,
some publisher has yet to wake the sleepers.  The reason is in `Watched`.  Whoever falls asleep has
looked at the pair under the lock it still holds, so the report that makes the pair release it comes
later, and so does the waking that follows this report.

What a look finds is decided by the last thing that bears on the pair, `next_look`.  A stop that is
followed by another report before the waiter looks again leaves no trace in the pair.
-/

namespace TargetControl

inductive Waiter where
  | away
  /-- it has found that it has to wait, and still has the lock -/
  | holding
  | asleep
  | woken
  | told (r : Release)
deriving DecidableEq, Repr

/-- Whether a waiter's next step is to take the lock and look. -/
def Waiter.looks : Waiter → Bool
  | .away | .woken | .told _ => true
  | .holding | .asleep => false

/-- A pair with its lock, its waiters and its publishers, who are known by numbers. -/
structure Vigil where
  cell : Cell
  /-- the waiter that has the lock between two of its steps -/
  holder : Option Nat
  waiters : Nat → Waiter
  /-- whether a publisher has published and has not woken the sleepers yet -/
  waking : Nat → Bool

namespace Vigil

def opened (cell : Cell) : Vigil :=
  { cell, holder := none, waiters := fun _ => .away, waking := fun _ => false }

/-! ## Steps -/

def move (v : Vigil) (i : Nat) (w : Waiter) : Vigil :=
  { v with waiters := Family.put v.waiters i w }

/-- A waiter takes the lock and looks.  It keeps the lock if it has to wait. -/
def look (v : Vigil) (i : Nat) : Vigil :=
  match v.cell.release? with
  | some r => v.move i (.told r)
  | none => { v.move i .holding with holder := some i }

/-- A waiter with the lock frees it and leaves for another place, in one step. -/
def leave (v : Vigil) (i : Nat) (w : Waiter) : Vigil := { v.move i w with holder := none }

def publish (v : Vigil) (p : Nat) (s : State) : Vigil :=
  { v with cell := v.cell.publish s, waking := Family.put v.waking p true }

/-- A publisher wakes all that sleep. -/
def wake (v : Vigil) (p : Nat) : Vigil :=
  { v with
    waiters := fun i => if v.waiters i = .asleep then .woken else v.waiters i
    waking := Family.put v.waking p false }

/-- One step of a waiter, of a publisher, or of a caller whose request is let through. -/
inductive Step : Vigil → List Mark → Vigil → Prop where
  | look {v : Vigil} {i : Nat} (free : v.holder = none) (looks : (v.waiters i).looks = true) :
    Step v [] (v.look i)
  | sleep {v : Vigil} {i : Nat} (holds : v.waiters i = .holding) : Step v [] (v.leave i .asleep)
  /-- a wait with a limit ends where it would sleep beyond it -/
  | expire {v : Vigil} {i : Nat} (holds : v.waiters i = .holding) : Step v [] (v.leave i .away)
  /-- a waiter wakes up without being woken -/
  | stir {v : Vigil} {i : Nat} (sleeps : v.waiters i = .asleep) : Step v [] (v.move i .woken)
  | publish {v : Vigil} {p : Nat} (s : State) (free : v.holder = none)
    (idle : v.waking p = false) : Step v [.report s] (v.publish p s)
  | wake {v : Vigil} {p : Nat} (published : v.waking p = true) : Step v [] (v.wake p)
  | pass {v : Vigil} {a : Action} (free : v.holder = none) (state : v.cell.state = a.required) :
    Step v a.marks { v with cell := a.mark v.cell }

theorem look_of_some {v : Vigil} {r : Release} (h : v.cell.release? = some r) (i : Nat) :
    v.look i = v.move i (.told r) := by
  rw [look, h]

theorem look_of_none {v : Vigil} (h : v.cell.release? = none) (i : Nat) :
    v.look i = { v.move i .holding with holder := some i } := by
  rw [look, h]

/-- A waiter that looks is told what the pair says, or has to wait. -/
theorem waiters_look (v : Vigil) (i : Nat) :
    (v.look i).waiters i =
      match v.cell.release? with
      | some r => .told r
      | none => .holding := by
  cases h : v.cell.release? with
  | some r =>
    rw [look_of_some h]
    exact Family.put_same ..
  | none =>
    rw [look_of_none h]
    exact Family.put_same ..

/-- The marks of a walk say what becomes of the pair. -/
theorem cell_of_walk {v w : Vigil} {marks : List Mark} (h : Walk Step v marks w) :
    w.cell = v.cell.follow marks := by
  have hfollows := h.follows (c := cell) (m := some) fun {a b log} hab => by
    rw [List.filterMap_some]
    cases hab with
    | look =>
      rw [look]
      cases a.cell.release? <;> rfl
    | sleep | expire | stir | publish | wake => rfl
    | @pass action => exact (Cell.follow_marks action a.cell).symm
  rwa [List.filterMap_some] at hfollows

end Vigil

/-! ## The invariant -/

/-- One waiter at most has the lock, and it has seen a pair that does not release it.  Whoever sleeps
on a pair that does is about to be woken. -/
structure Watched (v : Vigil) : Prop where
  holder : ∀ i, v.waiters i = .holding ↔ v.holder = some i
  unmet : v.holder ≠ none → v.cell.release? = none
  asleep : ∀ i, v.waiters i = .asleep → v.cell.release? ≠ none → ∃ p, v.waking p = true

namespace Watched

variable {v : Vigil}

theorem opened (cell : Cell) : Watched (.opened cell) :=
  ⟨fun _ => ⟨nofun, nofun⟩, fun h => absurd rfl h, fun _ => nofun⟩

/-- A waiter that neither has the lock nor gets it may move, but to sleep. -/
theorem move (h : Watched v) {i : Nat} {w : Waiter} (hi : v.waiters i ≠ .holding)
    (hholding : w ≠ .holding) (hasleep : w ≠ .asleep) : Watched (v.move i w) := by
  refine ⟨fun j => ?_, h.unmet, fun j hj => ?_⟩
  · show Family.put v.waiters i w j = .holding ↔ _
    rw [Family.put_apply]
    split
    · next hji =>
      rw [hji]
      exact ⟨fun hw => absurd hw hholding, fun hv => absurd ((h.holder i).mpr hv) hi⟩
    · exact h.holder j
  · have hput : Family.put v.waiters i w j = .asleep := hj
    rw [Family.put_apply] at hput
    split at hput
    · exact absurd hput hasleep
    · exact h.asleep j hput

theorem look (h : Watched v) (free : v.holder = none) (i : Nat) : Watched (v.look i) := by
  have hnone : ∀ j, v.waiters j ≠ .holding := by
    intro j hj
    have hheld := (h.holder j).mp hj
    rw [free] at hheld
    cases hheld
  cases hr : v.cell.release? with
  | some r =>
    rw [Vigil.look_of_some hr]
    exact h.move (hnone i) nofun nofun
  | none =>
    rw [Vigil.look_of_none hr]
    refine ⟨fun j => ?_, fun _ => hr, fun j _ hrelease => absurd hr hrelease⟩
    show Family.put v.waiters i .holding j = .holding ↔ some i = some j
    rw [Family.put_apply]
    by_cases hji : j = i
    · rw [if_pos hji, hji]
      exact ⟨fun _ => rfl, fun _ => rfl⟩
    · rw [if_neg hji]
      exact ⟨fun hj => absurd hj (hnone j), fun hs => absurd (Option.some.inj hs).symm hji⟩

/-- Whoever has the lock has seen a pair that does not release it, and nobody has changed the pair
since, so it may fall asleep. -/
theorem leave (h : Watched v) {i : Nat} (holds : v.waiters i = .holding) {w : Waiter}
    (hw : w ≠ .holding) : Watched (v.leave i w) := by
  have hheld : v.holder = some i := (h.holder i).mp holds
  have hr : v.cell.release? = none := h.unmet (by rw [hheld]; nofun)
  refine ⟨fun j => ?_, fun hfree => absurd rfl hfree, fun j _ hrelease => absurd hr hrelease⟩
  show Family.put v.waiters i w j = .holding ↔ none = some j
  rw [Family.put_apply]
  split
  · exact ⟨fun hheld => absurd hheld hw, nofun⟩
  · next hji =>
    refine ⟨fun hj => ?_, nofun⟩
    have hother : some i = some j := hheld.symm.trans ((h.holder j).mp hj)
    exact absurd (Option.some.inj hother).symm hji

theorem publish (h : Watched v) (free : v.holder = none) (p : Nat) (s : State) :
    Watched (v.publish p s) :=
  ⟨h.holder, fun hheld => absurd free hheld, fun _ _ _ => ⟨p, Family.put_same ..⟩⟩

theorem wake (h : Watched v) (p : Nat) : Watched (v.wake p) := by
  refine ⟨fun i => ?_, h.unmet, fun i hi => ?_⟩
  · show (if v.waiters i = .asleep then .woken else v.waiters i) = Waiter.holding ↔
      v.holder = some i
    rw [← h.holder i]
    split
    · next hsleep =>
      rw [hsleep]
      exact ⟨nofun, nofun⟩
    · exact Iff.rfl
  · have hif : (if v.waiters i = .asleep then Waiter.woken else v.waiters i) = .asleep := hi
    split at hif
    · cases hif
    · next hawake => exact absurd hif hawake

/-- Letting a request through can only take a release away. -/
theorem pass (h : Watched v) (free : v.holder = none) (a : Action) :
    Watched { v with cell := a.mark v.cell } := by
  refine ⟨h.holder, fun hheld => absurd free hheld, fun i hi hrelease => h.asleep i hi ?_⟩
  have hmark : (a.mark v.cell).release? ≠ none := hrelease
  rw [Action.mark] at hmark
  split at hmark
  · exact absurd (Cell.release?_unsettle v.cell) hmark
  · exact hmark

theorem step {marks : List Mark} {w : Vigil} (hstep : Vigil.Step v marks w) (h : Watched v) :
    Watched w := by
  cases hstep with
  | @look i free looks => exact h.look free i
  | sleep holds => exact h.leave holds nofun
  | expire holds => exact h.leave holds nofun
  | stir sleeps => exact h.move (by rw [sleeps]; nofun) nofun nofun
  | @publish p s free idle => exact h.publish free p s
  | @wake p published => exact h.wake p
  | @pass a free state => exact h.pass free a

theorem of_walk {cell : Cell} {marks : List Mark} (h : Walk Vigil.Step (.opened cell) marks v) :
    Watched v := h.keeps step (opened cell)

end Watched

/-! ## No waiter is lost -/

theorem Cell.release?_ne_none {c : Cell} :
    c.release? ≠ none ↔ c.settled = true ∧ (c.state = .stopped ∨ c.state = .exited) := by
  rw [Cell.release?_eq]
  cases c.settled with
  | false => simp
  | true => cases c.state <;> decide

/-- Nobody sleeps on a pair that releases, unless the waking is still to come. -/
structure NoLostWakeup (v : Vigil) : Prop where
  pending : ∀ i, v.waiters i = .asleep → v.cell.settled = true →
    (v.cell.state = .stopped ∨ v.cell.state = .exited) → ∃ p, v.waking p = true
  /-- with no publisher in progress, whoever sleeps has to wait -/
  quiet : (∀ p, v.waking p = false) → ∀ i, v.waiters i = .asleep →
    ¬(v.cell.settled = true ∧ (v.cell.state = .stopped ∨ v.cell.state = .exited))
  /-- and where nobody has to wait, the lock is free and every next look is told so -/
  answered : (∀ p, v.waking p = false) → ∀ r, v.cell.release? = some r →
    v.holder = none ∧ ∀ i, (v.waiters i).looks = true ∧ (v.look i).waiters i = .told r

theorem Watched.noLostWakeup {v : Vigil} (h : Watched v) : NoLostWakeup v := by
  have hpending : ∀ i, v.waiters i = .asleep → v.cell.release? ≠ none →
      ¬∀ p, v.waking p = false := by
    intro i hi hr hquiet
    obtain ⟨p, hp⟩ := h.asleep i hi hr
    rw [hquiet p] at hp
    cases hp
  refine
    { pending := fun i hi hsettled hstate =>
        h.asleep i hi (Cell.release?_ne_none.mpr ⟨hsettled, hstate⟩)
      quiet := fun hquiet i hi hready =>
        hpending i hi (Cell.release?_ne_none.mpr hready) hquiet
      answered := fun hquiet r hr => ?_ }
  have hne : v.cell.release? ≠ none := by rw [hr]; nofun
  have hfree : v.holder = none := by
    cases hheld : v.holder with
    | none => rfl
    | some j => exact absurd (h.unmet (by rw [hheld]; nofun)) hne
  refine ⟨hfree, fun i => ⟨?_, ?_⟩⟩
  · cases hi : v.waiters i with
    | holding =>
      have hheld := (h.holder i).mp hi
      rw [hfree] at hheld
      cases hheld
    | asleep => exact absurd hquiet (hpending i hi hne)
    | away | woken | told => rfl
  · rw [Vigil.waiters_look, hr]

/-- In every state that some schedule of waiters, publishers and requests leads to. -/
theorem no_lost_wakeup {cell : Cell} {marks : List Mark} {v : Vigil}
    (h : Walk Vigil.Step (.opened cell) marks v) : NoLostWakeup v :=
  (Watched.of_walk h).noLostWakeup

/-- A new target whose first waiter has looked and has the lock. -/
def Vigil.met : Vigil := (Vigil.opened .fresh).look 0

def Vigil.dozing : Vigil := Vigil.met.leave 0 .asleep

theorem Vigil.walk_met : Walk Vigil.Step (.opened .fresh) [] met :=
  .one (.look rfl rfl)

theorem Vigil.walk_dozing : Walk Vigil.Step met [] dozing :=
  .one (.sleep rfl)

theorem no_lost_wakeup_dozing :
    (Vigil.dozing.publish 0 .stopped).waiters 0 = .asleep ∧
      (Vigil.dozing.publish 0 .stopped).cell = ⟨.stopped, true⟩ ∧
      (Vigil.dozing.publish 0 .stopped).waking 0 = true ∧
      NoLostWakeup (Vigil.dozing.publish 0 .stopped) := by
  have hpublish : Walk Vigil.Step .dozing [.report .stopped] (Vigil.dozing.publish 0 .stopped) :=
    .one (.publish .stopped rfl rfl)
  exact ⟨rfl, rfl, rfl, no_lost_wakeup (Vigil.walk_met.trans (Vigil.walk_dozing.trans hpublish))⟩

/-! ## What the next look finds -/

/-- What a waiter is told that looks once after some reports. -/
structure NextLook (reports : List State) (v : Vigil) (i : Nat) : Prop where
  stopped : (v.look i).waiters i = .told .stopped ↔ reports.getLast? = some .stopped
  exited : (v.look i).waiters i = .told .exited ↔ reports.getLast? = some .exited
  waits : (v.look i).waiters i = .holding ↔
    ∀ s, reports.getLast? = some s → s ≠ .stopped ∧ s ≠ .exited

theorem nextLook_of_release? {reports : List State} {v : Vigil}
    (h : v.cell.release? = reports.getLast?.bind State.release?) (i : Nat) :
    NextLook reports v i := by
  have hlook := v.waiters_look i
  rw [h] at hlook
  cases hlast : reports.getLast? with
  | none =>
    rw [hlast] at hlook
    refine ⟨?_, ?_, ?_⟩ <;> rw [hlook, hlast] <;> simp
  | some s =>
    rw [hlast, Option.bind_some] at hlook
    refine ⟨?_, ?_, ?_⟩ <;> rw [hlook, hlast] <;> cases s <;> simp [State.release?]

/-- Since a waiter was found to wait, or a request was let through, the last report alone decides
what the waiter's next look finds. -/
theorem next_look {cell : Cell} {marks : List Mark} {v w : Vigil}
    (hv : Walk Vigil.Step (.opened cell) marks v) {i : Nat}
    (hsince : v.waiters i = .holding ∨ v.cell.settled = false) {reports : List State}
    (hw : Walk Vigil.Step v (reports.map .report) w) : NextLook reports w i := by
  have hunmet : v.cell.release? = none := by
    rcases hsince with hholds | hunsettled
    · have hwatched := Watched.of_walk hv
      have hheld := (hwatched.holder i).mp hholds
      exact hwatched.unmet (by rw [hheld]; nofun)
    · rw [Cell.release?_eq, hunsettled]
      rfl
  refine nextLook_of_release? ?_ i
  rw [Vigil.cell_of_walk hw, Cell.release?_follow, List.getLast?_map]
  cases reports.getLast? with
  | none => exact hunmet
  | some s => rfl

/-- A publisher publishes and wakes the sleepers before anybody else takes a step. -/
theorem Vigil.walk_report {v : Vigil} (p : Nat) (s : State) (free : v.holder = none)
    (idle : v.waking p = false) : Walk Vigil.Step v [.report s] ((v.publish p s).wake p) := by
  have hpublish : Walk Step v [.report s] (v.publish p s) := .one (.publish s free idle)
  have hwake : Walk Step (v.publish p s) [] ((v.publish p s).wake p) :=
    .one (.wake (Family.put_same ..))
  exact hpublish.trans hwake

/-- A waiter that was asleep during two reports. -/
def Vigil.roused : Vigil :=
  (((Vigil.dozing.publish 0 .stopped).wake 0).publish 0 .running).wake 0

theorem Vigil.walk_roused : Walk Vigil.Step met [.report .stopped, .report .running] roused :=
  walk_dozing.trans ((walk_report 0 .stopped rfl rfl).trans (walk_report 0 .running rfl rfl))

theorem next_look_roused :
    Vigil.met.waiters 0 = .holding ∧ NextLook [.stopped, .running] Vigil.roused 0 :=
  ⟨rfl, next_look Vigil.walk_met (.inl rfl) Vigil.walk_roused⟩

/-- A stop that is followed by another report before the waiter looks again does not release it, nor
does it release a wait that begins then. -/
theorem stop_missed :
    Vigil.met.waiters 0 = .holding ∧
      Walk Vigil.Step .met [.report .stopped, .report .running] .roused ∧
      Vigil.roused.waiters 0 = .woken ∧ (Vigil.roused.look 0).waiters 0 = .holding ∧
      history (Lab.halted.chronicle [.act (.processor .cont), .signal 0 [.stopped],
        .report .running]) =
        [.request, .report .running, .report .stopped, .report .running] ∧
      (Lab.halted.run [.act (.processor .cont), .signal 0 [.stopped], .report .running]).wait? =
        none :=
  ⟨rfl, Vigil.walk_roused, rfl, rfl, rfl, rfl⟩

end TargetControl
