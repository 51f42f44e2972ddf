import TargetControl.Proofs.Chronicle

/-!
The history of a target, and what it says of the pair and of the waits.

Two things bear on the pair: a report, and letting through a request that changes the state of
execution.  The state is the one reported last, and the pair is settled exactly when the last thing
that bears on it was a report.  This holds at every moment of a run, so also between two reports
that a device makes within one call.  What a wait is told follows from it.
-/

namespace TargetControl

/-- What bears on the pair. -/
inductive Mark where
  | report (s : State)
  /-- a request that changes the state of execution is let through -/
  | request
deriving DecidableEq

def Mark.report? : Mark → Option State
  | .report s => some s
  | .request => none

def Happening.mark? : Happening → Option Mark
  | .reported _ after => some (.report after)
  | .passed request => if request.action.unsettles then some .request else none
  | .attached .. | .released .. => none

/-- What bears on the pair among some moments. -/
def history (moments : List Moment) : List Mark := moments.filterMap fun m => m.what.mark?

theorem history_cons (m : Moment) (rest : List Moment) :
    history (m :: rest) = m.what.mark?.toList ++ history rest := by
  rw [history, List.filterMap_cons]
  cases m.what.mark? <;> rfl

/-! ## The pair -/

/-- The pair is the one that a history leaves. -/
structure PairLaw (marks : List Mark) (cell : Cell) : Prop where
  /-- the state reported last, or the first state of a target -/
  state : cell.state = (marks.filterMap Mark.report?).getLast?.getD .created
  settled : cell.settled = true ↔ ∃ s, marks.getLast? = some (.report s)

namespace PairLaw

variable {marks : List Mark} {cell : Cell}

theorem fresh : PairLaw [] .fresh :=
  ⟨rfl, fun h => (Bool.false_ne_true h).elim, fun ⟨_, h⟩ => by cases h⟩

theorem lastReport (marks : List Mark) (s : State) :
    ((marks ++ [Mark.report s]).filterMap Mark.report?).getLast? = some s := by
  have hsplit : (marks ++ [Mark.report s]).filterMap Mark.report? =
      marks.filterMap Mark.report? ++ [s] := List.filterMap_append
  rw [hsplit, List.getLast?_concat]

theorem publish (marks : List Mark) (cell : Cell) (s : State) :
    PairLaw (marks ++ [.report s]) (cell.publish s) := by
  refine ⟨?_, fun _ => ⟨s, List.getLast?_concat⟩, fun _ => rfl⟩
  rw [lastReport]
  rfl

theorem unsettle (h : PairLaw marks cell) : PairLaw (marks ++ [.request]) cell.unsettle := by
  refine ⟨?_, fun hsettled => (Bool.false_ne_true hsettled).elim, ?_⟩
  · have hsame : (marks ++ [Mark.request]).filterMap Mark.report? = marks.filterMap Mark.report? := by
      rw [List.filterMap_append]
      exact List.append_nil _
    rw [hsame, ← h.state, Cell.unsettle_state]
  · rintro ⟨s, hs⟩
    rw [List.getLast?_concat] at hs
    cases hs

/-- Letting a request through keeps the law, whether or not the request bears on the pair. -/
theorem pass (h : PairLaw marks cell) (request : Request) :
    PairLaw (marks ++ (Happening.passed request).mark?.toList) (request.action.mark cell) := by
  rw [Happening.mark?, Action.mark]
  cases request.action.unsettles with
  | true => exact h.unsettle
  | false =>
    show PairLaw (marks ++ []) cell
    rw [List.append_nil]
    exact h

theorem of_nil (h : PairLaw [] cell) : cell.settled = false := by
  refine Bool.eq_false_iff.mpr fun hs => ?_
  obtain ⟨s, hs⟩ := h.settled.mp hs
  cases hs

theorem of_report {s : State} (h : PairLaw (marks ++ [.report s]) cell) : cell = ⟨s, true⟩ := by
  have hstate : cell.state = s := by
    rw [h.state, lastReport]
    rfl
  have hsettled : cell.settled = true := h.settled.mpr ⟨s, List.getLast?_concat⟩
  rw [← hstate, ← hsettled]

theorem of_request (h : PairLaw (marks ++ [.request]) cell) : cell.settled = false := by
  refine Bool.eq_false_iff.mpr fun hs => ?_
  obtain ⟨s, hs⟩ := h.settled.mp hs
  rw [List.getLast?_concat] at hs
  cases hs

/-- Some history leaves a pair. -/
theorem exists_marks (cell : Cell) :
    ∃ marks, PairLaw marks cell ∧ (marks.filterMap Mark.report?).getLast? = some cell.state := by
  obtain ⟨state, settled⟩ := cell
  have hreported : PairLaw [.report state] ⟨state, true⟩ := publish [] .fresh state
  cases settled with
  | true => exact ⟨_, hreported, rfl⟩
  | false => exact ⟨_, hreported.unsettle, rfl⟩

end PairLaw

/-! ## Every moment -/

/-- After some marks, the law holds at each of some moments, and of a lab when they are over. -/
def Follows : List Mark → List Moment → Lab → Prop
  | marks, [], lab => PairLaw marks lab.target.cell
  | marks, m :: rest, lab =>
    PairLaw (marks ++ m.what.mark?.toList) m.lab.target.cell ∧
      Follows (marks ++ m.what.mark?.toList) rest lab

namespace Follows

variable {marks : List Mark} {lab after : Lab}

theorem append {first second : List Moment} (h : Follows marks first lab)
    (hnext : PairLaw (marks ++ history first) lab.target.cell →
      Follows (marks ++ history first) second after) :
    Follows marks (first ++ second) after := by
  induction first generalizing marks with
  | nil =>
    rw [history, List.filterMap_nil, List.append_nil] at hnext
    exact hnext h
  | cons m rest ih =>
    rw [history_cons, ← List.append_assoc] at hnext
    exact ⟨h.1, ih h.2 hnext⟩

theorem of_cell {moments : List Moment} (h : Follows marks moments lab)
    (hcell : after.target.cell = lab.target.cell) : Follows marks moments after := by
  induction moments generalizing marks with
  | nil =>
    rw [Follows, hcell]
    exact h
  | cons m rest ih => exact ⟨h.1, ih h.2⟩

theorem last {moments : List Moment} (h : Follows marks moments lab) :
    PairLaw (marks ++ history moments) lab.target.cell := by
  induction moments generalizing marks with
  | nil =>
    rw [history, List.filterMap_nil, List.append_nil]
    exact h
  | cons m rest ih =>
    rw [history_cons, ← List.append_assoc]
    exact ih h.2

theorem at_moment {first rest : List Moment} {m : Moment}
    (h : Follows marks (first ++ m :: rest) lab) :
    PairLaw (marks ++ history (first ++ [m])) m.lab.target.cell := by
  induction first generalizing marks with
  | nil =>
    rw [List.nil_append, history_cons, history, List.filterMap_nil, List.append_nil]
    exact h.1
  | cons first firsts ih =>
    rw [List.cons_append, history_cons, ← List.append_assoc]
    exact ih h.2

end Follows

namespace Lab

variable {marks : List Mark}

theorem follows_reportAll (lab : Lab) (states : List State)
    (h : PairLaw marks lab.target.cell) :
    Follows marks (lab.reportTrail states) (lab.reportAll states) := by
  induction states generalizing lab marks with
  | nil => exact h
  | cons s rest ih =>
    have hs := PairLaw.publish marks lab.target.cell s
    exact ⟨hs, ih (lab.report s) hs⟩

theorem follows_release (lab : Lab) (kind : Capability) (slot : Option Device)
    (h : PairLaw marks lab.target.cell) :
    Follows marks (lab.releaseTrail kind slot) (lab.release kind slot) := by
  cases slot with
  | none => exact h
  | some device =>
    -- shutting the device down does not bear on the pair, but it may report meanwhile
    have hmark : marks ++ (Happening.released kind device).mark?.toList = marks :=
      List.append_nil marks
    have hreports := follows_reportAll (lab.setBench (lab.bench.shutdown device).bench)
      (lab.bench.shutdown device).states h
    rw [releaseTrail]
    refine ⟨?_, ?_⟩
    · rw [hmark]
      exact h
    · rw [hmark]
      exact hreports.of_cell rfl

theorem follows_releaseAll (slots : Slots Device) (kinds : List Capability) (lab : Lab)
    (h : PairLaw marks lab.target.cell) :
    Follows marks (releasesTrail slots kinds lab) (lab.releaseAll slots kinds) := by
  induction kinds generalizing lab marks with
  | nil => exact h
  | cons kind kinds ih =>
    exact (follows_release lab kind (slots kind) h).append fun hnext => ih _ hnext

end Lab

theorem Move.follows {tampered : Prop} {a b : Lab} {moments : List Moment} {marks : List Mark}
    (hmove : Move tampered a moments b) (h : PairLaw marks a.target.cell) :
    Follows marks moments b := by
  cases hmove with
  | idle hidle =>
    rw [← hidle.cell] at h
    exact h
  | install label part fittings => exact h
  | report s => exact ⟨.publish marks a.target.cell s, .publish marks a.target.cell s⟩
  | pass slot state => exact ⟨h.pass _, h.pass _⟩
  | attach vacant fits labelled =>
    have hnil := h
    rw [← List.append_nil marks] at hnil
    exact ⟨hnil, hnil⟩
  | shutdown => exact Lab.follows_releaseAll _ _ a.takeSlots h
  | close device ht => exact h

theorem Path.follows {tampered : Prop} {a b : Lab} {moments : List Moment} {marks : List Mark}
    (hpath : Path tampered a moments b) (h : PairLaw marks a.target.cell) :
    Follows marks moments b := by
  induction hpath generalizing marks with
  | refl => exact h
  | move hmove _ ih => exact (hmove.follows h).append fun hnext => ih hnext

/-! ## Silence -/

/-- Nothing is reported at some moments. -/
def Silent (moments : List Moment) : Prop :=
  ∀ m ∈ moments, ∀ before after, m.what ≠ .reported before after

theorem Silent.history {moments : List Moment} (h : Silent moments) :
    (history moments).filterMap Mark.report? = [] := by
  rw [TargetControl.history, List.filterMap_filterMap]
  refine List.filterMap_eq_nil_iff.mpr fun m hm => ?_
  cases hwhat : m.what with
  | reported before after => exact absurd hwhat (h m hm before after)
  | passed request =>
    rw [Happening.mark?]
    split <;> rfl
  | attached => rfl
  | released => rfl

/-- Where nothing is reported, the state of the target stays. -/
theorem Path.state_of_silent {tampered : Prop} {a b : Lab} {moments : List Moment}
    (hpath : Path tampered a moments b) (hsilent : Silent moments) :
    b.target.cell.state = a.target.cell.state := by
  obtain ⟨marks, hpair, hlast⟩ := PairLaw.exists_marks a.target.cell
  have hafter := (hpath.follows hpair).last.state
  rw [List.filterMap_append, hsilent.history, List.append_nil, hlast] at hafter
  exact hafter

end TargetControl
