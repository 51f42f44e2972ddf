import TargetControl.Proofs.Abreast
import TargetControl.Proofs.SetupRuns

/-!
Sinks and entries have no say in what a target does.

Two sessions may differ in who listens, in whether and when the sinks fail, in the entries that are
set beside the state, from outside or in the setup, and in when the status is read.  Everything else
goes the same way in both: the answers, the target and its devices after each operation, and the
events that are emitted.  What becomes of the events in the sinks is the sinks' own affair.
-/

namespace TargetControl

inductive Turn where
  | perform (operation : Operation)
  /-- the status is read -/
  | status

def Turn.aside : Turn → Bool
  | .perform operation => operation.aside
  | .status => true

/-- What an operation comes to: its answer, the target and the devices after it, and the events
that were emitted in the course of it. -/
structure Passage where
  answer : Except Failure Answer
  after : Control
  events : List Event

namespace Lab

/-- The lab with one recorder in place of its sinks, which has received nothing yet. -/
def alone (lab : Lab) : Lab := { lab with sinks := [.recorder 0], outlets := .ofFiles ⟨[], []⟩ }

/-- The events that are emitted in the course of an operation, as a recorder receives them that
listens alone. -/
def emitted (lab : Lab) (operation : Operation) : List Event :=
  (lab.alone.perform operation).1.outlets.records 0

def passage (lab : Lab) (operation : Operation) : Passage :=
  ⟨(lab.perform operation).2, (lab.perform operation).1.control, lab.emitted operation⟩

def turn (lab : Lab) : Turn → Lab
  | .perform operation => (lab.perform operation).1
  | .status => lab

def through (lab : Lab) (turns : List Turn) : Lab := turns.foldl turn lab

/-- What the operations of a session come to that are not aside. -/
def course (lab : Lab) : List Turn → List Passage
  | [] => []
  | .status :: rest => lab.course rest
  | .perform operation :: rest =>
    (if operation.aside then [] else [lab.passage operation]) ++
      (lab.perform operation).1.course rest

theorem course_aside (lab : Lab) {operation : Operation} (hop : operation.aside = true)
    (rest : List Turn) :
    lab.course (.perform operation :: rest) = (lab.perform operation).1.course rest := by
  rw [course, if_pos hop]
  rfl

theorem course_perform (lab : Lab) {operation : Operation} (hop : operation.aside = false)
    (rest : List Turn) :
    lab.course (.perform operation :: rest) =
      lab.passage operation :: (lab.perform operation).1.course rest := by
  rw [course, hop]
  rfl

/-- Every event that is emitted in a session is sent to the sinks there are, whatever becomes of it
in them, and nothing else is. -/
def Delivers (lab : Lab) (turns : List Turn) : Prop :=
  ∀ before operation rest, turns = before ++ .perform operation :: rest →
    ((lab.through before).perform operation).1.outlets =
      ((lab.through before).emitted operation).foldl
        (fun o e => Sink.dispatch (lab.through before).sinks e o) (lab.through before).outlets

end Lab

namespace Beside

variable {a b : Lab}

/-- What is emitted in one of two labs is what the sinks are told of in the other. -/
theorem emitted (h : Beside a b) {operation : Operation} (hop : operation.aside = false) :
    ∃ changes, Lab.Told b changes (b.perform operation).1 ∧
      a.emitted operation = changes.map fun c => ⟨b.target.name, c, b.now⟩ := by
  have halone : Beside a.alone b := ⟨h.control, h.now, h.setup⟩
  obtain ⟨changes, ha, hb, -, -⟩ := (Abreast.perform halone hop).1.told
  rw [h.name, h.now]
  exact ⟨changes, hb, ha.records rfl⟩

theorem passage (h : Beside a b) {operation : Operation} (hop : operation.aside = false) :
    b.passage operation = a.passage operation := by
  obtain ⟨hafter, hanswer⟩ := Abreast.perform h hop
  have halone : Beside a b.alone := ⟨h.control, h.now, h.setup⟩
  obtain ⟨changes, htold, hchanges⟩ := halone.emitted hop
  have hemitted : b.emitted operation = a.emitted operation := (htold.records rfl).trans hchanges.symm
  rw [Lab.passage, Lab.passage, hanswer, hafter.beside.control, hemitted]

theorem course (h : Beside a b) {first second : List Turn} (hturns : SameBut Turn.aside first second) :
    b.course second = a.course first ∧ Beside (a.through first) (b.through second) := by
  induction hturns generalizing a b with
  | nil => exact ⟨rfl, h⟩
  | @cons turn first second hrest ih =>
    cases turn with
    | status => exact ih h
    | perform operation =>
      cases hop : operation.aside with
      | true =>
        obtain ⟨hcourse, hthrough⟩ := ih ((h.left hop).1.right hop)
        rw [Lab.course_aside a hop, Lab.course_aside b hop]
        exact ⟨hcourse, hthrough⟩
      | false =>
        obtain ⟨hcourse, hthrough⟩ := ih (Abreast.perform h hop).1.beside
        rw [Lab.course_perform a hop, Lab.course_perform b hop, h.passage hop, hcourse]
        exact ⟨rfl, hthrough⟩
  | @left turn first second hturn hrest ih =>
    cases turn with
    | status => exact ih h
    | perform operation =>
      obtain ⟨hcourse, hthrough⟩ := ih (h.left hturn).1
      rw [Lab.course_aside a hturn]
      exact ⟨hcourse, hthrough⟩
  | @right turn first second hturn hrest ih =>
    cases turn with
    | status => exact ih h
    | perform operation =>
      obtain ⟨hcourse, hthrough⟩ := ih (h.right hturn)
      rw [Lab.course_aside b hturn]
      exact ⟨hcourse, hthrough⟩

end Beside

/-- What the sinks take in the course of an operation is what is emitted. -/
theorem Lab.outlets_perform (lab : Lab) (operation : Operation) :
    (lab.perform operation).1.outlets =
      (lab.emitted operation).foldl (fun o e => Sink.dispatch lab.sinks e o) lab.outlets := by
  cases hop : operation.aside with
  | true =>
    cases operation with
    | addSink | setEntry | removeEntry => rfl
    | _ => cases hop
  | false =>
    obtain ⟨changes, htold, hemitted⟩ := (Beside.refl lab).emitted hop
    rw [htold.outlets, hemitted, List.foldl_map]

theorem Lab.delivers (lab : Lab) (turns : List Turn) : lab.Delivers turns :=
  fun before operation _ _ => (lab.through before).outlets_perform operation

/-- Labs with a new target begin beside one another if the target has the same name, and the setups
do the same but for the entries. -/
theorem Lab.Initial.beside {a b : Lab} (ha : a.Initial) (hb : b.Initial)
    (hname : b.target.name = a.target.name) (hnow : b.now = a.now)
    (hsetup : Option.Rel Setup.Akin a.target.setup b.target.setup) : Beside a b := by
  obtain ⟨hcell, hslots, hbench⟩ := ha.fresh
  obtain ⟨hcell', hslots', hbench'⟩ := hb.fresh
  obtain ⟨hflag, hruns⟩ := ha.unused
  obtain ⟨hflag', hruns'⟩ := hb.unused
  refine ⟨?_, hnow, hsetup⟩
  rw [Lab.control, Lab.control, hname, hcell, hcell', hslots, hslots', hflag, hflag', hruns, hruns',
    hbench, hbench']

/-- Two sessions in which the same is done, but for what is about the sinks, the entries and the
status. -/
structure Undisturbed (a b : Lab) (first second : List Turn) : Prop where
  course : b.course second = a.course first
  control : (b.through second).control = (a.through first).control
  delivered : a.Delivers first ∧ b.Delivers second

theorem bystanders {a b : Lab} (h : Beside a b) {first second : List Turn}
    (hturns : SameBut Turn.aside first second) : Undisturbed a b first second := by
  obtain ⟨hcourse, hthrough⟩ := h.course hturns
  exact ⟨hcourse, hthrough.control, a.delivers first, b.delivers second⟩

/-- A setup that attaches a processor and reports, after some steps about the entries. -/
def noting (notes : List SetupStep) : Setup := fun _ =>
  { steps := notes ++ [.attach ⟨.execution, "cpu", .plain⟩, .report .initialized], failure := none }

def unattended : List Turn :=
  [.perform .init, .perform (.report .stopped), .perform (.act (.processor .cont)),
    .perform .shutdown]

/-- The same with sinks that fail at once, sometimes, and with their file. -/
def attended : List Turn :=
  [.perform (.addSink (.broken (.initFailed "unit" "closed"))), .perform .init, .status,
    .perform (.addSink (.fitful 3 [1] (.initFailed "unit" "closed"))),
    .perform (.report .stopped), .perform (.setEntry "note" .null),
    .perform (.addSink (.text "/missing/log" "unit")), .perform (.act (.processor .cont)),
    .perform (.removeEntry "note"), .perform .shutdown]

theorem bystanders_attended :
    Beside (Lab.new "unit" (some (noting [])) ⟨[], []⟩ .epoch)
        (Lab.new "unit" (some (noting [.setEntry "phase" .null])) ⟨[], []⟩ .epoch) ∧
      SameBut Turn.aside unattended attended ∧
      Undisturbed (Lab.new "unit" (some (noting [])) ⟨[], []⟩ .epoch)
        (Lab.new "unit" (some (noting [.setEntry "phase" .null])) ⟨[], []⟩ .epoch)
        unattended attended ∧
      ((Lab.new "unit" (some (noting [])) ⟨[], []⟩ .epoch).course unattended).map
          (fun p => p.events.map Event.change) =
        [[.attached .execution, .state .created .initialized], [.state .initialized .stopped],
          [.state .stopped .running], [.detached .execution]] := by
  have hsetup : Setup.Akin (noting []) (noting [.setEntry "phase" .null]) :=
    fun _ => ⟨.right rfl (.refl _ _), rfl⟩
  have hbeside := Lab.Initial.beside
    (.new "unit" (some (noting [])) ⟨[], []⟩ .epoch)
    (.new "unit" (some (noting [.setEntry "phase" .null])) ⟨[], []⟩ .epoch) rfl rfl (.some hsetup)
  have hturns : SameBut Turn.aside unattended attended := by
    refine .right rfl (.cons _ (.right rfl (.right rfl (.cons _ ?_))))
    exact .right rfl (.right rfl (.cons _ (.right rfl (.cons _ .nil))))
  exact ⟨hbeside, hturns, bystanders hbeside hturns, rfl⟩

end TargetControl
