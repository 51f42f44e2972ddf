import TargetControl.Proofs.Waiting

/-!
Interleavings: the steps of several threads, one after another.

A system of threads is a relation between its states, with one constructor for each atomic step of
a thread.  A schedule of the threads is a walk along it.  Each step says what it adds to the log of
the walk, so a law over all schedules is an induction over walks, and speaks of their logs.

Whatever else a system keeps, the pair of its target changes by reports and by requests alone.
`Cell.follow` takes a pair along the marks of a walk.
-/

namespace TargetControl

/-- Steps one after another, with what they log. -/
inductive Walk {σ ε : Type} (step : σ → List ε → σ → Prop) : σ → List ε → σ → Prop where
  | refl (a : σ) : Walk step a [] a
  | step {a b c : σ} {first rest : List ε} (h : step a first b) (later : Walk step b rest c) :
    Walk step a (first ++ rest) c

namespace Walk

variable {σ ε : Type} {step : σ → List ε → σ → Prop} {a b c : σ}

theorem one {log : List ε} (h : step a log b) : Walk step a log b := by
  have hwalk := Walk.step h (.refl b)
  rwa [List.append_nil] at hwalk

theorem trans {first second : List ε} (hab : Walk step a first b) (hbc : Walk step b second c) :
    Walk step a (first ++ second) c := by
  induction hab with
  | refl => exact hbc
  | step h _ ih =>
    rw [List.append_assoc]
    exact .step h (ih hbc)

/-- An invariant of the steps is one of the walks. -/
theorem keeps {I : σ → Prop} (hstep : ∀ {a b : σ} {log : List ε}, step a log b → I a → I b)
    {log : List ε} (h : Walk step a log b) (ha : I a) : I b := by
  induction h with
  | refl => exact ha
  | step h _ ih => exact ih (hstep h ha)

/-- An invariant that speaks of the log so far is kept along a walk if every step keeps it. -/
theorem keeps_log {I : List ε → σ → Prop}
    (hstep : ∀ {a b : σ} {before log : List ε}, step a log b → I before a → I (before ++ log) b)
    {before log : List ε} (h : Walk step a log b) (ha : I before a) : I (before ++ log) b := by
  induction h generalizing before with
  | refl =>
    rw [List.append_nil]
    exact ha
  | step h _ ih =>
    rw [← List.append_assoc]
    exact ih (hstep h ha)

/-- What is in the log of a walk was logged by one of its steps. -/
theorem at_log {log : List ε} (h : Walk step a log c) {first second : List ε} {m : ε}
    (hsplit : log = first ++ m :: second) :
    ∃ x y before former latter, Walk step a before x ∧ step x (former ++ m :: latter) y ∧
      first = before ++ former := by
  induction h generalizing first with
  | refl => cases first <;> cases hsplit
  | @step a b c own rest hstep later ih =>
    rcases List.append_eq_append_iff.mp hsplit with ⟨mid, hfirst, hrest⟩ | ⟨mid, hown, hrest⟩
    · obtain ⟨x, y, before, former, latter, hwalk, hmove, hmid⟩ := ih hrest
      refine ⟨x, y, own ++ before, former, latter, .step hstep hwalk, hmove, ?_⟩
      rw [hfirst, hmid, List.append_assoc]
    · cases mid with
      | nil =>
        obtain ⟨x, y, before, former, latter, hwalk, hmove, hnil⟩ := @ih [] hrest.symm
        refine ⟨x, y, own ++ before, former, latter, .step hstep hwalk, hmove, ?_⟩
        rw [List.append_assoc, ← hnil, List.append_nil, hown, List.append_nil]
      | cons m' mid =>
        obtain ⟨rfl, -⟩ := List.cons.inj hrest
        exact ⟨a, b, [], first, mid, .refl a, hown ▸ hstep, rfl⟩

end Walk

/-! ## The pair along a walk -/

def Mark.apply (cell : Cell) : Mark → Cell
  | .report s => cell.publish s
  | .request => cell.unsettle

/-- The mark that letting an action through leaves, if it leaves one. -/
def Action.marks (a : Action) : List Mark := if a.unsettles then [.request] else []

namespace Cell

def follow (marks : List Mark) (cell : Cell) : Cell := marks.foldl Mark.apply cell

theorem follow_append (first second : List Mark) (cell : Cell) :
    follow (first ++ second) cell = follow second (follow first cell) := List.foldl_append

theorem follow_concat (marks : List Mark) (m : Mark) (cell : Cell) :
    follow (marks ++ [m]) cell = m.apply (follow marks cell) := follow_append marks [m] cell

theorem follow_marks (a : Action) (cell : Cell) : follow a.marks cell = a.mark cell := by
  rw [Action.marks, Action.mark]
  cases a.unsettles <;> rfl

/-- The last mark decides how the pair releases a waiter. -/
theorem release?_follow (marks : List Mark) (cell : Cell) :
    (follow marks cell).release? =
      match marks.getLast? with
      | none => cell.release?
      | some m => m.report?.bind State.release? := by
  rcases List.eq_nil_or_concat marks with rfl | ⟨before, m, rfl⟩
  · rfl
  · rw [List.concat_eq_append, List.getLast?_concat, follow_concat]
    cases m with
    | report s => exact release?_publish (follow before cell) s
    | request => exact release?_unsettle (follow before cell)

end Cell

/-- If each step does to the pair what its log says, so does a walk. -/
theorem Walk.follows {σ ε : Type} {step : σ → List ε → σ → Prop} {c : σ → Cell}
    {m : ε → Option Mark}
    (hstep : ∀ {a b : σ} {log : List ε}, step a log b → c b = (c a).follow (log.filterMap m))
    {a b : σ} {log : List ε} (h : Walk step a log b) : c b = (c a).follow (log.filterMap m) := by
  induction h with
  | refl => rfl
  | step h _ ih => rw [ih, hstep h, List.filterMap_append, Cell.follow_append]

end TargetControl
