import TargetControl.Proofs.Chronicle
import TargetControl.Proofs.Traffic

/-!
What the sinks hear of a slot that is filled and emptied by several threads.

A slot is filled or emptied under a lock, and told of when the lock is free again.  So it is filled
and emptied in turn, and each of these changes is told once by the call that made it, but a call may
be overtaken on its way to the sinks.  `announcements_overtaken` has an attachment that is told
after the shutdown which undoes it.

`announcements` says what holds in every schedule, and that nothing is lacking where each change of
the slot waits until the one before it has been told: the sinks hear of the changes in turn then,
and of all but the latest.  What carries it is that each call has told of the changes it has made,
but for those that it owes at its stage.
-/

namespace TargetControl

/-! ## Turns -/

/-- Whether a slot is occupied, before and after some changes that occupy and vacate it in turn. -/
def Alternates : Bool → List Bool → Bool → Prop
  | a, [], b => a = b
  | a, turn :: rest, b => turn = !a ∧ Alternates turn rest b

theorem Alternates.append {a b c : Bool} {first second : List Bool} (h : Alternates a first b)
    (h' : Alternates b second c) : Alternates a (first ++ second) c := by
  induction first generalizing a with
  | nil =>
    have hab : a = b := h
    rw [hab]
    exact h'
  | cons turn rest ih =>
    obtain ⟨hturn, hrest⟩ := h
    exact ⟨hturn, ih hrest⟩

theorem Alternates.of_append {a c : Bool} {first second : List Bool}
    (h : Alternates a (first ++ second) c) : ∃ b, Alternates a first b := by
  induction first generalizing a with
  | nil => exact ⟨a, rfl⟩
  | cons turn rest ih =>
    obtain ⟨hturn, hrest⟩ := h
    obtain ⟨b, hb⟩ := ih hrest
    exact ⟨b, hturn, hb⟩

/-- What a change says of a slot, if it speaks of it. -/
def Change.turn? (kind : Capability) : Change → Option Bool
  | .attached k => if k = kind then some true else none
  | .detached k => if k = kind then some false else none
  | .state .. => none

theorem Change.turn?_of_kind {c : Change} (h : c.kind = .state) (kind : Capability) :
    c.turn? kind = none := by
  cases c with
  | state a b => rfl
  | attached k => cases h
  | detached k => cases h

/-- What some events say of a slot. -/
def Event.turns (kind : Capability) (events : List Event) : List Bool :=
  events.filterMap fun e => e.change.turn? kind

/-! ## What is made and what is told -/

/-- The turns of a slot that some of its contents stand for when they are taken. -/
def vacated (kind : Capability) (contents : List (Capability × Device)) : List Bool :=
  contents.filterMap fun p => if p.1 = kind then some false else none

theorem vacated_filterMap (slots : Slots Device) (kind : Capability) {kinds : List Capability}
    (hkinds : kinds.Nodup) :
    vacated kind (kinds.filterMap fun k => (slots k).map fun device => (k, device)) =
      if kind ∈ kinds ∧ slots.has kind = true then [false] else [] := by
  induction kinds with
  | nil => rfl
  | cons k kinds ih =>
    obtain ⟨hk, hkinds⟩ := List.nodup_cons.mp hkinds
    have hrest := ih hkinds
    rw [vacated] at hrest ⊢
    by_cases heq : k = kind
    · subst heq
      cases hslot : slots k with
      | none => simp [hslot, hrest, hk, Slots.has]
      | some device => simp [hslot, hrest, hk, Slots.has]
    · have hne : kind ≠ k := fun h => heq h.symm
      cases hslot : slots k with
      | none => simp [hslot, hrest, hne]
      | some device => simp [hslot, hrest, hne, heq]

/-- Taking the slots vacates one that is occupied. -/
theorem vacated_contents (slots : Slots Device) (kind : Capability) :
    vacated kind slots.contents = if slots.has kind = true then [false] else [] := by
  have hall : Capability.all.Nodup := by decide
  rw [Slots.contents, vacated_filterMap slots kind hall]
  simp only [kind.mem_all, true_and]

namespace CallMark

/-- The turns of a slot that come about with a mark. -/
def turnsMade (kind : Capability) : CallMark → List Bool
  | .filled _ k _ => if k = kind then [true] else []
  | .taken _ contents => vacated kind contents
  | _ => []

/-- The turn of a slot that a mark tells of. -/
def turnsTold (kind : Capability) : CallMark → List Bool
  | .told _ change => (change.turn? kind).toList
  | _ => []

end CallMark

/-- The turns of a slot along some marks, each with the call that makes it. -/
def turnsMade (kind : Capability) (log : List CallMark) : List (Nat × Bool) :=
  log.flatMap fun m => (m.turnsMade kind).map fun turn => (m.call, turn)

/-- The turns that have been told along some marks, each with the call that tells of it. -/
def turnsTold (kind : Capability) (log : List CallMark) : List (Nat × Bool) :=
  log.flatMap fun m => (m.turnsTold kind).map fun turn => (m.call, turn)

/-- The turns of one call. -/
def ofCall (i : Nat) (turns : List (Nat × Bool)) : List Bool :=
  (turns.filter fun e => e.1 = i).map Prod.snd

/-- The turns that a call has made and not told. -/
def CallStage.owed (kind : Capability) : CallStage → List Bool
  | .filled k => if k = kind then [true] else []
  | .releasing left => vacated kind left
  | .closing k _ left => (Change.turn? kind (.detached k)).toList ++ vacated kind left
  | _ => []

theorem turnsMade_append (kind : Capability) (first second : List CallMark) :
    turnsMade kind (first ++ second) = turnsMade kind first ++ turnsMade kind second :=
  List.flatMap_append

theorem turnsTold_append (kind : Capability) (first second : List CallMark) :
    turnsTold kind (first ++ second) = turnsTold kind first ++ turnsTold kind second :=
  List.flatMap_append

theorem turnsMade_one (kind : Capability) (m : CallMark) :
    turnsMade kind [m] = (m.turnsMade kind).map fun turn => (m.call, turn) :=
  List.flatMap_singleton ..

theorem turnsTold_one (kind : Capability) (m : CallMark) :
    turnsTold kind [m] = (m.turnsTold kind).map fun turn => (m.call, turn) :=
  List.flatMap_singleton ..

theorem map_snd_turns (i : Nat) (turns : List Bool) :
    (turns.map fun turn => (i, turn)).map Prod.snd = turns := by
  induction turns with
  | nil => rfl
  | cons turn rest ih => rw [List.map_cons, List.map_cons, ih]

theorem ofCall_append (i : Nat) (first second : List (Nat × Bool)) :
    ofCall i (first ++ second) = ofCall i first ++ ofCall i second := by
  rw [ofCall, List.filter_append, List.map_append]
  rfl

theorem ofCall_same (i : Nat) (turns : List Bool) :
    ofCall i (turns.map fun turn => (i, turn)) = turns := by
  induction turns with
  | nil => rfl
  | cons turn rest ih => simpa [ofCall] using ih

theorem ofCall_of_ne {i j : Nat} (h : j ≠ i) (turns : List Bool) :
    ofCall i (turns.map fun turn => (j, turn)) = [] := by
  induction turns with
  | nil => rfl
  | cons turn rest ih => simpa [ofCall, h] using ih

theorem count_ofCall (i : Nat) (b : Bool) (turns : List (Nat × Bool)) :
    (ofCall i turns).count b = turns.count (i, b) := by
  induction turns with
  | nil => rfl
  | cons e rest ih =>
    obtain ⟨j, turn⟩ := e
    by_cases hj : j = i
    · subst hj
      have hown : ofCall j ((j, turn) :: rest) = turn :: ofCall j rest := by simp [ofCall]
      rw [hown, List.count_cons, ih, List.count_cons]
      simp
    · have hown : ofCall i ((j, turn) :: rest) = ofCall i rest := by simp [ofCall, hj]
      rw [hown, ih, List.count_cons]
      simp [hj]

/-- Turns that are the same for every call are the same in some order. -/
theorem perm_of_ofCall {first second : List (Nat × Bool)}
    (h : ∀ i, ofCall i first = ofCall i second) : first.Perm second := by
  refine List.perm_iff_count.mpr fun e => ?_
  rw [← count_ofCall, ← count_ofCall, h]

namespace Traffic

variable {kind : Capability} {t t' : Traffic} {before new log : List CallMark}

/-! ## One step -/

/-- A slot that is filled was empty, and one that is taken is empty afterwards. -/
theorem Step.alternates (h : Step t new t') (kind : Capability) :
    Alternates (t.lab.target.slots.has kind) ((turnsMade kind new).map Prod.snd)
      (t'.lab.target.slots.has kind) := by
  cases h with
  | @fill i k device stage vacant =>
    rw [turnsMade_one, map_snd_turns, CallMark.turnsMade]
    by_cases hk : k = kind
    · subst hk
      have hbefore : t.lab.target.slots.has k = false := Slots.has_of_none vacant
      have hafter : (t.lab.target.slots.fill k device).has k = true := by
        simp [Slots.has, Slots.fill_apply]
      rw [if_pos rfl, hbefore]
      exact ⟨rfl, hafter.symm⟩
    · have hne : kind ≠ k := fun heq => hk heq.symm
      have hsame : (t.lab.target.slots.fill k device).has kind = t.lab.target.slots.has kind := by
        simp [Slots.has, Slots.fill_apply, hne]
      rw [if_neg hk]
      exact hsame.symm
  | take stage =>
    rw [turnsMade_one, map_snd_turns, CallMark.turnsMade, vacated_contents]
    cases hhas : t.lab.target.slots.has kind with
    | true => exact ⟨rfl, rfl⟩
    | false => exact rfl
  | aside told slots other =>
    have hsame : t.lab.target.slots.has kind = _ := congrArg (Slots.has · kind) slots.symm
    exact hsame
  | _ => exact rfl

/-- Of the slots a step tells what its marks say. -/
theorem Step.tells (h : Step t new t') (kind : Capability) :
    ∃ changes, t.lab.Told changes t'.lab ∧
      changes.filterMap (Change.turn? kind) = (turnsTold kind new).map Prod.snd := by
  have htell : ∀ (i : Nat) (change : Change),
      [change].filterMap (Change.turn? kind) = (turnsTold kind [.told i change]).map Prod.snd := by
    intro i change
    rw [turnsTold_one, map_snd_turns, CallMark.turnsTold]
    cases hturn : change.turn? kind with
    | none => simp [hturn]
    | some turn => simp [hturn]
  cases h with
  | announce stage => exact ⟨_, .tell .., htell _ _⟩
  | release stage => exact ⟨_, .tell .., htell _ _⟩
  | relay stage => exact ⟨_, .reportAll t.lab [_], rfl⟩
  | hear stage => exact ⟨_, .reportAll t.lab [_], rfl⟩
  | @aside lab changes told slots other =>
    refine ⟨changes, told, List.filterMap_eq_nil_iff.mpr fun c hc => ?_⟩
    exact Change.turn?_of_kind (other c hc) kind
  | _ => exact ⟨[], ⟨rfl, rfl, rfl, rfl⟩, rfl⟩

/-! ### What the calls owe -/

/-- A call has told of the turns that it has made, but for those that it owes at its stage. -/
def Settles (kind : Capability) (log : List CallMark) (i : Nat) (stage : CallStage) : Prop :=
  ofCall i (turnsTold kind log) ++ stage.owed kind = ofCall i (turnsMade kind log)

theorem settles_quiet (hall : ∀ i, Settles kind before i (t.calls i)) (lab : Lab) {i : Nat}
    {stage : CallStage} (howed : stage.owed kind = (t.calls i).owed kind) :
    ∀ j, Settles kind (before ++ []) j (((t.setLab lab).move i stage).calls j) := by
  refine each_move (t := t.setLab lab) hall (fun j _ hj => ?_) ?_
  · rw [List.append_nil]
    exact hj
  · rw [List.append_nil, Settles, howed]
    exact hall i

theorem settles_mark (hall : ∀ i, Settles kind before i (t.calls i)) (lab : Lab) {m : CallMark}
    {stage : CallStage}
    (howed : (t.calls m.call).owed kind ++ m.turnsMade kind = m.turnsTold kind ++ stage.owed kind) :
    ∀ j, Settles kind (before ++ [m]) j (((t.setLab lab).move m.call stage).calls j) := by
  have hsplit : ∀ j stage', Settles kind (before ++ [m]) j stage' =
      (ofCall j (turnsTold kind before) ++ ofCall j (turnsTold kind [m]) ++ stage'.owed kind =
        ofCall j (turnsMade kind before) ++ ofCall j (turnsMade kind [m])) := by
    intro j stage'
    rw [Settles, turnsTold_append, turnsMade_append, ofCall_append, ofCall_append]
  refine each_move (t := t.setLab lab) hall (fun j hj hsettles => ?_) ?_
  · have hm : m.call ≠ j := fun heq => hj heq.symm
    rw [hsplit, turnsTold_one, turnsMade_one, ofCall_of_ne hm, ofCall_of_ne hm, List.append_nil,
      List.append_nil]
    exact hsettles
  · have hown : ofCall m.call (turnsTold kind before) ++ (t.calls m.call).owed kind =
        ofCall m.call (turnsMade kind before) := hall m.call
    rw [hsplit, turnsTold_one, turnsMade_one, ofCall_same, ofCall_same, List.append_assoc, ← howed,
      ← List.append_assoc, hown]

theorem Step.settles (h : Step t new t') (hall : ∀ i, Settles kind before i (t.calls i)) :
    ∀ i, Settles kind (before ++ new) i (t'.calls i) := by
  cases h with
  | look request stage => exact settles_mark hall t.lab (by rw [CallMark.call, stage]; rfl)
  | refuse stage check => exact settles_mark hall t.lab (by rw [CallMark.call, stage]; rfl)
  | pass stage check => exact settles_quiet hall _ (by rw [stage]; rfl)
  | invoke stage => exact settles_mark hall _ (by rw [CallMark.call, stage]; rfl)
  | relay stage => exact settles_quiet hall _ (by rw [stage]; rfl)
  | answer stage => exact settles_mark hall t.lab (by rw [CallMark.call, stage]; rfl)
  | fill device stage vacant => exact settles_mark hall _ (by rw [CallMark.call, stage]; rfl)
  | decline stage occupied => exact settles_quiet hall t.lab (by rw [stage]; rfl)
  | @announce i k stage =>
    refine settles_mark hall _ ?_
    rw [CallMark.call, stage, CallStage.owed]
    by_cases hk : k = kind <;>
      simp [hk, CallMark.turnsMade, CallMark.turnsTold, CallStage.owed, Change.turn?]
  | take stage => exact settles_mark hall _ (by rw [CallMark.call, stage]; rfl)
  | @close i k device left stage =>
    refine settles_mark hall _ ?_
    rw [CallMark.call, stage, CallStage.owed, vacated, List.filterMap_cons]
    by_cases hk : k = kind <;>
      simp [hk, CallMark.turnsMade, CallMark.turnsTold, CallStage.owed, Change.turn?, vacated]
  | hear stage => exact settles_quiet hall _ (by rw [stage]; rfl)
  | release stage =>
    refine settles_mark hall _ ?_
    rw [CallMark.call, stage]
    exact List.append_nil _
  | leave stage => exact settles_quiet hall t.lab (by rw [stage]; rfl)
  | aside told slots other =>
    rw [List.append_nil]
    exact hall

/-! ## Walks -/

/-- How the slot, the sinks and the calls stand to one another after some marks. -/
structure Announced (lab : Lab) (kind : Capability) (log : List CallMark) (t : Traffic) : Prop where
  slot : Alternates (lab.target.slots.has kind) ((turnsMade kind log).map Prod.snd)
    (t.lab.target.slots.has kind)
  told : ∃ changes, lab.Told changes t.lab ∧
    changes.filterMap (Change.turn? kind) = (turnsTold kind log).map Prod.snd
  calls : ∀ i, Settles kind log i (t.calls i)

theorem Announced.step {lab : Lab} (hstep : Step t new t') (h : Announced lab kind before t) :
    Announced lab kind (before ++ new) t' := by
  refine ⟨?_, ?_, hstep.settles h.calls⟩
  · rw [turnsMade_append, List.map_append]
    exact h.slot.append (hstep.alternates kind)
  · obtain ⟨earlier, htold, hturns⟩ := h.told
    obtain ⟨changes, htold', hturns'⟩ := hstep.tells kind
    refine ⟨earlier ++ changes, htold.trans htold', ?_⟩
    rw [List.filterMap_append, hturns, hturns', turnsTold_append, List.map_append]

theorem announced_opened (lab : Lab) (kind : Capability) : Announced lab kind [] (opened lab) :=
  ⟨rfl, ⟨[], .refl lab, rfl⟩, fun _ => rfl⟩

theorem announced_of_walk {lab : Lab} (kind : Capability) (h : Walk Step (opened lab) log t) :
    Announced lab kind log t := h.keeps_log Announced.step (announced_opened lab kind)

/-- No turn is told more often than it is made. -/
theorem Announced.count_le {lab : Lab} (h : Announced lab kind log t) (e : Nat × Bool) :
    (turnsTold kind log).count e ≤ (turnsMade kind log).count e := by
  obtain ⟨i, turn⟩ := e
  have hcall := h.calls i
  rw [← count_ofCall, ← count_ofCall, ← hcall, List.count_append]
  exact Nat.le_add_right _ _

/-! ### One turn at a time -/

/-- Each change of a slot is made when the changes of it before have all been told. -/
def Orderly (kind : Capability) (log : List CallMark) : Prop :=
  ∀ before m after, log = before ++ m :: after → m.turnsMade kind ≠ [] →
    (turnsTold kind before).length = (turnsMade kind before).length

theorem Orderly.of_append (h : Orderly kind (before ++ new)) : Orderly kind before := by
  intro first m second hsplit hmade
  refine h first m (second ++ new) ?_ hmade
  rw [hsplit, List.append_assoc, List.cons_append]

/-- The turns of a slot have been told in the order in which they were made, but for the latest. -/
def InOrder (kind : Capability) (log : List CallMark) : Prop :=
  ∃ rest, turnsMade kind log = turnsTold kind log ++ rest ∧ rest.length ≤ 1

/-- A mark makes at most one turn of a slot, and then tells of none. -/
theorem Step.makes (h : Step t new t') (kind : Capability) :
    turnsMade kind new = [] ∨ ∃ m, new = [m] ∧ m.turnsTold kind = [] ∧
      m.turnsMade kind ≠ [] ∧ (turnsMade kind new).length ≤ 1 := by
  cases h with
  | @fill i k device stage vacant =>
    rw [turnsMade_one, List.length_map, CallMark.turnsMade]
    by_cases hk : k = kind
    · exact Or.inr ⟨_, rfl, rfl, by simp [CallMark.turnsMade, hk], by simp [hk]⟩
    · exact Or.inl (by simp [hk])
  | @take i stage =>
    rw [turnsMade_one, List.length_map, CallMark.turnsMade, vacated_contents]
    cases hhas : t.lab.target.slots.has kind with
    | true =>
      refine Or.inr ⟨_, rfl, rfl, ?_, by simp⟩
      simp [CallMark.turnsMade, vacated_contents, hhas]
    | false => exact Or.inl (by simp)
  | _ => exact Or.inl rfl

/-- Of one turn that is outstanding nothing or all is told. -/
theorem split_of_count_le {told rest : List (Nat × Bool)} (hrest : rest.length ≤ 1)
    (hcount : ∀ e, told.count e ≤ rest.count e) :
    ∃ rest', rest = told ++ rest' ∧ rest'.length ≤ 1 := by
  have hsub : ∀ e ∈ told, e ∈ rest := by
    intro e he
    have hpositive := List.count_pos_iff.mpr he
    have hle := hcount e
    exact List.count_pos_iff.mp (by omega)
  cases told with
  | nil => exact ⟨rest, rfl, hrest⟩
  | cons e told =>
    have hmem := hsub e List.mem_cons_self
    have hpos := List.length_pos_of_mem hmem
    obtain ⟨e', rfl⟩ := List.length_eq_one_iff.mp (show rest.length = 1 by omega)
    obtain rfl := List.mem_singleton.mp hmem
    have hnil : told = [] := by
      refine List.eq_nil_iff_forall_not_mem.mpr fun e' he' => ?_
      obtain rfl := List.mem_singleton.mp (hsub e' (List.mem_cons_of_mem e he'))
      have htwice := List.count_pos_iff.mpr he'
      have hle := hcount e'
      rw [List.count_cons_self, List.count_singleton_self] at hle
      omega
    exact ⟨[], by rw [hnil, List.append_nil], Nat.zero_le 1⟩

theorem inOrder_step {lab : Lab} (hstep : Step t new t') (hknown : Announced lab kind before t)
    (h : InOrder kind before) (horderly : Orderly kind (before ++ new)) :
    InOrder kind (before ++ new) := by
  obtain ⟨rest, hmade, hrest⟩ := h
  rcases hstep.makes kind with hnone | ⟨m, rfl, htold, hsome, hone⟩
  · -- nothing is made, and what is told is what was owed
    have hcount : ∀ e, (turnsTold kind new).count e ≤ rest.count e := by
      intro e
      have hle := (hknown.step hstep).count_le e
      rw [turnsMade_append, turnsTold_append, hnone, List.append_nil, hmade, List.count_append,
        List.count_append] at hle
      omega
    obtain ⟨rest', hrest', hlength⟩ := split_of_count_le hrest hcount
    refine ⟨rest', ?_, hlength⟩
    rw [turnsMade_append, turnsTold_append, hnone, List.append_nil, hmade, hrest',
      List.append_assoc]
  · have hlength := horderly before m [] rfl hsome
    rw [hmade, List.length_append] at hlength
    have hnil : rest = [] := List.eq_nil_of_length_eq_zero (by omega)
    subst hnil
    refine ⟨turnsMade kind [m], ?_, hone⟩
    rw [turnsMade_append, turnsTold_append, turnsTold_one, htold, List.map_nil, List.append_nil,
      hmade, List.append_nil]

theorem inOrder_of_walk {lab : Lab} (h : Walk Step (opened lab) log t)
    (horderly : Orderly kind log) : InOrder kind log := by
  have hkeep : Announced lab kind ([] ++ log) t ∧ (Orderly kind ([] ++ log) →
      InOrder kind ([] ++ log)) := by
    refine h.keeps_log (I := fun log t => Announced lab kind log t ∧
      (Orderly kind log → InOrder kind log)) (fun hstep hx => ⟨hx.1.step hstep, fun ho => ?_⟩) ?_
    · exact inOrder_step hstep hx.1 (hx.2 ho.of_append) ho
    · exact ⟨announced_opened lab kind, fun _ => ⟨[], rfl, Nat.zero_le 1⟩⟩
  exact hkeep.2 horderly

/-! ## The law -/

/-- What the sinks hear of one slot. -/
structure AnnouncementLaw (lab : Lab) (kind : Capability) (log : List CallMark) (t : Traffic) :
    Prop where
  /-- the slot itself is occupied and vacated in turn -/
  slot : Alternates (lab.target.slots.has kind) ((turnsMade kind log).map Prod.snd)
    (t.lab.target.slots.has kind)
  /-- each call tells of its own turns, of each once, in the order in which it makes them, and has
  those left to tell that it owes -/
  calls : ∀ i, ofCall i (turnsTold kind log) ++ (t.calls i).owed kind =
    ofCall i (turnsMade kind log)
  /-- a recorder among the sinks receives what is told, in the order of telling, and nothing else -/
  received : ∀ n, lab.sinks.count (.recorder n) = 1 →
    Event.turns kind (t.lab.outlets.records n) =
      Event.turns kind (lab.outlets.records n) ++ (turnsTold kind log).map Prod.snd
  /-- when no call has anything left to tell, what was made has been told, in some order -/
  finished : (∀ i, (t.calls i).owed kind = []) → (turnsTold kind log).Perm (turnsMade kind log)
  /-- if each turn waits until those before it have been told, they are told in turn -/
  orderly : Orderly kind log →
    ∃ last, Alternates (lab.target.slots.has kind) ((turnsTold kind log).map Prod.snd) last
  /-- and in the end the last of them tells whether the slot is occupied -/
  current : Orderly kind log → (∀ i, (t.calls i).owed kind = []) →
    Alternates (lab.target.slots.has kind) ((turnsTold kind log).map Prod.snd)
      (t.lab.target.slots.has kind)

theorem Announced.finished {lab : Lab} (h : Announced lab kind log t)
    (hsettled : ∀ i, (t.calls i).owed kind = []) :
    (turnsTold kind log).Perm (turnsMade kind log) := by
  refine perm_of_ofCall fun i => ?_
  have hcall := h.calls i
  rw [Settles, hsettled i, List.append_nil] at hcall
  exact hcall

/-- In every schedule of requests, attachments, shutdowns and reports. -/
theorem announcements {lab : Lab} {log : List CallMark} {t : Traffic} (kind : Capability)
    (h : Walk Step (opened lab) log t) : AnnouncementLaw lab kind log t := by
  have hannounced := announced_of_walk kind h
  have hslot := hannounced.slot
  refine
    { slot := hslot
      calls := hannounced.calls
      received := fun n hn => ?_
      finished := hannounced.finished
      orderly := fun horderly => ?_
      current := fun horderly hsettled => ?_ }
  · obtain ⟨changes, htold, hturns⟩ := hannounced.told
    rw [htold.records hn, Event.turns, List.filterMap_append, List.filterMap_map, ← hturns]
    rfl
  · obtain ⟨rest, hmade, -⟩ := inOrder_of_walk h horderly
    rw [hmade, List.map_append] at hslot
    exact hslot.of_append
  · obtain ⟨rest, hmade, -⟩ := inOrder_of_walk h horderly
    have hlength := (hannounced.finished hsettled).length_eq
    rw [hmade, List.length_append] at hlength
    have hnil : rest = [] := List.eq_nil_of_length_eq_zero (by omega)
    rw [hmade, hnil, List.append_nil] at hslot
    exact hslot

def listened : Lab := Lab.bare.addSink (.recorder 0)

/-- A memory is attached, and a shutdown begins when that has been told. -/
def inTurn : List CallMark :=
  [.filled 0 .memory (.memory, 0), .told 0 (.attached .memory),
    .taken 1 [(.memory, (.memory, 0))], .closed 1 (.memory, 0), .told 1 (.detached .memory)]

theorem walk_inTurn : ∃ t, Walk Step (opened listened) inTurn t ∧
    Event.turns .memory (t.lab.outlets.records 0) = [true, false] := by
  have hattaches := Walk.step (@Step.fill (opened listened) 0 .memory (.memory, 0) rfl rfl)
    (.one (.announce (i := 0) rfl))
  have hshuts := hattaches.trans (.step (.take (i := 1) rfl) (.step (.close (i := 1) rfl)
    (.step (.release (i := 1) rfl) (.one (.leave (i := 1) rfl)))))
  exact ⟨_, hshuts, rfl⟩

theorem orderly_inTurn : Orderly .memory inTurn := by
  intro before m after hsplit hmade
  rcases before with _ | ⟨_, _ | ⟨_, _ | ⟨_, _ | ⟨_, _ | ⟨_, before⟩⟩⟩⟩⟩
  · rfl
  · cases hsplit
    exact absurd rfl hmade
  · cases hsplit
    rfl
  · cases hsplit
    exact absurd rfl hmade
  · cases hsplit
    exact absurd rfl hmade
  · simp [inTurn] at hsplit

theorem announcements_in_turn :
    Orderly .memory inTurn ∧ ∃ t, Walk Step (opened listened) inTurn t ∧
      Event.turns .memory (t.lab.outlets.records 0) = [true, false] ∧
      AnnouncementLaw listened .memory inTurn t := by
  obtain ⟨t, hwalk, hturns⟩ := walk_inTurn
  exact ⟨orderly_inTurn, t, hwalk, hturns, announcements .memory hwalk⟩

/-- The attachment is told when the shutdown that undoes it has been told. -/
theorem walk_crossed : ∃ t, Walk Step (opened listened)
    [.filled 0 .memory (.memory, 0), .taken 1 [(.memory, (.memory, 0))], .closed 1 (.memory, 0),
      .told 1 (.detached .memory), .told 0 (.attached .memory)] t ∧
    Event.turns .memory (t.lab.outlets.records 0) = [false, true] := by
  have hfills := Walk.one (@Step.fill (opened listened) 0 .memory (.memory, 0) rfl rfl)
  have hshuts := hfills.trans (.step (.take (i := 1) rfl) (.step (.close (i := 1) rfl)
    (.step (.release (i := 1) rfl) (.one (.leave (i := 1) rfl)))))
  have htells := hshuts.trans (.one (.announce (i := 0) rfl))
  exact ⟨_, htells, rfl⟩

/-- A sink may hear of a release before it hears of the attachment. -/
theorem announcements_overtaken :
    ¬ ∀ (lab : Lab) (kind : Capability) (log : List CallMark) (t : Traffic) (n : Nat),
      lab.target.slots = .empty → lab.sinks.count (.recorder n) = 1 → lab.outlets.records n = [] →
        Walk Step (opened lab) log t →
          ∃ last, Alternates false (Event.turns kind (t.lab.outlets.records n)) last := by
  intro hclaim
  obtain ⟨t, hwalk, hturns⟩ := walk_crossed
  obtain ⟨last, halternates⟩ := hclaim listened .memory _ t 0 rfl rfl rfl hwalk
  rw [hturns] at halternates
  obtain ⟨hfirst, -⟩ := halternates
  cases hfirst

end Traffic
end TargetControl
