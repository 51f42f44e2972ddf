import Mathlib
import TargetControl.Proofs.CallLog
import TargetControl.Proofs.KeyOrder

/-!
Whether a processor gives out a number that is in use.

Numbers are given out in turn, and after the last of them they start again from zero.  A number is in
use while the insertion that got it stands in the log: it has not been removed since.  So what an
insertion finds under its number is decided by one other insertion, the one that many places before
it as there are numbers (`numbered`).  If that one stands still, the new one takes its place and the
breakpoints do not grow; otherwise they grow by one.
-/

namespace TargetControl

/-! ## The order of the numbers -/

namespace BreakpointId

instance : Std.Irrefl (α := BreakpointId) (· < ·) := ⟨fun a => UInt32.lt_irrefl a.number⟩

instance : Trans (α := BreakpointId) (· < ·) (· < ·) (· < ·) := ⟨UInt32.lt_trans⟩

instance : Std.Trichotomous (α := BreakpointId) (· < ·) where
  trichotomous a b hab hba := by
    have hle : a.number ≤ b.number := UInt32.not_lt.mp hba
    have hge : b.number ≤ a.number := UInt32.not_lt.mp hab
    exact congrArg BreakpointId.mk (UInt32.le_antisymm hle hge)

end BreakpointId

namespace Processor

theorem idOf_eq_iff {k k' : Nat} : idOf k = idOf k' ↔ k % 2 ^ 32 = k' % 2 ^ 32 := by
  rw [← number_idOf, ← number_idOf, UInt32.toNat_inj]
  exact ⟨congrArg BreakpointId.number, congrArg BreakpointId.mk⟩

/-! ## Insertions that stand -/

/-- An insertion of a log stands, the first being number one: the log goes on without removing it. -/
def Stands (calls : List Request) (k : Nat) : Prop :=
  ∃ before r after, calls = before ++ r :: after ∧ r.inserts = true ∧ insertions before + 1 = k ∧
    Request.removeBreakpoint (idOf k) ∉ after

namespace Stands

variable {calls : List Request} {k : Nat}

theorem pos (h : Stands calls k) : 0 < k := by
  obtain ⟨before, r, after, -, -, hk, -⟩ := h
  omega

theorem concat_iff (r : Request) :
    Stands (calls ++ [r]) k ↔
      (r.inserts = true ∧ insertions calls + 1 = k) ∨
        (Stands calls k ∧ r ≠ .removeBreakpoint (idOf k)) := by
  constructor
  · rintro ⟨before, s, after, hsplit, hinserts, hk, hkept⟩
    rcases List.eq_nil_or_concat after with rfl | ⟨rest, t, rfl⟩
    · obtain ⟨rfl, hlast⟩ := List.append_inj' hsplit rfl
      cases hlast
      exact .inl ⟨hinserts, hk⟩
    · rw [List.concat_eq_append] at hsplit hkept
      have hends : calls ++ [r] = (before ++ s :: rest) ++ [t] := by
        simpa using hsplit
      obtain ⟨rfl, hlast⟩ := List.append_inj' hends rfl
      cases hlast
      have hrest : Request.removeBreakpoint (idOf k) ∉ rest := fun hmem =>
        hkept (List.mem_append_left _ hmem)
      have hne : r ≠ .removeBreakpoint (idOf k) := fun heq =>
        hkept (heq ▸ List.mem_append_right _ (List.mem_singleton_self r))
      exact .inr ⟨⟨before, s, rest, rfl, hinserts, hk, hrest⟩, hne⟩
  · rintro (⟨hinserts, hk⟩ | ⟨⟨before, s, after, rfl, hinserts, hk, hkept⟩, hne⟩)
    · exact ⟨calls, r, [], rfl, hinserts, hk, List.not_mem_nil⟩
    · refine ⟨before, s, after ++ [r], List.append_assoc .., hinserts, hk, fun hmem => ?_⟩
      rcases List.mem_append.mp hmem with hmem | hmem
      · exact hkept hmem
      · exact hne (List.mem_singleton.mp hmem).symm

theorem le_insertions (h : Stands calls k) : k ≤ insertions calls := by
  obtain ⟨before, r, after, rfl, hinserts, rfl, -⟩ := h
  simp [insertions, hinserts]

/-- If an insertion stands, so do the later ones with the same number: what would have removed one of
them would have removed this one. -/
theorem later (h : Stands calls k) {k' : Nat} (hle : k ≤ k') (hmax : k' ≤ insertions calls)
    (hid : idOf k' = idOf k) : Stands calls k' := by
  induction calls using List.reverseRecOn with
  | nil =>
    have hnone : k ≤ 0 := h.le_insertions
    have hpos := h.pos
    omega
  | append_singleton calls r ih =>
    rw [insertions_concat] at hmax
    rw [concat_iff] at h ⊢
    rw [hid]
    rcases h with ⟨hinserts, hk⟩ | ⟨hstands, hne⟩
    · rw [if_pos hinserts] at hmax
      exact .inl ⟨hinserts, by omega⟩
    · by_cases hnew : r.inserts = true ∧ insertions calls + 1 = k'
      · exact .inl hnew
      · have hbefore : k' ≤ insertions calls := by
          split at hmax
          · next hinserts =>
            have hother : insertions calls + 1 ≠ k' := fun heq => hnew ⟨hinserts, heq⟩
            omega
          · exact hmax
        exact .inr ⟨ih hstands hbefore, hne⟩

end Stands

/-! ## The breakpoints of a log -/

theorem ordered_replay (calls : List Request) : Keyed.Ordered (replay calls).2 := by
  induction calls using List.reverseRecOn with
  | nil => exact .nil
  | append_singleton calls r ih =>
    rw [replay_concat]
    cases r with
    | cont | stop | step => exact ih
    | setBreakpoint | setWatchpoint => exact ih.insert ..
    | removeBreakpoint id => exact ih.erase id

theorem mem_replay_concat (calls : List Request) (r : Request) (id : BreakpointId) :
    id ∈ Keyed.keys (replay (calls ++ [r])).2 ↔
      (r.inserts = true ∧ idOf (insertions calls + 1) = id) ∨
        (id ∈ Keyed.keys (replay calls).2 ∧ r ≠ .removeBreakpoint id) := by
  rw [replay_concat, Keyed.mem_keys_iff, Keyed.mem_keys_iff, ← replay_fst]
  cases r with
  | cont | stop | step => simp [enter, Request.inserts, Request.insertion?]
  | setBreakpoint | setWatchpoint =>
    simp only [enter, Keyed.find?_insert, Request.inserts, Request.insertion?]
    by_cases hid : id = idOf ((replay calls).1 + 1)
    · simp [hid]
    · simp [hid, Ne.symm hid]
  | removeBreakpoint other =>
    simp only [enter, Keyed.find?_erase, Request.inserts, Request.insertion?]
    by_cases hid : id = other
    · simp [hid]
    · simp [hid, Ne.symm hid]

/-- A number is in use if some insertion that got it stands. -/
theorem mem_replay_iff (calls : List Request) (id : BreakpointId) :
    id ∈ Keyed.keys (replay calls).2 ↔ ∃ k, Stands calls k ∧ idOf k = id := by
  induction calls using List.reverseRecOn with
  | nil =>
    constructor
    · intro hmem
      cases hmem
    · rintro ⟨k, hstands, -⟩
      have hnone : k ≤ 0 := hstands.le_insertions
      have hpos := hstands.pos
      omega
  | append_singleton calls r ih =>
    simp only [mem_replay_concat, ih, Stands.concat_iff]
    constructor
    · rintro (⟨hinserts, hid⟩ | ⟨⟨k, hstands, rfl⟩, hne⟩)
      · exact ⟨_, .inl ⟨hinserts, rfl⟩, hid⟩
      · exact ⟨k, .inr ⟨hstands, hne⟩, rfl⟩
    · rintro ⟨k, ⟨hinserts, rfl⟩ | ⟨hstands, hne⟩, rfl⟩
      · exact .inl ⟨hinserts, rfl⟩
      · exact .inr ⟨⟨k, hstands, rfl⟩, hne⟩

/-- The next number is in use if the last insertion that got it stands. -/
theorem next_mem_replay_iff (calls : List Request) :
    idOf (insertions calls + 1) ∈ Keyed.keys (replay calls).2 ↔
      ∃ k, k + 2 ^ 32 = insertions calls + 1 ∧ Stands calls k := by
  rw [mem_replay_iff]
  constructor
  · rintro ⟨k, hstands, hid⟩
    have hle := hstands.le_insertions
    have hmod := idOf_eq_iff.mp hid
    refine ⟨insertions calls + 1 - 2 ^ 32, by omega, ?_⟩
    refine hstands.later (by omega) (by omega) ?_
    rw [hid, idOf_eq_iff]
    omega
  · rintro ⟨k, hk, hstands⟩
    refine ⟨k, hstands, ?_⟩
    rw [← hk, idOf_eq_iff, Nat.add_mod_right]

/-! ## The number of an insertion -/

/-- What a processor does when it answers a request with a number. -/
structure Numbered (p : Processor) (r : Request) (id : BreakpointId) : Prop where
  number : id.number.toNat = (insertions p.calls + 1) % 2 ^ 32
  /-- the number is in use if the insertion that got it last stands -/
  used_iff : id ∈ p.inserted.keys ↔ ∃ k, k + 2 ^ 32 = insertions p.calls + 1 ∧ Stands p.calls k
  /-- while fewer have been given out than there are, the number is a new one -/
  early : insertions p.calls < 2 ^ 32 → id ∉ p.inserted.keys
  unused : id ∉ p.inserted.keys →
    (p.serve r).processor.inserted.length = p.inserted.length + 1
  /-- a number that is in use changes hands -/
  used : id ∈ p.inserted.keys →
    (p.serve r).processor.inserted.length = p.inserted.length
  bound : Keyed.find? id (p.serve r).processor.inserted = r.insertion?
  others : ∀ other, other ≠ id →
    Keyed.find? other (p.serve r).processor.inserted = Keyed.find? other p.inserted

/-- Only an insertion is answered with a number. -/
theorem insertion_of_answer {p : Processor} {r : Request} {id : BreakpointId}
    (h : (p.serve r).outcome = .ok (.breakpoint id)) :
    id = p.nextId ∧ ∃ entry, r.insertion? = some entry ∧
      (p.serve r).processor.inserted = Keyed.insert id entry p.inserted := by
  cases hfit : r.objection? with
  | some fault =>
    rw [serve_refused p hfit] at h
    cases h
  | none =>
    cases harmed : p.armed with
    | some fault =>
      rw [serve_returned hfit harmed] at h
      cases h
    | none =>
      rw [serve_taken hfit harmed] at h ⊢
      rw [(SameWork.report _ r.states).inserted]
      cases r with
      | cont | stop | step | removeBreakpoint => cases h
      | setBreakpoint | setWatchpoint =>
        cases h
        exact ⟨rfl, _, rfl, rfl⟩

theorem Tallied.answered {turns : List Turn} {p : Processor} (htallied : Tallied turns p)
    {r : Request} {id : BreakpointId} (h : (p.serve r).outcome = .ok (.breakpoint id)) :
    Numbered p r id := by
  obtain ⟨hid, entry, hentry, hafter⟩ := insertion_of_answer h
  have hnext : id = idOf (insertions p.calls + 1) := hid.trans htallied.nextId
  have hordered : Keyed.Ordered p.inserted := htallied.inserted ▸ ordered_replay p.calls
  have hused : id ∈ p.inserted.keys ↔
      ∃ k, k + 2 ^ 32 = insertions p.calls + 1 ∧ Stands p.calls k := by
    rw [hnext, htallied.inserted]
    exact next_mem_replay_iff p.calls
  have hlength : (p.serve r).processor.inserted.length =
      p.inserted.length + if id ∈ p.inserted.keys then 0 else 1 := by
    rw [hafter, hordered.length_insert]
  have hfind : ∀ key, Keyed.find? key (p.serve r).processor.inserted =
      if key = id then some entry else Keyed.find? key p.inserted := by
    intro key
    rw [hafter, Keyed.find?_insert]
  refine
    { number := ?_, used_iff := hused, early := ?_, unused := ?_, used := ?_, bound := ?_
      others := ?_ }
  · rw [hnext, number_idOf]
  · intro hfew hmem
    obtain ⟨k, hk, hstands⟩ := hused.mp hmem
    have hpos := hstands.pos
    omega
  · intro hnot
    rw [hlength, if_neg hnot]
  · intro hmem
    rw [hlength, if_pos hmem, Nat.add_zero]
  · rw [hfind, if_pos rfl, hentry]
  · intro other hother
    rw [hfind, if_neg hother]

theorem numbered (delivery : Delivery) (turns : List Turn) (r : Request) (id : BreakpointId)
    (h : (((new delivery).takeAll turns).serve r).outcome = .ok (.breakpoint id)) :
    Numbered ((new delivery).takeAll turns) r id :=
  (Tallied.takeAll delivery turns).answered h

/-- A number that has been removed is not given out again at once. -/
theorem numbered_third :
    (((new .queued).takeAll
        [.deed (.request (.setBreakpoint "main" .plain)),
          .deed (.request (.setWatchpoint "counter" true false)),
          .deed (.request (.removeBreakpoint ⟨1⟩))]).serve
      (.setBreakpoint "main" .plain)).outcome = .ok (.breakpoint ⟨3⟩) ∧
    Numbered
      ((new .queued).takeAll
        [.deed (.request (.setBreakpoint "main" .plain)),
          .deed (.request (.setWatchpoint "counter" true false)),
          .deed (.request (.removeBreakpoint ⟨1⟩))])
      (.setBreakpoint "main" .plain) ⟨3⟩ :=
  ⟨by decide, numbered .queued _ _ _ (by decide)⟩

/-! ## A number given out twice -/

/-- A processor after the same request over and over. -/
def asked (r : Request) (n : Nat) : Processor :=
  (new .direct).takeAll (List.replicate n (.deed (.request r)))

section Asked

variable {r : Request}

theorem asked_tallied (r : Request) (n : Nat) :
    Tallied (List.replicate n (.deed (.request r))) (asked r n) := .takeAll ..

theorem asked_state (hfit : r.objection? = none) (n : Nat) :
    (asked r n).calls = List.replicate n r ∧ (asked r n).armed = none := by
  induction n with
  | zero => exact ⟨rfl, rfl⟩
  | succ n ih =>
    obtain ⟨hcalls, harmed⟩ := ih
    obtain ⟨-, hlogged, -, -, hafter⟩ := (asked_tallied r n).serve_accepted hfit harmed
    have hstep : asked r (n + 1) = ((asked r n).serve r).processor := by
      rw [asked, List.replicate_succ', takeAll_concat]
      rfl
    rw [hstep, hlogged, hcalls, ← List.replicate_succ']
    exact ⟨rfl, hafter⟩

theorem insertions_replicate (h : r.inserts = true) (n : Nat) :
    insertions (List.replicate n r) = n := by
  rw [insertions, List.countP_replicate, if_pos h]

/-- What is never removed stands. -/
theorem stands_replicate (h : r.inserts = true) {n k : Nat} (hpos : 0 < k) (hle : k ≤ n) :
    Stands (List.replicate n r) k := by
  induction n with
  | zero => omega
  | succ n ih =>
    rw [List.replicate_succ', Stands.concat_iff, insertions_replicate h]
    by_cases hlast : n + 1 = k
    · exact .inl ⟨h, hlast⟩
    · refine .inr ⟨ih (by omega), fun heq => ?_⟩
      rw [heq] at h
      cases h

/-- Once every number has been given out, the next insertion gets one that is in use. -/
theorem asked_reused (hfit : r.objection? = none) (h : r.inserts = true) {n : Nat}
    (hn : 2 ^ 32 ≤ n) :
    ((asked r n).serve r).outcome = .ok (.breakpoint (idOf (n + 1))) ∧
      idOf (n + 1) ∈ (asked r n).inserted.keys ∧
      ((asked r n).serve r).processor.inserted.length = (asked r n).inserted.length := by
  obtain ⟨hcalls, harmed⟩ := asked_state hfit n
  have hanswer : ((asked r n).serve r).outcome = .ok (.breakpoint (idOf (n + 1))) := by
    rw [((asked_tallied r n).serve_accepted hfit harmed).1, hcalls]
    cases r with
    | setBreakpoint | setWatchpoint => rw [replyAfter, insertions_replicate h]
    | cont | stop | step | removeBreakpoint => cases h
  have hnumbered := (asked_tallied r n).answered hanswer
  have hmem : idOf (n + 1) ∈ (asked r n).inserted.keys := by
    rw [hnumbered.used_iff, hcalls, insertions_replicate h]
    exact ⟨n + 1 - 2 ^ 32, by omega, stands_replicate h (by omega) (by omega)⟩
  exact ⟨hanswer, hmem, hnumbered.used hmem⟩

end Asked

/-- After as many insertions as there are numbers the first number is given out again, although
nothing has been removed. -/
theorem first_number_reused :
    ((asked (.setBreakpoint "main" .plain) (2 ^ 32)).serve (.setBreakpoint "main" .plain)).outcome =
        .ok (.breakpoint ⟨1⟩) ∧
      ⟨1⟩ ∈ (asked (.setBreakpoint "main" .plain) (2 ^ 32)).inserted.keys ∧
      ((asked (.setBreakpoint "main" .plain) (2 ^ 32)).serve
          (.setBreakpoint "main" .plain)).processor.inserted.length =
        (asked (.setBreakpoint "main" .plain) (2 ^ 32)).inserted.length := by
  have hfirst : idOf (2 ^ 32 + 1) = ⟨1⟩ := by decide
  rw [← hfirst]
  exact asked_reused (by decide) rfl (Nat.le_refl _)

end Processor
end TargetControl
