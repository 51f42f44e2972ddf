import Mathlib
import TargetControl.Proofs.History
import TargetControl.Proofs.KeyOrder
import TargetControl.Proofs.SetupRuns

/-!
Snapshots of the status refine a map with a reserved key.

The entries of a target are a map, and what is set and removed in the course of a run, from outside
and by the setup, says what they are: of each key the value most recently set and not removed since.
A snapshot overlays that map with the state.  Its fields, the lookup of a key, the snapshot as a map
and its data form are four views of the overlaid map, and none of them shows what is stored under
the reserved key.
-/

namespace TargetControl
namespace Lab

/-! ## The edits of a run -/

/-- The edits that the steps of a setup make, up to the first that fails. -/
def setupEdits : List SetupStep → Lab → List Edit
  | [], _ => []
  | step :: rest, lab =>
    step.edits ++
      match lab.take step with
      | (_, .error _) => []
      | (after, .ok ()) => setupEdits rest after

def initEdits (lab : Lab) : List Edit :=
  if lab.target.initialized then []
  else
    match lab.target.setup with
    | none => []
    | some setup => setupEdits (setup (lab.target.runs + 1)).steps lab.entered

/-- The edits in the course of a run, those of the setup among them. -/
def edits (lab : Lab) : List Operation → List Edit
  | [] => []
  | operation :: rest =>
    (if operation.initializes then lab.initEdits else operation.edits) ++
      (lab.perform operation).1.edits rest

theorem setupSteps_entries (steps : List SetupStep) (lab : Lab) :
    (setupSteps quiet steps lab).1.target.entries =
      Edit.applyAll (setupEdits steps lab) lab.target.entries := by
  induction steps generalizing lab with
  | nil => rfl
  | cons step rest ih =>
    obtain ⟨cell, slots, htake⟩ := take_edited lab step
    rw [setupSteps_cons, setupEdits, Edit.applyAll_append]
    show (andThen (lab.take step) _).1.target.entries = _
    revert htake
    cases lab.take step with
    | mk after outcome =>
      intro htake
      have hentries : after.target.entries = Edit.applyAll step.edits lab.target.entries :=
        congrArg Target.entries htake
      rw [← hentries]
      cases outcome with
      | error failure => rfl
      | ok done => exact ih after

theorem init_entries (lab : Lab) :
    lab.init.1.target.entries = Edit.applyAll lab.initEdits lab.target.entries := by
  rw [init_eq, initEdits]
  split
  · rfl
  · cases lab.target.setup with
    | none => rfl
    | some setup =>
      obtain ⟨flag, hflag⟩ := concluded_fst (runSetup quiet setup (lab.setInitialized true))
      show (concluded (runSetup quiet setup (lab.setInitialized true))).1.target.entries = _
      rw [hflag, runSetup_fst]
      exact setupSteps_entries (setup (lab.target.runs + 1)).steps lab.entered

theorem run_entries (lab : Lab) (operations : List Operation) :
    (lab.run operations).target.entries =
      Edit.applyAll (lab.edits operations) lab.target.entries := by
  induction operations generalizing lab with
  | nil => rfl
  | cons operation rest ih =>
    have hfirst : (lab.perform operation).1.target.entries =
        Edit.applyAll (if operation.initializes then lab.initEdits else operation.edits)
          lab.target.entries := by
      by_cases hinit : operation = .init
      · rw [hinit]
        exact lab.init_entries
      · obtain ⟨cell, slots, htarget⟩ := perform_edited lab hinit
        have hplain : operation.initializes = false := by
          cases operation with
          | init => exact absurd rfl hinit
          | _ => rfl
        rw [htarget, hplain]
        rfl
    rw [run_cons, ih, edits, Edit.applyAll_append, hfirst]

/-- In the midst of a run of the setup some of its steps have been taken. -/
structure Midway (lab : Lab) (done : List SetupStep) (mid : Lab) : Prop where
  uninitialized : lab.target.initialized = false
  steps : ∃ setup rest, lab.target.setup = some setup ∧
    (setup (lab.target.runs + 1)).steps = done ++ rest
  taken : setupSteps quiet done lab.entered = (mid, .ok ())

/-- Steps none of which fails make all their edits. -/
theorem setupEdits_of_ok {steps : List SetupStep} {lab mid : Lab}
    (h : setupSteps quiet steps lab = (mid, .ok ())) :
    setupEdits steps lab = steps.flatMap SetupStep.edits := by
  induction steps generalizing lab with
  | nil => rfl
  | cons step rest ih =>
    rw [setupSteps_cons] at h
    change andThen (lab.take step) _ = _ at h
    rw [setupEdits, List.flatMap_cons]
    revert h
    cases lab.take step with
    | mk after outcome =>
      cases outcome with
      | error failure => exact fun h => nomatch congrArg Prod.snd h
      | ok done => exact fun h => congrArg (step.edits ++ ·) (ih h)

/-! ## Snapshots -/

/-- What is seen of a target whose history is known and the values of whose keys are. -/
structure Snapshot (marks : List Mark) (value : String → Option Json) (lab : Lab) : Prop where
  /-- setting and removing give the value there was, also for the reserved key -/
  set_previous : ∀ key new,
    (lab.perform (.setEntry key new)).2 = .ok (.previous (value key))
  removed_previous : ∀ key, (lab.perform (.removeEntry key)).2 = .ok (.previous (value key))
  /-- the state is the one reported last, or the first state of a target -/
  state : lab.target.status.state = (marks.filterMap Mark.report?).getLast?.getD .created
  current : lab.target.status.state = lab.target.cell.state
  extra : ∀ key v, (key, v) ∈ lab.target.status.extra.list ↔
    key ≠ Status.stateKey ∧ value key = some v
  get : ∀ key, lab.target.status.get? key =
    if key = Status.stateKey then some (.string lab.target.status.state.name) else value key
  toMap : ∀ key, lab.target.status.toMap.find? key = lab.target.status.get? key
  /-- the data form has every key once, and is the snapshot as a map -/
  object : ∃ members, lab.target.status.toJson = .object members ∧ (Keyed.keys members).Nodup ∧
    Entries.ofPairs members = lab.target.status.toMap
  /-- what is stored under the reserved key is not seen, and has no bearing on the state -/
  shadowed : ∀ operation,
    operation = .removeEntry Status.stateKey ∨
      (∃ new, operation = .setEntry Status.stateKey new) →
    (lab.perform operation).1.target.status = lab.target.status ∧
      (lab.perform operation).1.target.cell = lab.target.cell

end Lab

namespace Status

variable (state : State) (entries : Entries)

theorem mem_extra (key : String) (v : Json) :
    (key, v) ∈ (merge state entries).extra.list ↔
      key ≠ stateKey ∧ entries.find? key = some v := by
  rw [Entries.mem_list_iff, find?_merge]
  split
  · next hkey => exact ⟨fun hv => (by cases hv), fun hne => absurd hkey hne.1⟩
  · next hkey => exact ⟨fun hv => ⟨hkey, hv⟩, And.right⟩

/-- The members of the data form. -/
def members (s : Status) : List (String × Json) :=
  (stateKey, .string s.state.name) :: s.extra.list

theorem keys_members : (Keyed.keys (merge state entries).members).Nodup := by
  have hfirst : stateKey ∉ (merge state entries).extra.keys := by
    rw [Entries.mem_keys_iff, find?_merge, if_pos rfl]
    exact Bool.false_ne_true
  exact List.nodup_cons.mpr ⟨hfirst, (merge state entries).extra.keys_nodup⟩

/-- The members make up the snapshot as a map, in whatever order they stand. -/
theorem ofPairs_members : .ofPairs (merge state entries).members = (merge state entries).toMap := by
  refine Entries.ext fun key => ?_
  rw [Entries.find?, Entries.list_ofPairs, Keyed.find?_ofPairs (keys_members state entries),
    find?_toMap]
  rfl

/-- What is stored under the reserved key makes no difference. -/
theorem merge_congr {first second : Entries} (state : State)
    (h : ∀ key, key ≠ stateKey → first.find? key = second.find? key) :
    merge state first = merge state second := by
  refine congrArg (Status.mk state) (Entries.ext fun key => ?_)
  rw [Entries.find?_erase, Entries.find?_erase]
  split
  · rfl
  · next hkey => exact h key hkey

end Status

namespace Lab

theorem Snapshot.of_entries {marks : List Mark} {value : String → Option Json} {lab : Lab}
    (hpair : PairLaw marks lab.target.cell)
    (hvalue : ∀ key, lab.target.entries.find? key = value key) : Snapshot marks value lab where
  set_previous key _ := congrArg (fun v => Except.ok (Answer.previous v)) (hvalue key)
  removed_previous key := congrArg (fun v => Except.ok (Answer.previous v)) (hvalue key)
  state := hpair.state
  current := rfl
  extra key v := by
    rw [← hvalue]
    exact Status.mem_extra _ _ key v
  get key := by
    rw [Status.get?]
    split
    · rfl
    · next hkey =>
      rw [← hvalue]
      exact (Status.find?_merge _ _ key).trans (if_neg hkey)
  toMap key := Status.find?_toMap _ key
  object := ⟨_, rfl, Status.keys_members _ _, Status.ofPairs_members _ _⟩
  shadowed operation hop := by
    rcases hop with rfl | ⟨new, rfl⟩
    · refine ⟨Status.merge_congr _ fun key hkey => ?_, rfl⟩
      exact (Entries.find?_erase _ _ key).trans (if_neg hkey)
    · refine ⟨Status.merge_congr _ fun key hkey => ?_, rfl⟩
      exact (Entries.find?_insert _ _ key new).trans (if_neg hkey)

/-! ## Runs -/

/-- A target that has just been made, and the entries that it is configured with. -/
inductive Configured : Entries → Lab → Prop where
  | new (name : String) (setup : Option Setup) (files : FileTree) (now : Timestamp) :
    Configured .empty (.new name setup files now)
  | configured {config : Config} {setup : Option Setup} {files : FileTree} {now : Timestamp}
    {lab : Lab} (h : ofConfig config setup files now = .ok lab) : Configured config.status lab

theorem Configured.initial {configured : Entries} {lab : Lab} (h : Configured configured lab) :
    lab.Initial := by
  cases h with
  | new => exact .new ..
  | configured h => exact .configured h

theorem Configured.entries {configured : Entries} {lab : Lab} (h : Configured configured lab) :
    lab.target.entries = configured := by
  cases h with
  | new => rfl
  | configured h =>
    unfold ofConfig at h
    simp only at h
    split at h
    · cases h
    · simp only [Except.ok.injEq] at h
      rw [← h]

/-- At the end of a run, and in the midst of a run of the setup after it. -/
structure Snapshots (configured : Entries) (start : Lab) (operations : List Operation) : Prop where
  now : Snapshot (history (start.chronicle operations))
    (Edit.latest configured (start.edits operations)) (start.run operations)
  midway : ∀ done mid, Midway (start.run operations) done mid →
    Snapshot (history (start.chronicle operations ++ setupTrail done (start.run operations).entered))
      (Edit.latest configured (start.edits operations ++ done.flatMap SetupStep.edits)) mid

theorem snapshots {configured : Entries} {start : Lab} (hstart : Configured configured start)
    (operations : List Operation) : Snapshots configured start operations := by
  have hfresh : PairLaw [] start.target.cell := by
    rw [hstart.initial.fresh.1]
    exact .fresh
  have hpath := start.path_run_any operations
  have hentries := start.run_entries operations
  rw [hstart.entries] at hentries
  refine ⟨.of_entries (hpath.follows hfresh).last fun key => ?_, fun done mid hmid => ?_⟩
  · rw [hentries]
    exact Edit.find?_applyAll _ _ key
  · -- entering the setup leaves nothing in the chronicle and makes no edit
    have hentered : Path True (start.run operations) [] (start.run operations).entered :=
      .idle (.ofBench rfl rfl rfl)
    have hsteps := hentered.trans (path_setupSteps done (start.run operations).entered)
    have htaken := setupSteps_entries done (start.run operations).entered
    rw [hmid.taken, setupEdits_of_ok hmid.taken] at htaken
    have hmiddle : mid.target.entries = Edit.applyAll
        (start.edits operations ++ done.flatMap SetupStep.edits) configured := by
      rw [Edit.applyAll_append, ← hentries]
      exact htaken
    rw [hmid.taken] at hsteps
    refine .of_entries ((hpath.trans hsteps).follows hfresh).last fun key => ?_
    rw [hmiddle]
    exact Edit.find?_applyAll _ _ key

/-- A configuration with an entry under the reserved key. -/
def annotated : Config :=
  { Config.ofName "unit" with status := .ofPairs [("pid", .ofNat 4242), ("state", .string "bogus")] }

/-- A setup that notes its phase and reports. -/
def phased : Setup := fun _ =>
  { steps := [.setEntry "phase" .null, .report .initialized], failure := none }

/-- A run of that setup between edits from outside, of the reserved key among others. -/
def annotations : List Operation :=
  [.setEntry "state" (.bool true), .init, .removeEntry "pid"]

theorem snapshots_annotated : ∃ start,
    ofConfig annotated (some phased) ⟨[], []⟩ .epoch = .ok start ∧
      Snapshots annotated.status start annotations ∧
      (start.perform (.removeEntry "state")).2 = .ok (.previous (some (.string "bogus"))) ∧
      (start.run annotations).target.status = ⟨.initialized, .ofPairs [("phase", .null)]⟩ ∧
      start.edits annotations =
        [.set "state" (.bool true), .set "phase" .null, .remove "pid"] :=
  ⟨_, rfl, snapshots (.configured rfl) annotations, rfl, rfl, rfl⟩

end Lab
end TargetControl
