import TargetControl.Proofs.Ledger
import TargetControl.Proofs.Snapshots

/-!
What a register file holds.

A register file has the names that it was made with, for good, and under each of them the value of
the last write to that name that was accepted, or zero.  Files are made and written to in many ways:
from outside, through the target that holds them, and by a setup that runs.  The deeds that bear on
one file are gathered along a run, and what the file holds is read off them.

`Recorded` carries this over whole runs.  A file is made before anything is written to it, and once,
since no handle is given out twice.  Whatever is neither a new device nor a write to the file leaves
it as it is (`Untouched`).
-/

namespace TargetControl

namespace RegisterFile

/-! ## Deeds -/

/-- What bears on a register file. -/
inductive Deed where
  /-- it is made, with some names -/
  | made (names : List String)
  /-- a write is accepted -/
  | written (name : String) (value : UInt64)
deriving DecidableEq, Repr

def Deed.names? : Deed → Option (List String)
  | .made names => some names
  | .written .. => none

/-- What a deed writes under a name. -/
def Deed.value? (name : String) : Deed → Option UInt64
  | .made _ => none
  | .written key value => if key = name then some value else none

/-- The value of the last write to a name that is among some deeds, or zero. -/
def latest (deeds : List Deed) (name : String) : UInt64 :=
  (deeds.filterMap (Deed.value? name)).getLast?.getD 0

theorem latest_made (names : List String) (writes : List Deed) (name : String) :
    latest (.made names :: writes) name = latest writes name := rfl

theorem latest_concat (deeds : List Deed) (key : String) (value : UInt64) (name : String) :
    latest (deeds ++ [.written key value]) name =
      if key = name then value else latest deeds name := by
  rw [latest, List.filterMap_append]
  by_cases h : key = name
  · have hlast : [Deed.written key value].filterMap (Deed.value? name) = [value] := by
      simp [Deed.value?, h]
    rw [hlast, List.getLast?_concat, if_pos h]
    rfl
  · have hnone : [Deed.written key value].filterMap (Deed.value? name) = [] := by
      simp [Deed.value?, h]
    rw [hnone, List.append_nil, if_neg h, latest]

/-! ## One file -/

/-- A new file has the names it is given, however often each is given, and all its registers are
zero. -/
theorem value?_new (names : List String) (name : String) :
    (new names).value? name = if name ∈ names then some 0 else none := by
  have hfold : ∀ (names : List String) (entries : Keyed String UInt64),
      Keyed.find? name ((names.map fun n => (n, (0 : UInt64))).foldl
          (fun acc p => Keyed.insert p.1 p.2 acc) entries) =
        if name ∈ names then some 0 else Keyed.find? name entries := by
    intro names
    induction names with
    | nil => exact fun entries => rfl
    | cons n rest ih =>
      intro entries
      rw [List.map_cons, List.foldl_cons, ih, Keyed.find?_insert]
      by_cases hrest : name ∈ rest
      · rw [if_pos hrest, if_pos (List.mem_cons_of_mem _ hrest)]
      · by_cases hn : name = n
        · rw [if_neg hrest, if_pos hn, if_pos (hn ▸ List.mem_cons_self)]
        · rw [if_neg hrest, if_neg hn, if_neg fun h => (List.mem_cons.mp h).elim hn hrest]
  exact hfold names []

theorem write_snd (f : RegisterFile) (name : String) (value : UInt64) :
    (f.write name value).2 = (f.value? name).isSome := by
  rw [write]
  cases f.value? name <;> rfl

/-- A write that is not accepted leaves the file as it is. -/
theorem write_of_refused {f : RegisterFile} {name : String} {value : UInt64}
    (h : (f.write name value).2 = false) : (f.write name value).1 = f := by
  rw [write] at h ⊢
  cases hvalue : f.value? name with
  | none => rfl
  | some w =>
    rw [hvalue] at h
    cases h

/-- What some deeds say of a file. -/
inductive Follows (f : RegisterFile) : List Deed → Prop where
  | unmade (h : ∀ name, f.value? name = none) : Follows f []
  | made {names : List String} {writes : List Deed} (once : ∀ d ∈ writes, d.names? = none)
    (value : ∀ name, f.value? name = if name ∈ names then some (latest writes name) else none) :
    Follows f (.made names :: writes)

namespace Follows

variable {f g : RegisterFile} {deeds : List Deed}

theorem congr (h : Follows f deeds) (hvalues : g.values = f.values) : Follows g deeds := by
  have hvalue : ∀ name, g.value? name = f.value? name := fun name => by
    rw [value?, value?, hvalues]
  cases h with
  | unmade h => exact .unmade fun name => (hvalue name).trans (h name)
  | made once value => exact .made once fun name => (hvalue name).trans (value name)

/-- A file that has not been made accepts no write. -/
theorem ne_nil (h : Follows f deeds) {name : String} {value : UInt64}
    (haccepted : (f.write name value).2 = true) : deeds ≠ [] := by
  cases h with
  | unmade h =>
    rw [write_snd, h] at haccepted
    cases haccepted
  | made => exact List.cons_ne_nil _ _

/-- A write that is accepted is one more deed. -/
theorem write (h : Follows f deeds) {name : String} {value : UInt64}
    (haccepted : (f.write name value).2 = true) :
    Follows (f.write name value).1 (deeds ++ [.written name value]) := by
  have hne := h.ne_nil haccepted
  rw [write_snd] at haccepted
  cases h with
  | unmade => exact absurd rfl hne
  | @made names writes once hvalue =>
    have hknown : name ∈ names := by
      by_contra hno
      rw [hvalue, if_neg hno] at haccepted
      cases haccepted
    rw [List.cons_append]
    refine .made (fun d hd => ?_) fun other => ?_
    · rcases List.mem_append.mp hd with hd | hd
      · exact once d hd
      · rw [List.mem_singleton.mp hd]
        rfl
    · rw [value?_write, hvalue, hvalue, if_pos hknown, latest_concat]
      by_cases hother : other = name
      · rw [if_pos hother, hother, if_pos hknown, if_pos rfl]
        rfl
      · rw [if_neg hother, if_neg (Ne.symm hother)]

/-- A file whose names are known holds what was written to them last. -/
theorem value_of_made (h : Follows f deeds) {names : List String} (hmade : .made names ∈ deeds)
    (name : String) : f.value? name = if name ∈ names then some (latest deeds name) else none := by
  cases h with
  | unmade => cases hmade
  | made once value =>
    rcases List.mem_cons.mp hmade with heq | hwrite
    · cases heq
      rw [latest_made]
      exact value name
    · cases once _ hwrite

end Follows
end RegisterFile

open RegisterFile (Deed)

/-- Whether an operation may make a register file, attach it or make a request of it. -/
def Operation.reachesRegisters : Operation → Bool
  | .install .. | .attach _ | .init | .act _ | .serve .. => true
  | .addSink _ | .shutdown | .report _ | .wait _ | .waitFor .. | .setEntry .. | .removeEntry _
  | .deliver _ | .signal .. | .arm .. | .load .. | .close .. => false

namespace Lab

/-! ## The deeds of a run -/

/-- What making a device means for a file: it may be the one. -/
def installDeeds (n : Nat) (b : Bench) (part : Part) (fittings : Fittings) : List Deed :=
  if part = .registers ∧ b.installed = n then [.made fittings.names] else []

/-- An attachment makes a device unless one is there that serves. -/
def attachDeeds (n : Nat) (lab : Lab) (a : Attachment) : List Deed :=
  if (lab.obtained a).1.installed = lab.bench.installed then []
  else installDeeds n lab.bench a.kind.part a.fittings

/-- A write that a device answers with success is one to a file if the device is that file. -/
def answerDeeds (n : Nat) (device : Device) (outcome : Except Failure Reply) :
    Request → List Deed
  | .registers (.write name value) =>
    if device = (.registers, n) ∧ outcome = .ok (.flag true) then [.written name value] else []
  | _ => []

/-- The deed of a request to the target, by the slot that serves it. -/
def actDeeds (n : Nat) (lab : Lab) (request : Request) : List Deed :=
  match lab.target.slots request.action.capability with
  | some device => answerDeeds n device (lab.act request).2 request
  | none => []

def takeDeeds (n : Nat) (lab : Lab) : SetupStep → List Deed
  | .attach a | .offer a => lab.attachDeeds n a
  | .act request => lab.actDeeds n request
  | .nested | .report _ | .setEntry .. | .removeEntry _ | .shutdown => []

/-- The deeds in the steps of a setup, up to the first that fails. -/
def setupDeeds (n : Nat) : List SetupStep → Lab → List Deed
  | [], _ => []
  | step :: rest, lab =>
    lab.takeDeeds n step ++
      match lab.take step with
      | (_, .error _) => []
      | (after, .ok ()) => setupDeeds n rest after

def initDeeds (n : Nat) (lab : Lab) : List Deed :=
  if lab.target.initialized then []
  else
    match lab.target.setup with
    | none => []
    | some setup => setupDeeds n (setup (lab.target.runs + 1)).steps lab.entered

def performDeeds (n : Nat) (lab : Lab) : Operation → List Deed
  | .install _ part fittings => installDeeds n lab.bench part fittings
  | .attach a => lab.attachDeeds n a
  | .init => lab.initDeeds n
  | .act request => lab.actDeeds n request
  | .serve handle request =>
    answerDeeds n (request.part, handle) (lab.serve (request.part, handle) request).2 request
  | .addSink _ | .shutdown | .report _ | .wait _ | .waitFor .. | .setEntry .. | .removeEntry _
  | .deliver _ | .signal .. | .arm .. | .load .. | .close .. => []

/-- The deeds that bear on a file in the course of a run. -/
def deeds (n : Nat) (lab : Lab) : List Operation → List Deed
  | [] => []
  | operation :: rest => lab.performDeeds n operation ++ (lab.perform operation).1.deeds n rest

/-! ## What leaves a file alone -/

/-- Between two labs no device has been made or attached, and the registers of a file are the
same. -/
structure Untouched (n : Nat) (a b : Lab) : Prop where
  labels : b.bench.labels = a.bench.labels
  slots : ∀ kind device, b.target.slots kind = some device → a.target.slots kind = some device
  installed : b.bench.installed = a.bench.installed
  values : (b.bench.registers n).values = (a.bench.registers n).values

namespace Untouched

variable {n : Nat} {a b c : Lab}

theorem of_bench (hslots : b.target.slots = a.target.slots) (hbench : b.bench = a.bench) :
    Untouched n a b := by
  refine ⟨by rw [hbench], fun kind device h => ?_, by rw [hbench], by rw [hbench]⟩
  rw [← hslots]
  exact h

theorem refl (a : Lab) : Untouched n a a := of_bench rfl rfl

theorem trans (hab : Untouched n a b) (hbc : Untouched n b c) : Untouched n a c :=
  ⟨hbc.labels.trans hab.labels, fun kind device => hab.slots kind device ∘ hbc.slots kind device,
    hbc.installed.trans hab.installed, hbc.values.trans hab.values⟩

theorem reportAll (a : Lab) (states : List State) : Untouched n a (a.reportAll states) :=
  of_bench (by rw [reportAll_target]) (reportAll_bench a states)

/-- A call on the bench that makes no device and keeps the registers, with the reports that come of
it. -/
theorem setBench (a : Lab) {b : Bench} (hlabels : b.labels = a.bench.labels)
    (hinstalled : b.installed = a.bench.installed)
    (hvalues : (b.registers n).values = (a.bench.registers n).values) (states : List State) :
    Untouched n a ((a.setBench b).reportAll states) := by
  have hset : Untouched n a (a.setBench b) := ⟨hlabels, fun _ _ => id, hinstalled, hvalues⟩
  exact hset.trans (reportAll _ states)

theorem setProcessor (a : Lab) (handle : Nat) (p : Processor) (states : List State) :
    Untouched n a ((a.setProcessor handle p).reportAll states) :=
  setBench a (b := (a.setProcessor handle p).bench) rfl rfl rfl states

end Untouched

theorem values_shutdown (b : Bench) (device : Device) (n : Nat) :
    ((b.shutdown device).bench.registers n).values = (b.registers n).values := by
  obtain ⟨part, handle⟩ := device
  cases part with
  | registers =>
    have hvalues : (b.registers handle).shutdown.values = (b.registers handle).values := rfl
    exact Family.put_keeps RegisterFile.values hvalues n
  | processor | memory | peripheral | guest => rfl

theorem Untouched.close {n : Nat} (a : Lab) (device : Device) :
    Untouched n a (a.close device).1 :=
  setBench a (a.bench.shutdown_labels device) (a.bench.shutdown_installed device)
    (values_shutdown a.bench device n) _

theorem Untouched.releaseAll {n : Nat} (slots : Slots Device) (kinds : List Capability) (a : Lab) :
    Untouched n a (a.releaseAll slots kinds) := by
  induction kinds generalizing a with
  | nil => exact refl a
  | cons kind kinds ih =>
    rw [releaseAll_cons]
    cases slots kind with
    | none => exact ih a
    | some device =>
      have htold : Untouched n (a.close device).1 (a.release kind (some device)) := of_bench rfl rfl
      exact ((close a device).trans htold).trans (ih _)

theorem Untouched.shutdown {n : Nat} (a : Lab) : Untouched n a a.shutdown := by
  have htake : Untouched n a a.takeSlots := ⟨rfl, nofun, rfl, rfl⟩
  exact htake.trans (releaseAll a.target.slots Capability.all a.takeSlots)

/-- Requests, attachments, new devices and initializations apart, no operation touches a
register. -/
theorem Untouched.perform {n : Nat} (a : Lab) {operation : Operation}
    (h : operation.reachesRegisters = false) : Untouched n a (a.perform operation).1 := by
  cases operation with
  | install | attach | init | act | serve => cases h
  | addSink | setEntry | removeEntry => exact of_bench rfl rfl
  | waitFor limit now =>
    rw [perform_waitFor]
    exact refl a
  | shutdown => exact shutdown a
  | report s => exact reportAll a [s]
  | wait states =>
    rw [perform_wait, wait]
    cases a.wait? with
    | some told => exact refl a
    | none =>
      show Untouched n a (a.waitThrough states).1
      rw [waitThrough_fst]
      exact reportAll a states
  | deliver handle =>
    show Untouched n a (a.deliver handle)
    rw [deliver]
    cases (a.bench.processors handle).next? with
    | none => exact refl a
    | some next => exact setProcessor a handle next.2 [next.1]
  | signal handle states => exact setProcessor a handle _ _
  | arm handle fault => exact setProcessor a handle _ []
  | load handle address data =>
    exact setBench a (b := (a.setMemory handle _).bench) rfl rfl rfl []
  | close part handle => exact close a (part, handle)

/-! ## What a file is after a run -/

/-- A file is what its deeds say, and a device that is known to be that file has been made. -/
structure Recorded (n : Nat) (deeds : List Deed) (lab : Lab) : Prop where
  fitting : lab.Fitting
  file : (lab.bench.registers n).Follows deeds
  made : deeds ≠ [] → n < lab.bench.installed
  labelled : ∀ label, Keyed.find? label lab.bench.labels = some (.registers, n) → deeds ≠ []
  held : ∀ kind, lab.target.slots kind = some (.registers, n) → deeds ≠ []

/-- The lab with a register file in the state it has come to. -/
def setRegisters (lab : Lab) (n : Nat) (f : RegisterFile) : Lab :=
  lab.setBench { lab.bench with registers := Family.put lab.bench.registers n f }

theorem setRegisters_same (lab : Lab) (n : Nat) (f : RegisterFile) :
    (lab.setRegisters n f).bench.registers n = f := Family.put_same ..

theorem setRegisters_self (lab : Lab) (n : Nat) :
    lab.setRegisters n (lab.bench.registers n) = lab := by
  rw [setRegisters, Family.put_self]
  rfl

theorem serve_write (lab : Lab) (n : Nat) (name : String) (value : UInt64) :
    lab.serve (.registers, n) (.registers (.write name value)) =
      (lab.setRegisters n ((lab.bench.registers n).write name value).1,
        .ok (.flag ((lab.bench.registers n).write name value).2)) := rfl

theorem serve_read (lab : Lab) (n : Nat) (name : String) :
    lab.serve (.registers, n) (.registers (.read name)) =
      (lab, (((lab.bench.registers n).read name).map .word).mapError .backend) := by
  have hserve : (lab.serve (.registers, n) (.registers (.read name))).1 =
      lab.setRegisters n (lab.bench.registers n) := rfl
  rw [setRegisters_self] at hserve
  exact Prod.ext hserve rfl

/-- Handing a request to a device keeps a file, unless it is a write to that file. -/
theorem registers_serve (b : Bench) {device : Device} {request : Request} {n : Nat}
    (hfits : device.1 = request.part ∨ device.1 = .guest)
    (hother : ∀ name value, device = (.registers, n) → request ≠ .registers (.write name value)) :
    (b.serve device request).bench.registers n = b.registers n := by
  by_cases hdevice : device = (.registers, n)
  · subst hdevice
    cases request with
    | processor r | memory r => exact absurd hfits nofun
    | registers r =>
      cases r with
      | read name => exact Family.put_same ..
      | write name value => exact absurd rfl (hother name value rfl)
  · have hsame := b.device_serve_of_ne hfits (Ne.symm hdevice)
    exact DeviceState.registers.inj hsame

theorem answerDeeds_error (n : Nat) (device : Device) (failure : Failure) (request : Request) :
    answerDeeds n device (.error failure) request = [] := by
  rw [answerDeeds.eq_def]
  split
  · exact if_neg fun h => nomatch h.2
  · rfl

namespace Recorded

variable {n : Nat} {deeds : List Deed} {a b : Lab}

theorem of_initial (h : a.Initial) : Recorded n [] a := by
  obtain ⟨-, hslots, hbench⟩ := h.fresh
  refine ⟨fitting_of_empty hslots, .unmade fun name => ?_, fun hne => absurd rfl hne,
    fun label hfind => ?_, fun kind hheld => ?_⟩
  · rw [hbench]
    exact (RegisterFile.value?_new [] name).trans (if_neg List.not_mem_nil)
  · rw [hbench] at hfind
    cases hfind
  · rw [hslots] at hheld
    cases hheld

/-- Where no device is made or attached it is enough to look at the file. -/
theorem of_file (h : Recorded n deeds a) (hlabels : b.bench.labels = a.bench.labels)
    (hslots : ∀ kind device, b.target.slots kind = some device →
      a.target.slots kind = some device)
    (hinstalled : b.bench.installed = a.bench.installed) {more : List Deed}
    (hmore : more ≠ [] → deeds ≠ [])
    (hfile : (b.bench.registers n).Follows (deeds ++ more)) : Recorded n (deeds ++ more) b where
  fitting kind device hheld := h.fitting kind device (hslots kind device hheld)
  file := hfile
  made hne := by
    rw [hinstalled]
    refine h.made fun hnil => ?_
    rw [hnil, List.nil_append] at hne
    exact hmore hne hnil
  labelled label hfind := by
    rw [hlabels] at hfind
    exact List.append_ne_nil_of_left_ne_nil (h.labelled label hfind) _
  held kind hheld := List.append_ne_nil_of_left_ne_nil (h.held kind (hslots _ _ hheld)) _

theorem untouched (h : Recorded n deeds a) (hab : Untouched n a b) : Recorded n deeds b := by
  have hfile := h.file.congr hab.values
  rw [← List.append_nil deeds] at hfile ⊢
  exact h.of_file hab.labels hab.slots hab.installed (fun hne => absurd rfl hne) hfile

theorem serve (h : Recorded n deeds a) {device : Device} {request : Request}
    (hfits : device.1 = request.part ∨ device.1 = .guest) :
    Recorded n (deeds ++ answerDeeds n device (a.serve device request).2 request)
      (a.serve device request).1 := by
  have hsteady := a.bench.steady_serve device request
  have hkept : (∀ name value, device = (.registers, n) →
      request ≠ .registers (.write name value)) → Recorded n deeds (a.serve device request).1 :=
    fun hother => h.untouched (.setBench a hsteady.labels hsteady.installed
      (congrArg RegisterFile.values (registers_serve a.bench hfits hother)) _)
  rw [answerDeeds.eq_def]
  split
  · next name value =>
    by_cases hdevice : device = (.registers, n)
    · subst hdevice
      rw [serve_write]
      cases haccepted : ((a.bench.registers n).write name value).2 with
      | true =>
        rw [if_pos ⟨rfl, rfl⟩]
        refine h.of_file (b := a.setRegisters n _) rfl (fun _ _ => id) rfl
          (fun _ => h.file.ne_nil haccepted) ?_
        rw [setRegisters_same]
        exact h.file.write haccepted
      | false =>
        have hsame : a.setRegisters n ((a.bench.registers n).write name value).1 = a := by
          rw [RegisterFile.write_of_refused haccepted, setRegisters_self]
        rw [if_neg (by simp), List.append_nil]
        show Recorded n deeds (a.setRegisters n ((a.bench.registers n).write name value).1)
        rw [hsame]
        exact h
    · rw [if_neg fun hboth => hdevice hboth.1, List.append_nil]
      exact hkept fun _ _ hd => absurd hd hdevice
  · next hother =>
    rw [List.append_nil]
    exact hkept fun name value _ heq => hother name value heq

theorem act (h : Recorded n deeds a) (request : Request) :
    Recorded n (deeds ++ a.actDeeds n request) (a.act request).1 := by
  rw [actDeeds]
  cases hslot : a.target.slots request.action.capability with
  | none =>
    rw [act_of_vacant hslot, List.append_nil]
    exact h
  | some device =>
    by_cases hstate : a.target.cell.state = request.action.required
    · have hcell : Recorded n deeds (a.setCell (request.action.mark a.target.cell)) :=
        h.untouched (.of_bench rfl rfl)
      have hfits : device.1 = request.part ∨ device.1 = .guest := by
        have hkind := h.fitting _ device hslot
        have hpart := request.part_kind
        rw [request.terms_eq] at hpart
        rwa [hpart] at hkind
      rw [act_of_passes hslot hstate]
      exact hcell.serve hfits
    · rw [act_of_wrongState hslot hstate]
      simp only [answerDeeds_error, List.append_nil]
      exact h

/-- A new device is another file than all that are there, or it is the one in question. -/
theorem install (h : Recorded n deeds a) (label : String) (part : Part) (fittings : Fittings) :
    Recorded n (deeds ++ installDeeds n a.bench part fittings)
      (a.setBench (a.bench.install label part fittings).1) := by
  rw [installDeeds]
  by_cases hnew : part = .registers ∧ a.bench.installed = n
  · obtain ⟨rfl, hn⟩ := hnew
    -- a handle that is given out now has not been given out before
    have hnil : deeds = [] := by
      by_contra hne
      exact absurd (h.made hne) (Nat.not_lt_of_le (Nat.le_of_eq hn))
    rw [if_pos ⟨rfl, hn⟩, hnil, List.nil_append]
    refine ⟨h.fitting, ?_, fun _ => ?_, fun _ _ => List.cons_ne_nil _ _,
      fun _ _ => List.cons_ne_nil _ _⟩
    · have hfile : (a.bench.install label .registers fittings).1.registers n =
          .new fittings.names := by
        rw [← hn]
        exact Family.put_same ..
      rw [setBench_bench, hfile]
      exact .made nofun fun name => RegisterFile.value?_new fittings.names name
    · rw [setBench_bench, Bench.install_installed, hn]
      exact Nat.lt_succ_self n
  · have hfile : (a.bench.install label part fittings).1.registers n = a.bench.registers n := by
      cases part with
      | registers => exact Family.put_of_ne _ (fun heq => hnew ⟨rfl, heq.symm⟩) _
      | processor | memory | peripheral | guest => rfl
    rw [if_neg hnew, List.append_nil]
    refine ⟨h.fitting, ?_, fun hne => ?_, fun label' hfind => ?_, h.held⟩
    · rw [setBench_bench, hfile]
      exact h.file
    · rw [setBench_bench, Bench.install_installed]
      exact Nat.lt_succ_of_lt (h.made hne)
    · rw [setBench_bench, Bench.install_labels, Keyed.find?_insert] at hfind
      split at hfind
      · cases hfind
        exact absurd ⟨rfl, rfl⟩ hnew
      · exact h.labelled label' hfind

theorem obtain (h : Recorded n deeds a) (x : Attachment) :
    Recorded n (deeds ++ a.attachDeeds n x) (a.setBench (a.obtained x).1) := by
  rw [attachDeeds, obtained]
  rcases a.bench.obtain_cases x.label x.kind.part x.fittings with ⟨d, -, -, heq⟩ | heq
  · rw [heq, if_pos rfl, List.append_nil]
    exact h
  · rw [heq, Bench.install_installed, if_neg (Nat.succ_ne_self _)]
    exact h.install x.label x.kind.part x.fittings

theorem attach (h : Recorded n deeds a) (x : Attachment) :
    Recorded n (deeds ++ a.attachDeeds n x) (a.attachLabelled x).1 := by
  have hobtained := h.obtain x
  rw [attachLabelled_eq]
  cases hslot : a.target.slots x.kind with
  | some held =>
    have hhas : (a.setBench (a.obtained x).1).target.slots.has x.kind = true :=
      Slots.has_of_some hslot
    rw [attach_of_has hhas]
    exact hobtained
  | none =>
    have hnone : (a.setBench (a.obtained x).1).target.slots x.kind = none := hslot
    have hpart := a.bench.obtain_part x.label x.kind.part x.fittings
    have hlabel := a.bench.obtain_labelled x.label x.kind.part x.fittings
    rw [attach_of_none hnone]
    refine ⟨fun kind device hheld => ?_, hobtained.file, hobtained.made, hobtained.labelled,
      fun kind hheld => ?_⟩
    · rw [slots_attached] at hheld
      split at hheld
      · next hkind =>
        cases hheld
        rw [hkind]
        exact hpart
      · exact h.fitting kind device hheld
    · rw [slots_attached] at hheld
      split at hheld
      · have hdevice : (a.obtained x).2 = (.registers, n) := Option.some.inj hheld
        exact hobtained.labelled x.label (hlabel.trans (congrArg some hdevice))
      · exact hobtained.held kind hheld

theorem take (h : Recorded n deeds a) (step : SetupStep) :
    Recorded n (deeds ++ a.takeDeeds n step) (a.take step).1 := by
  cases step with
  | attach x | offer x => exact h.attach x
  | act request => exact h.act request
  | nested | setEntry | removeEntry =>
    rw [takeDeeds, List.append_nil]
    exact h.untouched (.of_bench rfl rfl)
  | report state =>
    rw [takeDeeds, List.append_nil]
    exact h.untouched (.reportAll a [state])
  | shutdown =>
    rw [takeDeeds, List.append_nil]
    exact h.untouched (.shutdown a)

theorem setupSteps (h : Recorded n deeds a) (steps : List SetupStep) :
    Recorded n (deeds ++ setupDeeds n steps a) (Lab.setupSteps quiet steps a).1 := by
  induction steps generalizing a deeds with
  | nil =>
    rw [setupDeeds, List.append_nil]
    exact h
  | cons step rest ih =>
    have hfirst := h.take step
    rw [setupSteps_cons, setupDeeds, ← List.append_assoc]
    show Recorded n _ (andThen (a.take step) _).1
    revert hfirst
    cases a.take step with
    | mk after outcome =>
      intro hfirst
      cases outcome with
      | error failure =>
        rw [List.append_nil]
        exact hfirst
      | ok done => exact ih hfirst

theorem init (h : Recorded n deeds a) : Recorded n (deeds ++ a.initDeeds n) a.init.1 := by
  rw [initDeeds, init_eq]
  split
  · rw [List.append_nil]
    exact h
  · cases a.target.setup with
    | none =>
      rw [List.append_nil]
      exact h.untouched (.of_bench rfl rfl)
    | some setup =>
      have hentered : Recorded n deeds a.entered := h.untouched (.of_bench rfl rfl)
      obtain ⟨flag, hflag⟩ := concluded_fst (runSetup quiet setup (a.setInitialized true))
      show Recorded n _ (concluded (runSetup quiet setup (a.setInitialized true))).1
      rw [hflag, runSetup_fst]
      exact (hentered.setupSteps (setup (a.target.runs + 1)).steps).untouched (.of_bench rfl rfl)

theorem perform (h : Recorded n deeds a) (operation : Operation) :
    Recorded n (deeds ++ a.performDeeds n operation) (a.perform operation).1 := by
  cases operation with
  | install label part fittings => exact h.install label part fittings
  | attach x => exact h.attach x
  | init => exact h.init
  | act request => exact h.act request
  | serve handle request => exact h.serve (.inl rfl)
  | _ =>
    rw [performDeeds, List.append_nil]
    exact h.untouched (.perform a rfl)

theorem run (h : Recorded n deeds a) (operations : List Operation) :
    Recorded n (deeds ++ a.deeds n operations) (a.run operations) := by
  induction operations generalizing a deeds with
  | nil =>
    rw [Lab.deeds, List.append_nil]
    exact h
  | cons operation rest ih =>
    rw [Lab.deeds, run_cons, ← List.append_assoc]
    exact ih (h.perform operation)

end Recorded

theorem deeds_append (n : Nat) (lab : Lab) (first second : List Operation) :
    lab.deeds n (first ++ second) = lab.deeds n first ++ (lab.run first).deeds n second := by
  induction first generalizing lab with
  | nil => rfl
  | cons operation first ih =>
    rw [List.cons_append, deeds, ih, deeds, List.append_assoc, run_cons]

/-! ## The law of a file -/

/-- Whether the target lets through what is asked of the registers of a file. -/
structure Admits (lab : Lab) (n : Nat) : Prop where
  slot : lab.target.slots .register = some (.registers, n)
  state : lab.target.cell.state = .stopped

/-- What a file with some names answers when one is read, by its deeds. -/
def reading (names : List String) (deeds : List Deed) (name : String) : Except Failure Reply :=
  if name ∈ names then .ok (.word (RegisterFile.latest deeds name))
  else .error (.backend (.rejected ("unknown register '" ++ name ++ "'")))

/-- What a write to a file with some names comes to. -/
structure Wrote (n : Nat) (names : List String) (name : String) (value : UInt64) (lab : Lab)
    (result : Lab × Except Failure Reply) : Prop where
  answer : result.2 = .ok (.flag (decide (name ∈ names)))
  /-- nothing changes in the lab but this file -/
  rest : result.1 = lab.setRegisters n (result.1.bench.registers n)
  /-- and nothing in the file but the register -/
  registers : ∀ other, (result.1.bench.registers n).value? other =
    if other = name ∧ name ∈ names then some value else (lab.bench.registers n).value? other
  unknown : name ∉ names → result.1 = lab

/-- What a register file does, with the names that it was made with and after some deeds. -/
structure RegisterLaw (n : Nat) (names : List String) (deeds : List Deed) (lab : Lab) : Prop where
  /-- the names that are known are those that it was made with -/
  known : ∀ name, ((lab.bench.registers n).value? name).isSome ↔ name ∈ names
  read : lab.Admits n → ∀ name,
    lab.act (.registers (.read name)) = (lab, reading names deeds name)
  readDirectly : ∀ name,
    lab.serve (.registers, n) (.registers (.read name)) = (lab, reading names deeds name)
  write : lab.Admits n → ∀ name value,
    Wrote n names name value lab (lab.act (.registers (.write name value)))
  writtenDirectly : ∀ name value,
    Wrote n names name value lab (lab.serve (.registers, n) (.registers (.write name value)))
  /-- what the target does not let through changes nothing at all -/
  refused : (lab.target.slots .register = none ∨ lab.target.cell.state ≠ .stopped) →
    ∀ access, ∃ refusal, lab.act (.registers access) = (lab, .error (.refused refusal))

/-- A request that the target lets through to a register file is one to the file. -/
theorem Admits.act {lab : Lab} {n : Nat} (h : lab.Admits n) (access : RegisterFile.Request) :
    lab.act (.registers access) = lab.serve (.registers, n) (.registers access) := by
  cases access with
  | read name | write name value => exact act_of_passes h.slot h.state

theorem act_registers_refused {lab : Lab}
    (h : lab.target.slots .register = none ∨ lab.target.cell.state ≠ .stopped)
    (access : RegisterFile.Request) :
    ∃ refusal, lab.act (.registers access) = (lab, .error (.refused refusal)) := by
  have hkind : (Request.registers access).action.capability = .register := by cases access <;> rfl
  have hneeds : (Request.registers access).action.required = .stopped := by cases access <;> rfl
  cases hslot : lab.target.slots .register with
  | none => exact ⟨_, act_of_vacant (by rw [hkind, hslot])⟩
  | some device =>
    have hstate := h.resolve_left fun hnone => nomatch hslot.symm.trans hnone
    exact ⟨_, act_of_wrongState (by rw [hkind, hslot]) (by rwa [hneeds])⟩

theorem Wrote.of_value {n : Nat} {names : List String} {lab : Lab}
    (hknown : ∀ name, ((lab.bench.registers n).value? name).isSome ↔ name ∈ names) (name : String)
    (value : UInt64) :
    Wrote n names name value lab
      (lab.serve (.registers, n) (.registers (.write name value))) := by
  have haccepted : ((lab.bench.registers n).write name value).2 = decide (name ∈ names) := by
    rw [RegisterFile.write_snd, Bool.eq_iff_iff, decide_eq_true_iff]
    exact hknown name
  rw [serve_write]
  refine ⟨?_, ?_, fun other => ?_, fun hno => ?_⟩
  · show Except.ok (Reply.flag _) = _
    rw [haccepted]
  · show lab.setRegisters n _ = lab.setRegisters n ((lab.setRegisters n _).bench.registers n)
    rw [setRegisters_same]
  · show ((lab.setRegisters n _).bench.registers n).value? other = _
    rw [setRegisters_same, RegisterFile.value?_write]
    by_cases hother : other = name
    · subst hother
      by_cases hin : other ∈ names
      · obtain ⟨old, hold⟩ := Option.isSome_iff_exists.mp ((hknown other).mpr hin)
        rw [if_pos rfl, if_pos ⟨rfl, hin⟩, hold]
        rfl
      · have hnone := Option.not_isSome_iff_eq_none.mp (mt (hknown other).mp hin)
        rw [if_pos rfl, if_neg fun hboth => hin hboth.2, hnone]
        rfl
    · rw [if_neg hother, if_neg fun hboth => hother hboth.1]
  · rw [decide_eq_false hno] at haccepted
    show lab.setRegisters n _ = lab
    rw [RegisterFile.write_of_refused haccepted, setRegisters_self]

theorem RegisterLaw.of_recorded {n : Nat} {names : List String} {deeds : List Deed} {lab : Lab}
    (h : Recorded n deeds lab) (hmade : .made names ∈ deeds) : RegisterLaw n names deeds lab := by
  have hvalue := h.file.value_of_made hmade
  have hknown : ∀ name, ((lab.bench.registers n).value? name).isSome ↔ name ∈ names := by
    intro name
    rw [hvalue]
    by_cases hin : name ∈ names
    · rw [if_pos hin]
      exact iff_of_true rfl hin
    · rw [if_neg hin]
      exact iff_of_false nofun hin
  have hread : ∀ name,
      lab.serve (.registers, n) (.registers (.read name)) = (lab, reading names deeds name) := by
    intro name
    rw [serve_read, RegisterFile.read, hvalue, reading]
    by_cases hin : name ∈ names
    · rw [if_pos hin, if_pos hin]
      rfl
    · rw [if_neg hin, if_neg hin]
      rfl
  exact
    { known := hknown
      read := fun hadmits name => (hadmits.act _).trans (hread name)
      readDirectly := hread
      write := fun hadmits name value => by
        rw [hadmits.act]
        exact .of_value hknown name value
      writtenDirectly := Wrote.of_value hknown
      refused := act_registers_refused }

/-- A register file at the end of a run, whatever is done after it, and in the midst of a run of the
setup. -/
structure RegisterLaws (n : Nat) (start : Lab) (operations : List Operation) : Prop where
  /-- a file that the target holds has been made, with some names -/
  made : ∀ kind, (start.run operations).target.slots kind = some (.registers, n) →
    ∃ names, .made names ∈ start.deeds n operations
  now : ∀ names, .made names ∈ start.deeds n operations →
    RegisterLaw n names (start.deeds n operations) (start.run operations)
  /-- its names are those for good -/
  lasting : ∀ names, .made names ∈ start.deeds n operations → ∀ later name,
    ((((start.run operations).run later).bench.registers n).value? name).isSome ↔ name ∈ names
  midway : ∀ done mid, Midway (start.run operations) done mid → ∀ names,
    .made names ∈ start.deeds n operations ++ setupDeeds n done (start.run operations).entered →
      RegisterLaw n names
        (start.deeds n operations ++ setupDeeds n done (start.run operations).entered) mid

/-- A file for which anything has been done was first of all made. -/
theorem Recorded.exists_made {n : Nat} {deeds : List Deed} {lab : Lab} (h : Recorded n deeds lab)
    (hne : deeds ≠ []) : ∃ names, .made names ∈ deeds := by
  cases h.file with
  | unmade => exact absurd rfl hne
  | @made names => exact ⟨names, List.mem_cons_self⟩

theorem register_laws {start : Lab} (hstart : start.Initial) (n : Nat)
    (operations : List Operation) : RegisterLaws n start operations := by
  have hrun : ∀ operations, Recorded n (start.deeds n operations) (start.run operations) :=
    (Recorded.of_initial hstart).run
  refine
    { made := fun kind hheld => (hrun operations).exists_made ((hrun operations).held kind hheld)
      now := fun names => .of_recorded (hrun operations)
      lasting := fun names hmade later => ?_
      midway := fun done mid hmid names hmade => ?_ }
  · rw [← run_append]
    refine (RegisterLaw.of_recorded (hrun (operations ++ later)) ?_).known
    rw [deeds_append]
    exact List.mem_append_left _ hmade
  · have hentered : Recorded n (start.deeds n operations) (start.run operations).entered :=
      (hrun operations).untouched (.of_bench rfl rfl)
    have hmiddle := hentered.setupSteps done
    rw [hmid.taken] at hmiddle
    exact .of_recorded hmiddle hmade

/-- Two registers, one without a name and one that is named twice. -/
def doubled : Fittings := { Fittings.plain with names := ["r0", "", "r0"] }

/-- Registers are written through a target and behind its back, before it has stopped and while it
runs, among them one that there is not; what the target is asked to write while it runs is
refused. -/
def scribbles : List Operation :=
  [.attach ⟨.register, "regs", doubled⟩, .serve 0 (.registers (.write "r0" 1)), .report .stopped,
    .act (.registers (.write "" 2)), .act (.registers (.write "r1" 3)), .report .running,
    .act (.registers (.write "r0" 4)), .serve 0 (.registers (.write "r0" 5)), .shutdown,
    .attach ⟨.register, "regs", .plain⟩, .report .stopped]

theorem register_laws_scribbles :
    bare.Initial ∧ RegisterLaws 0 bare scribbles ∧
      bare.deeds 0 scribbles =
        [.made ["r0", "", "r0"], .written "r0" 1, .written "" 2, .written "r0" 5] ∧
      (bare.run scribbles).Admits 0 ∧
      ((bare.run scribbles).act (.registers (.read "r0"))).2 = .ok (.word 5) ∧
      ((bare.run scribbles).act (.registers (.write "r1" 6))).2 = .ok (.flag false) :=
  ⟨initial_bare, register_laws initial_bare 0 scribbles, rfl, ⟨rfl, rfl⟩, rfl, rfl⟩

end Lab
end TargetControl
