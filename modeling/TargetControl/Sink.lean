import TargetControl.Event
import TargetControl.Family
import TargetControl.Files.Tree

/-!
Sinks: where the events of a target go.

A sink opens its file anew for each event, making the file and the directories on the way to it
where they are missing, and adds one line at its end.  A dispatch sends an event to every sink in
turn; a sink that fails keeps no other from getting the event, which `records_dispatch` says of
the sinks that keep what they receive.
-/

namespace TargetControl

/-- Something that takes events. -/
inductive Sink where
  /-- adds lines for people to read to a file, under the name of a source -/
  | text (path source : String)
  /-- adds the data form of events to a file, one to a line -/
  | jsonl (path : String)
  /-- keeps the events under a number -/
  | recorder (id : Nat)
  /-- always fails -/
  | broken (failure : Failure)
  /-- counts what comes to it under a number, and fails at some of the counts -/
  | fitful (id : Nat) (failing : List Nat) (failure : Failure)
deriving DecidableEq, Repr

/-- What sinks leave behind. -/
structure Outlets where
  files : FileTree
  /-- the events that each recorder received, oldest first -/
  records : Nat → List Event
  /-- the events that came to each fitful sink -/
  counts : Nat → Nat

namespace Outlets

/-- Nothing received yet, and the given files. -/
def ofFiles (files : FileTree) : Outlets := ⟨files, fun _ => [], fun _ => 0⟩

/-- Keeps an event for a recorder. -/
def record (o : Outlets) (id : Nat) (e : Event) : Outlets :=
  { o with records := Family.put o.records id (o.records id ++ [e]) }

def count (o : Outlets) (id : Nat) : Outlets :=
  { o with counts := Family.put o.counts id (o.counts id + 1) }

/-- Adds a line to the file at a path, with a line feed after it. -/
def addLine (o : Outlets) (path line : String) : Outlets × Except Failure Unit :=
  let opened (files : FileTree) : Outlets × Except Failure Unit :=
    match files.openAppend path.toList with
    | .error fault => ({ o with files }, .error (.file path fault))
    | .ok (files, names) =>
      match files.write names (line.toList ++ ['\n']) with
      | .error fault => ({ o with files }, .error (.file path fault))
      | .ok files => ({ o with files }, .ok ())
  match Path.parent? path.toList with
  | none => opened o.files
  | some parent =>
    match o.files.makeAll parent with
    | (files, .error fault) => ({ o with files }, .error (.file (String.ofList parent) fault))
    | (files, .ok ()) => opened files

theorem records_record (o : Outlets) (id : Nat) (e : Event) (n : Nat) :
    (o.record id e).records n = if n = id then o.records n ++ [e] else o.records n := by
  simp only [record, Family.put_apply]
  split
  · next h => rw [h]
  · rfl

/-- Adding a line leaves the recorders alone. -/
theorem records_addLine (o : Outlets) (path line : String) :
    (o.addLine path line).1.records = o.records := by
  unfold addLine
  dsimp only
  repeat' split
  all_goals rfl

end Outlets

namespace Sink

def textLine (source : String) (e : Event) : String :=
  e.time.offsetText ++ " | " ++ source ++ ".INFO | " ++ e.message

def send (sink : Sink) (e : Event) (o : Outlets) : Outlets × Except Failure Unit :=
  match sink with
  | .text path source => o.addLine path (textLine source e)
  | .jsonl path => o.addLine path e.toJson.text
  | .recorder id => (o.record id e, .ok ())
  | .broken failure => (o, .error failure)
  | .fitful id failing failure =>
    (o.count id, if o.counts id ∈ failing then .error failure else .ok ())

/-- Sends an event to every sink in turn, whatever becomes of it there. -/
def dispatch (sinks : List Sink) (e : Event) (o : Outlets) : Outlets :=
  sinks.foldl (fun o sink => (sink.send e o).1) o

@[simp] theorem dispatch_nil (e : Event) (o : Outlets) : dispatch [] e o = o := rfl

@[simp] theorem dispatch_cons (sink : Sink) (sinks : List Sink) (e : Event) (o : Outlets) :
    dispatch (sink :: sinks) e o = dispatch sinks e (sink.send e o).1 := rfl

theorem records_send (sink : Sink) (e : Event) (o : Outlets) (n : Nat) :
    (sink.send e o).1.records n =
      if sink = .recorder n then o.records n ++ [e] else o.records n := by
  cases sink with
  | text path source => simp [send, Outlets.records_addLine]
  | jsonl path => simp [send, Outlets.records_addLine]
  | broken failure => simp [send]
  | fitful id failing failure => simp [send, Outlets.count]
  | recorder id =>
    simp only [send, Outlets.records_record, recorder.injEq]
    by_cases h : n = id
    · simp [h]
    · simp [h, Ne.symm h]

/-- A recorder receives an event once for each time it is among the sinks. -/
theorem records_dispatch (sinks : List Sink) (e : Event) (o : Outlets) (n : Nat) :
    (dispatch sinks e o).records n =
      o.records n ++ List.replicate (sinks.count (.recorder n)) e := by
  induction sinks generalizing o with
  | nil => simp
  | cons sink sinks ih =>
    rw [dispatch_cons, ih, records_send, List.count_cons]
    by_cases h : sink = .recorder n
    · simp [h, List.replicate_succ]
    · simp [h]

end Sink
end TargetControl
