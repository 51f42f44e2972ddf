import Mathlib.Data.List.Forall2
import TargetControl.Proofs.EventForm
import TargetControl.Proofs.LineFiles

/-!
The log of events in their data form.

The text of an event has no line feed in it, whatever its target is called, so the lines of a log
that was empty are the texts of the events that were sent, and each gives its event again.
-/

namespace TargetControl

namespace Event

/-- A line from which an event is read back, and which has the type of the event in one place. -/
structure Recorded (line : List Char) (e : Event) : Prop where
  event : codec.parse (String.ofList line) = .ok e
  type : ∃ members, Json.ofText (String.ofList line) = .ok (.object members) ∧
    members.filter (fun m => m.1 = typeKey) = [(typeKey, .string e.type)]

theorem feed_not_mem_text (e : Event) : '\n' ∉ e.toJson.text.toList := by
  rw [Json.text, String.toList_ofList]
  exact Json.feed_not_mem_write _ e.whole_toJson

theorem recorded {e : Event} (h : e.time.Valid) : Recorded e.toJson.text.toList e := by
  refine ⟨?_, (typeKey, .string e.type) :: e.others, ?_, ?_⟩
  · rw [String.ofList_toList]
    exact recovers h
  · rw [String.ofList_toList, Json.ofText_text e.whole_toJson, toJson_eq]
    exact Nat.le_trans e.depth_toJson (by decide)
  · have hothers : e.others.filter (fun m => m.1 = typeKey) = [] := by
      refine List.filter_eq_nil_iff.mpr fun m hm heq => e.typeKey_not_mem ?_
      rw [← of_decide_eq_true heq]
      exact List.mem_map_of_mem hm
    rw [List.filter_cons_of_pos (by simp), hothers]

end Event

namespace Sink

/-- The log of a fresh file gives the events that were sent to it. -/
theorem event_log_decodes {path : String} {events : List Event} {o after : Outlets}
    (hfresh : o.files.Holds path.toList [])
    (hsent : sendAll (.jsonl path) events o = (after, .ok ()))
    (htimes : ∀ e ∈ events, ∃ text, Timestamp.read? text = some e.time) :
    ∃ contents lines, after.files.Holds path.toList contents ∧
      (events ≠ [] → after.files.readText path.toList = .ok (String.ofList contents)) ∧
      contents.splitOn '\n' = lines ++ [[]] ∧ List.Forall₂ Event.Recorded lines events := by
  obtain ⟨hholds, hread⟩ := holds_sendAll (fun _ _ => rfl) hfresh hsent
  refine ⟨_, _, hholds, hread, splitOn_framed fun line hline => ?_, ?_⟩
  · obtain ⟨e, -, rfl⟩ := List.mem_map.mp hline
    exact e.feed_not_mem_text
  · rw [List.forall₂_map_left_iff]
    refine List.forall₂_same.mpr fun e he => ?_
    obtain ⟨text, hread⟩ := htimes e he
    exact Event.recorded (Timestamp.valid_of_read hread)

/-- Every kind of event, from targets whose names need escapes, at times that need every part of a
time: a leap second with a fraction, and a year before the first. -/
def awkward : List Event :=
  [⟨"a \"quoted\" \\ name", .state .created .initialized, .epoch⟩,
    ⟨"two\nlines\u0001", .attached .remoteMemory, ⟨⟨2024, 2, 29⟩, 86399, 1500000000⟩⟩,
    ⟨"é漢", .detached .execution, ⟨⟨-1, 12, 31⟩, 1, 120⟩⟩]

theorem event_log_decodes_awkward : ∃ after,
    sendAll (.jsonl "log/events.jsonl") awkward (.ofFiles .scratch) = (after, .ok ()) ∧
      ∃ contents lines, after.files.Holds "log/events.jsonl".toList contents ∧
        (awkward ≠ [] →
          after.files.readText "log/events.jsonl".toList = .ok (String.ofList contents)) ∧
        contents.splitOn '\n' = lines ++ [[]] ∧ List.Forall₂ Event.Recorded lines awkward := by
  have htimes : ∀ e ∈ awkward, ∃ text, Timestamp.read? text = some e.time := by
    rw [awkward, List.forall_mem_cons, List.forall_mem_cons, List.forall_mem_cons]
    exact ⟨⟨"1970-01-01T00:00:00Z".toList, rfl⟩, ⟨"2024-02-29T23:59:60.5Z".toList, rfl⟩,
      ⟨"-0001-12-31T00:00:01.00000012Z".toList, rfl⟩, nofun⟩
  have htaken : (sendAll (.jsonl "log/events.jsonl") awkward (.ofFiles .scratch)).2 = .ok () := rfl
  obtain ⟨after, hsent⟩ : ∃ after,
      sendAll (.jsonl "log/events.jsonl") awkward (.ofFiles .scratch) = (after, .ok ()) :=
    ⟨_, Prod.ext rfl htaken⟩
  exact ⟨after, hsent, event_log_decodes (.inr ⟨rfl, rfl⟩) hsent htimes⟩

end Sink
end TargetControl
