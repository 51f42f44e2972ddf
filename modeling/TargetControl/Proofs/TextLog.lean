import Mathlib.Data.List.Forall2
import Mathlib.Data.List.Infix
import TargetControl.Config
import TargetControl.Proofs.EventLog
import TargetControl.Proofs.Instants

/-!
The log for people to read.

A line of it has three fields: the time of an event, the source with the level behind it, and the
message.  The source is written as it is, so the lines and their fields can be told apart for just
those names that have neither a line feed nor a separator in them (`Plain`).  Times and messages
have neither, and the points around the names keep a separator from lying across their ends.
-/

namespace TargetControl

/-! ## Fields -/

/-- What stands between two fields. -/
def separator : List Char := [' ', '|', ' ']

/-- The parts of a line between separators, as they are found from the left. -/
def fields : List Char → List (List Char)
  | [] => [[]]
  | ' ' :: '|' :: ' ' :: rest => [] :: fields rest
  | c :: rest => (fields rest).modifyHead (c :: ·)

theorem fields_separator (rest : List Char) : fields (separator ++ rest) = [] :: fields rest := rfl

theorem fields_cons {c : Char} {rest : List Char} (h : ¬separator <+: c :: rest) :
    fields (c :: rest) = (fields rest).modifyHead (c :: ·) := by
  rw [fields]
  rintro after rfl rfl
  exact h ⟨after, rfl⟩

/-- A line that does not begin with a separator begins with its first field. -/
theorem exists_first (line : List Char) : ∃ first others, fields line = first :: others := by
  fun_induction fields line with
  | case1 | case2 => exact ⟨_, _, rfl⟩
  | case3 c rest _ ih =>
    obtain ⟨first, others, hrest⟩ := ih
    exact ⟨c :: first, others, by rw [hrest]; rfl⟩

/-- The fields with separators between them are the line. -/
theorem intercalate_fields (line : List Char) : separator.intercalate (fields line) = line := by
  fun_induction fields line with
  | case1 => rfl
  | case2 rest ih =>
    obtain ⟨first, others, hrest⟩ := exists_first rest
    rw [hrest] at ih ⊢
    rw [List.intercalate_cons_cons, ih]
    rfl
  | case3 c rest _ ih =>
    obtain ⟨first, others, hrest⟩ := exists_first rest
    rw [hrest] at ih ⊢
    rw [List.modifyHead_cons]
    cases others with
    | nil =>
      rw [List.intercalate_singleton] at ih ⊢
      rw [ih]
    | cons second others =>
      rw [List.intercalate_cons_cons] at ih ⊢
      rw [← ih]
      rfl

theorem first_prefix {line first : List Char} {others : List (List Char)}
    (h : fields line = first :: others) : first <+: line := by
  have hline := intercalate_fields line
  rw [h] at hline
  cases others with
  | nil => exact ⟨[], by rw [← hline, List.intercalate_singleton, List.append_nil]⟩
  | cons second others =>
    rw [List.intercalate_cons_cons, List.append_assoc] at hline
    exact ⟨_, hline⟩

/-- No field has a separator in it. -/
theorem not_separator_infix_field {line field : List Char} (h : field ∈ fields line) :
    ¬separator <:+: field := by
  fun_induction fields line generalizing field with
  | case1 =>
    rw [List.mem_singleton.mp h]
    decide
  | case2 rest ih =>
    rcases List.mem_cons.mp h with rfl | h
    · decide
    · exact ih h
  | case3 c rest hno ih =>
    obtain ⟨first, others, hrest⟩ := exists_first rest
    rw [hrest, List.modifyHead_cons] at h
    rw [hrest] at ih
    rcases List.mem_cons.mp h with rfl | h
    · rw [List.infix_cons_iff]
      -- the field begins the line, so a separator at its start would have been found there
      rintro (hbegins | hinside)
      · obtain ⟨after, hafter⟩ :=
          hbegins.trans (List.cons_prefix_cons.mpr ⟨rfl, first_prefix hrest⟩)
        cases hafter
        exact hno after rfl rfl
      · exact ih List.mem_cons_self hinside
    · exact ih (List.mem_cons_of_mem _ h)

/-- What comes before a separator is a field if no separator is found any earlier. -/
theorem fields_append {first : List Char} (h : ¬separator <:+: first ++ [' ', '|'])
    (rest : List Char) : fields (first ++ separator ++ rest) = first :: fields rest := by
  induction first with
  | nil => exact fields_separator rest
  | cons c first ih =>
    rw [List.cons_append, List.infix_cons_iff] at h
    have hstart : ¬separator <+: c :: (first ++ separator ++ rest) := by
      intro hbegins
      -- three characters from here on are still in front of the last one of the separator
      have hshort : c :: (first ++ [' ', '|']) <+: c :: (first ++ separator ++ rest) :=
        ⟨' ' :: rest, by simp [separator]⟩
      exact h (.inl (List.prefix_of_prefix_length_le hbegins hshort (by simp [separator])))
    rw [List.cons_append, List.cons_append, fields_cons hstart, ih fun hin => h (.inr hin)]
    rfl

/-- A line without a separator is a field. -/
theorem fields_of_not_infix {line : List Char} (h : ¬separator <:+: line) :
    fields line = [line] := by
  induction line with
  | nil => rfl
  | cons c rest ih =>
    rw [List.infix_cons_iff] at h
    rw [fields_cons fun hbegins => h (.inl hbegins), ih fun hin => h (.inr hin)]
    rfl

/-- A separator does not lie across a character that it does not have. -/
theorem separator_infix_append_cons {c : Char} (hc : c ∉ separator) (front back : List Char) :
    separator <:+: front ++ c :: back ↔ separator <:+: front ∨ separator <:+: back := by
  rw [List.infix_append_iff]
  refine ⟨?_, Or.imp id fun hback => .inl (hback.trans (List.suffix_cons c back).isInfix)⟩
  rintro (hfront | hback | ⟨left, right, hsplit, hleft, hright⟩)
  · exact .inl hfront
  · rcases List.infix_cons_iff.mp hback with hbegins | hin
    · obtain ⟨rest, hrest⟩ := hbegins
      cases hrest
      exact absurd (by decide) hc
    · exact .inr hin
  · cases right with
    | nil =>
      rw [List.append_nil] at hsplit
      rw [hsplit]
      exact .inl hleft.isInfix
    | cons first right =>
      have hfirst : first = c := (List.cons_prefix_cons.mp hright).1
      rw [hsplit, hfirst] at hc
      exact absurd (List.mem_append_right left List.mem_cons_self) hc

/-- The pieces between line feeds have none. -/
theorem feed_not_mem_of_mem_splitOn {chars piece : List Char} (h : piece ∈ chars.splitOn '\n') :
    '\n' ∉ piece := by
  induction chars generalizing piece with
  | nil =>
    rw [List.splitOn_nil] at h
    rw [List.mem_singleton.mp h]
    exact List.not_mem_nil
  | cons c rest ih =>
    rw [List.splitOn_cons_eq_if_modifyHead] at h
    by_cases hc : c = '\n'
    · rw [if_pos (beq_iff_eq.mpr hc)] at h
      rcases List.mem_cons.mp h with rfl | h
      · exact List.not_mem_nil
      · exact ih h
    · rw [if_neg (mt beq_iff_eq.mp hc)] at h
      cases hrest : rest.splitOn '\n' with
      | nil => exact absurd hrest (List.splitOn_ne_nil _ _)
      | cons first others =>
        rw [hrest] at h ih
        rcases List.mem_cons.mp h with rfl | h
        · rw [List.mem_cons, not_or]
          exact ⟨Ne.symm hc, ih List.mem_cons_self⟩
        · exact ih (List.mem_cons_of_mem _ h)

/-! ## Lines of the log -/

namespace Timestamp

/-- The characters in a time that are not digits. -/
def clockMarks : List Char := ['-', '+', 'T', ':', '.']

/-- What stands between the digits of a time is one of a few marks. -/
def Clocked (cs : List Char) : Prop := ∀ c ∈ cs, Digits.isDecimal c = true ∨ c ∈ clockMarks

theorem clocked_nil : Clocked [] := nofun

theorem clocked_append {front back : List Char} :
    Clocked (front ++ back) ↔ Clocked front ∧ Clocked back := List.forall_mem_append

theorem clocked_cons {c : Char} {rest : List Char} :
    Clocked (c :: rest) ↔ (Digits.isDecimal c = true ∨ c ∈ clockMarks) ∧ Clocked rest :=
  List.forall_mem_cons

theorem clocked_padded (width n : Nat) : Clocked (Digits.padded width n) :=
  fun _ h => .inl (Digits.isDecimal_of_mem_padded h)

theorem clocked_writeYear (year : Int) : Clocked (writeYear year) := by
  rw [writeYear]
  split
  · exact clocked_padded _ _
  · refine clocked_cons.mpr ⟨.inr ?_, clocked_padded _ _⟩
    split <;> decide

theorem clocked_writeFraction (nanos : Nat) : Clocked (writeFraction nanos) := by
  rw [writeFraction]
  split_ifs
  · exact clocked_nil
  all_goals exact clocked_cons.mpr ⟨.inr (by decide), clocked_padded _ _⟩

theorem clocked_writeOffset (t : Timestamp) : Clocked t.writeOffset := by
  rw [writeOffset, writeWith]
  simp only [clocked_append, clocked_cons, clocked_nil, clocked_padded, clocked_writeYear,
    clocked_writeFraction, and_true, true_and]
  decide

end Timestamp

/-- A name that is written in the log as one piece. -/
def Plain (name : String) : Prop := '\n' ∉ name.toList ∧ ¬separator <:+: name.toList

theorem plain_offsetText (t : Timestamp) :
    '\n' ∉ t.offsetText.toList ∧ ' ' ∉ t.offsetText.toList := by
  have hclocked := t.clocked_writeOffset
  have hfeed : ¬(Digits.isDecimal '\n' = true ∨ '\n' ∈ Timestamp.clockMarks) := by decide
  have hblank : ¬(Digits.isDecimal ' ' = true ∨ ' ' ∈ Timestamp.clockMarks) := by decide
  rw [Timestamp.offsetText, String.toList_ofList]
  exact ⟨mt (hclocked '\n') hfeed, mt (hclocked ' ') hblank⟩

namespace Event

theorem plain_message (e : Event) : '\n' ∉ e.message.toList ∧ '|' ∉ e.message.toList := by
  have hstate : ∀ s : State, '\n' ∉ s.name.toList ∧ '|' ∉ s.name.toList := by
    intro s
    cases s <;> decide
  have hkind : ∀ kind : Capability, '\n' ∉ kind.name.toList ∧ '|' ∉ kind.name.toList := by
    intro kind
    cases kind <;> decide
  have happend : ∀ {a b : String}, '\n' ∉ a.toList ∧ '|' ∉ a.toList →
      '\n' ∉ b.toList ∧ '|' ∉ b.toList → '\n' ∉ (a ++ b).toList ∧ '|' ∉ (a ++ b).toList := by
    intro a b ha hb
    rw [String.toList_append, List.mem_append, List.mem_append, not_or, not_or]
    exact ⟨⟨ha.1, hb.1⟩, ha.2, hb.2⟩
  rw [message]
  cases e.change with
  | state a b => exact happend (happend (happend (by decide) (hstate a)) (by decide)) (hstate b)
  | attached kind | detached kind => exact happend (happend (by decide) (hkind kind)) (by decide)

/-- What is written of an event under a source. -/
def columns (source : String) (e : Event) : List (List Char) :=
  [e.time.offsetText.toList, (source ++ ".INFO").toList, e.message.toList]

end Event

theorem toList_textLine (source : String) (e : Event) :
    (Sink.textLine source e).toList =
      e.time.offsetText.toList ++ separator ++
        ((source ++ ".INFO").toList ++ separator ++ e.message.toList) := by
  simp [Sink.textLine, separator]

theorem intercalate_columns (source : String) (e : Event) :
    separator.intercalate (e.columns source) = (Sink.textLine source e).toList := by
  rw [toList_textLine, Event.columns, List.intercalate_cons_cons, List.intercalate_cons_cons,
    List.intercalate_singleton]

/-- Separators in the source of a target, and behind it up to the next field, are separators in the
names. -/
theorem separator_infix_logSource (config : Config) (back : List Char) :
    separator <:+: (config.logSource ++ ".INFO").toList ++ back ↔
      separator <:+: config.orchestrator.toList ∨ separator <:+: config.name.toList ∨
        separator <:+: "INFO".toList ++ back := by
  have hpoint : '.' ∉ separator := by decide
  have hsource : (config.logSource ++ ".INFO").toList ++ back =
      config.orchestrator.toList ++ '.' :: ("targets".toList ++
        '.' :: (config.name.toList ++ '.' :: ("INFO".toList ++ back))) := by
    simp [Config.logSource]
  have hword : ¬separator <:+: "targets".toList := by decide
  rw [hsource, separator_infix_append_cons hpoint, separator_infix_append_cons hpoint,
    separator_infix_append_cons hpoint, or_iff_right hword]

/-- The first separator of a line is the one behind the time. -/
theorem not_separator_infix_offsetText (t : Timestamp) :
    ¬separator <:+: t.offsetText.toList ++ [' ', '|'] := by
  have hblank := (plain_offsetText t).2
  rw [List.infix_append_iff]
  rintro (h | h | ⟨left, right, hsplit, hleft, hright⟩)
  · exact hblank (h.subset (by decide))
  · exact absurd h (by decide)
  · cases left with
    | nil =>
      have hbegins : separator <+: [' ', '|'] := hsplit ▸ hright
      exact absurd hbegins (by decide)
    | cons c left =>
      have hc : c = ' ' := (List.cons.inj hsplit).1.symm
      exact hblank (hleft.subset (hc ▸ List.mem_cons_self))

theorem fields_textLine {config : Config} (horchestrator : Plain config.orchestrator)
    (hname : Plain config.name) (e : Event) :
    fields (Sink.textLine config.logSource e).toList = e.columns config.logSource := by
  have htime := not_separator_infix_offsetText e.time
  have hsource : ¬separator <:+: (config.logSource ++ ".INFO").toList ++ [' ', '|'] := by
    rw [separator_infix_logSource]
    rintro (h | h | h)
    · exact horchestrator.2 h
    · exact hname.2 h
    · exact absurd h (by decide)
  have hmessage : ¬separator <:+: e.message.toList := fun h =>
    e.plain_message.2 (h.subset (by decide))
  rw [toList_textLine, fields_append htime, fields_append hsource, fields_of_not_infix hmessage,
    Event.columns]

theorem feed_not_mem_textLine (config : Config) (e : Event) :
    '\n' ∉ (Sink.textLine config.logSource e).toList ↔
      '\n' ∉ config.orchestrator.toList ∧ '\n' ∉ config.name.toList := by
  simp [Sink.textLine, Config.logSource, (plain_offsetText e.time).1, e.plain_message.1]

/-- Contents that are one line for each event, and every line its three fields. -/
def FramedLog (source : String) (contents : List Char) (events : List Event) : Prop :=
  ∃ lines, contents.splitOn '\n' = lines ++ [[]] ∧
    List.Forall₂ (fun line e => fields line = e.columns source) lines events

theorem FramedLog.of_plain {config : Config} (horchestrator : Plain config.orchestrator)
    (hname : Plain config.name) (events : List Event) :
    FramedLog config.logSource
      (framed (events.map fun e => (Sink.textLine config.logSource e).toList)) events := by
  refine ⟨_, splitOn_framed fun line hline => ?_, ?_⟩
  · obtain ⟨e, -, rfl⟩ := List.mem_map.mp hline
    exact (feed_not_mem_textLine config e).mpr ⟨horchestrator.1, hname.1⟩
  · rw [List.forall₂_map_left_iff]
    exact List.forall₂_same.mpr fun e _ => fields_textLine horchestrator hname e

/-- One line that stands alone and has its three fields is enough to know that the names are
plain. -/
theorem FramedLog.plain {config : Config} {contents : List Char} {e : Event} {rest : List Event}
    (h : FramedLog config.logSource contents (e :: rest)) :
    Plain config.orchestrator ∧ Plain config.name := by
  obtain ⟨lines, hlines, hall⟩ := h
  cases hall with
  | @cons line _ lines _ hfields _ =>
    have hline : line = (Sink.textLine config.logSource e).toList := by
      rw [← intercalate_columns, ← hfields, intercalate_fields]
    have hpiece : line ∈ contents.splitOn '\n' := by
      rw [hlines]
      exact List.mem_append_left _ List.mem_cons_self
    have hfeed := feed_not_mem_of_mem_splitOn hpiece
    rw [hline, feed_not_mem_textLine] at hfeed
    have hsource : (config.logSource ++ ".INFO").toList ∈ fields line := by
      rw [hfields]
      exact List.mem_cons_of_mem _ List.mem_cons_self
    have hnone := not_separator_infix_field hsource
    rw [← List.append_nil (config.logSource ++ ".INFO").toList, separator_infix_logSource] at hnone
    exact ⟨⟨hfeed.1, fun h => hnone (.inl h)⟩, hfeed.2, fun h => hnone (.inr (.inl h))⟩

namespace Sink

/-- The log of a fresh file gives for each event that was sent to it a line with the three fields of
that event, whatever the events are, if the names in its source are plain, and not otherwise. -/
theorem text_log_framed {config : Config} {path : String} {events : List Event}
    {o after : Outlets} (hfresh : o.files.Holds path.toList [])
    (hsent : sendAll (.text path config.logSource) events o = (after, .ok ())) :
    ∃ contents, after.files.Holds path.toList contents ∧
      (events ≠ [] → after.files.readText path.toList = .ok (String.ofList contents)) ∧
      (FramedLog config.logSource contents events ↔
        events = [] ∨ Plain config.orchestrator ∧ Plain config.name) := by
  obtain ⟨hholds, hread⟩ := holds_sendAll (fun _ _ => rfl) hfresh hsent
  refine ⟨_, hholds, hread, fun hframed => ?_, ?_⟩
  · cases events with
    | nil => exact .inl rfl
    | cons e rest => exact .inr hframed.plain
  · rintro (rfl | ⟨horchestrator, hname⟩)
    · exact ⟨[], rfl, .nil⟩
    · exact .of_plain horchestrator hname events

/-- Names that are plain, but only just. -/
def nearlySplit : Config := { Config.ofName "cpu |" with orchestrator := "| lab" }

theorem text_log_framed_awkward : ∃ after,
    sendAll (.text "log/unit.log" nearlySplit.logSource) awkward (.ofFiles .scratch) =
        (after, .ok ()) ∧
      (∃ contents, after.files.Holds "log/unit.log".toList contents ∧
        (awkward ≠ [] →
          after.files.readText "log/unit.log".toList = .ok (String.ofList contents)) ∧
        (FramedLog nearlySplit.logSource contents awkward ↔
          awkward = [] ∨ Plain nearlySplit.orchestrator ∧ Plain nearlySplit.name)) ∧
      Plain nearlySplit.orchestrator ∧ Plain nearlySplit.name := by
  have htaken : (sendAll (.text "log/unit.log" nearlySplit.logSource) awkward
      (.ofFiles .scratch)).2 = .ok () := rfl
  obtain ⟨after, hsent⟩ : ∃ after, sendAll (.text "log/unit.log" nearlySplit.logSource) awkward
      (.ofFiles .scratch) = (after, .ok ()) := ⟨_, Prod.ext rfl htaken⟩
  have hplain : Plain nearlySplit.orchestrator ∧ Plain nearlySplit.name := by
    unfold Plain
    decide
  exact ⟨after, hsent, text_log_framed (.inr ⟨rfl, rfl⟩) hsent, hplain⟩

/-- A name with the rest of a line and most of another in it. -/
def forging : Config :=
  { Config.ofName ("cpu0.INFO | Attached memory protocol\n" ++
      "2024-01-02T03:04:05+00:00 | lab.targets.cpu1") with orchestrator := "lab" }

/-- An event of the target with that name. -/
def lonely : Event := ⟨forging.name, .attached .memory, ⟨⟨2024, 1, 2⟩, 11045, 0⟩⟩

/-- One event makes two lines of three fields each, about other targets than its own. -/
theorem line_forged : ∃ contents,
    (sendAll (.text "unit.log" forging.logSource) [lonely] (.ofFiles .scratch)).1.files.readText
        "unit.log".toList = .ok (String.ofList contents) ∧
      (contents.splitOn '\n').map fields =
        [[lonely.time.offsetText.toList, "lab.targets.cpu0.INFO".toList,
            "Attached memory protocol".toList],
          [lonely.time.offsetText.toList, "lab.targets.cpu1.INFO".toList,
            "Attached memory protocol".toList], [[]]] ∧
      ¬FramedLog forging.logSource contents [lonely] := by
  refine ⟨(textLine forging.logSource lonely).toList ++ ['\n'], rfl, by decide +kernel, ?_⟩
  rintro ⟨lines, hlines, hall⟩
  have hcount :
      (((textLine forging.logSource lonely).toList ++ ['\n']).splitOn '\n').length = 3 := by
    decide +kernel
  rw [hlines, List.length_append, hall.length_eq] at hcount
  cases hcount

end Sink
end TargetControl
