import TargetControl.Proofs.Bystanders
import TargetControl.Proofs.Isolation

/-!
Where the text log of a target is.

The log is at the path that a directory and the name of the target with an ending make.  A relative
name goes on from the directory, and if it never leads back out the log is below the directory,
whatever the files are, and nothing is added to any file outside.  But the name is taken as it
stands: one that begins at the root takes the place of the directory, and two dots lead out of it.
-/

namespace TargetControl

open FileTree (Kept Later)

namespace Path

/-! ## Paths that go on from another -/

theorem isAbsolute_append {path : List Char} (hne : path ≠ []) (other : List Char) :
    isAbsolute (path ++ other) = isAbsolute path := by
  obtain ⟨c, rest, rfl⟩ := List.exists_cons_of_ne_nil hne
  by_cases hc : c = '/'
  · rw [hc]
    rfl
  · rw [List.cons_append, isAbsolute_cons_of_ne hc, isAbsolute_cons_of_ne hc]

theorem join_absolute {path other : List Char} (h : isAbsolute other = true) :
    join path other = other := if_pos h

/-- A relative path has a slash before it when it goes on from another that is there. -/
theorem join_relative (path : List Char) {other : List Char} (h : isAbsolute other = false) :
    isAbsolute (join path other) = isAbsolute path ∧
      stops (join path other) = stops path ++ stops other := by
  rw [join, if_neg (by rw [h]; exact Bool.false_ne_true)]
  cases hlast : path.getLast? with
  | none =>
    rw [List.getLast?_eq_none_iff.mp hlast]
    exact ⟨h, rfl⟩
  | some c =>
    have hne : path ≠ [] := by
      rintro rfl
      cases hlast
    by_cases hc : c = '/'
    · obtain ⟨front, rfl⟩ := List.getLast?_eq_some_iff.mp (hc ▸ hlast)
      have hslash : front ++ ['/'] ++ other = front ++ '/' :: other := by simp
      show isAbsolute (if c = '/' then _ else _) = _ ∧ stops (if c = '/' then _ else _) = _
      rw [if_pos hc, isAbsolute_append hne, hslash, stops_append_slash, stops_concat_slash]
      exact ⟨rfl, rfl⟩
    · show isAbsolute (if c = '/' then _ else _) = _ ∧ stops (if c = '/' then _ else _) = _
      rw [if_neg hc, isAbsolute_append hne, stops_append_slash]
      exact ⟨rfl, rfl⟩

/-- Whether segments never lead back out of the directory in which they begin, when so many names
have been entered from there. -/
def stays : Nat → List (List Char) → Bool
  | _, [] => true
  | depth, segment :: rest =>
    if segment = ['.', '.'] then depth ≠ 0 && stays (depth - 1) rest else stays (depth + 1) rest

/-- A path that lies strictly below another: it goes on from there, never leads back out, and ends
with a name. -/
structure Below (dir path : List Char) : Prop where
  root : isAbsolute path = isAbsolute dir
  segments : ∃ front last, stops path = stops dir ++ (front ++ [last]) ∧ stays 0 front = true ∧
    last ≠ ['.', '.']

theorem stays_concat {last : List Char} (h : last ≠ ['.', '.']) (depth : Nat)
    (front : List (List Char)) : stays depth (front ++ [last]) = stays depth front := by
  induction front generalizing depth with
  | nil => exact if_neg h
  | cons segment rest ih => rw [List.cons_append, stays, stays, ih, ih]

/-- An ending goes to the last segment of a path. -/
theorem segments_append {ending : List Char} (h : '/' ∉ ending) (path : List Char) :
    ∃ front last, segments (path ++ ending) = front ++ [last ++ ending] := by
  induction path with
  | nil => exact ⟨[], [], segments_of_slashless h⟩
  | cons c rest ih =>
    obtain ⟨front, last, hrest⟩ := ih
    by_cases hc : c = '/'
    · refine ⟨[] :: front, last, ?_⟩
      rw [hc, List.cons_append, segments_cons_slash, hrest, List.cons_append]
    · rw [List.cons_append]
      cases front with
      | nil => exact ⟨[], c :: last, segments_cons_of_ne hc hrest⟩
      | cons first front => exact ⟨(c :: first) :: front, last, segments_cons_of_ne hc hrest⟩

/-- A segment that counts and has a long ending is the last one that counts. -/
theorem stops_append {ending : List Char} (h : '/' ∉ ending) (hlong : 2 < ending.length)
    (path : List Char) : ∃ front last, stops (path ++ ending) = front ++ [last ++ ending] := by
  obtain ⟨front, last, hsegments⟩ := segments_append h path
  have hcounts : counts (last ++ ending) = true := by
    have hlength : 2 < (last ++ ending).length := by
      rw [List.length_append]
      omega
    rw [counts, Bool.not_eq_true', Bool.or_eq_false_iff, decide_eq_false_iff_not,
      decide_eq_false_iff_not]
    constructor <;> intro heq <;> rw [heq] at hlength <;> simp at hlength
  refine ⟨front.filter counts, last, ?_⟩
  rw [stops, hsegments, List.filter_append, List.filter_cons_of_pos hcounts]
  rfl

end Path

namespace FileTree

open TargetControl.Path (stays stops)

/-! ## What such paths spell -/

theorem spell_cleared (at_ segments : List String) :
    spell at_ (cleared segments) = spell at_ segments := by
  fun_induction spell at_ segments with
  | case1 => rfl
  | case2 at_ segment rest h ih =>
    rw [cleared, List.filter_cons_of_neg (by simpa only [decide_not, Bool.not_eq_true',
      decide_eq_false_iff_not, not_not] using h)]
    exact ih
  | case3 at_ rest h ih =>
    rw [cleared, List.filter_cons_of_pos (by simp), spell, if_neg h, if_pos rfl]
    exact ih
  | case4 at_ segment rest h hback ih =>
    rw [cleared, List.filter_cons_of_pos (by simpa only [decide_eq_true_eq] using h), spell,
      if_neg h, if_neg hback]
    exact ih

/-- The segments that count are enough to tell what a path spells. -/
theorem resolve_eq (t : FileTree) (path : List Char) :
    t.resolve path = spell (t.origin path) ((stops path).map String.ofList) := by
  rw [resolve, ← cleared_segments, spell_cleared]

theorem ofList_eq_dots {segment : List Char} :
    String.ofList segment = ".." ↔ segment = ['.', '.'] := by
  rw [← String.ofList_inj]

theorem counts_of_mem_stops (path : List Char) {segment : List Char} (h : segment ∈ stops path) :
    ¬(String.ofList segment = "" ∨ String.ofList segment = ".") := by
  have hcounts := List.of_mem_filter h
  rw [Path.counts, Bool.not_eq_true', Bool.or_eq_false_iff, decide_eq_false_iff_not,
    decide_eq_false_iff_not] at hcounts
  rw [ofList_eq_blank, ofList_eq_dot, not_or]
  exact hcounts

/-- Segments that do not lead out of a directory spell names below it, the same below any. -/
theorem spell_of_stays (at_ extra : List String) {segments : List (List Char)}
    (hcounts : ∀ s ∈ segments, ¬(String.ofList s = "" ∨ String.ofList s = "."))
    (h : stays extra.length segments = true) :
    spell (at_ ++ extra) (segments.map String.ofList) =
      at_ ++ spell extra (segments.map String.ofList) := by
  induction segments generalizing extra with
  | nil => rfl
  | cons segment rest ih =>
    have hidle := hcounts segment List.mem_cons_self
    have hrest := fun s hs => hcounts s (List.mem_cons_of_mem _ hs)
    rw [List.map_cons, spell, spell, if_neg hidle, if_neg hidle]
    rw [stays] at h
    by_cases hback : segment = ['.', '.']
    · rw [if_pos hback, Bool.and_eq_true, decide_eq_true_iff] at h
      have hne : extra ≠ [] := fun hnil => h.1 (by rw [hnil]; rfl)
      rw [if_pos (ofList_eq_dots.mpr hback), if_pos (ofList_eq_dots.mpr hback),
        List.dropLast_append_of_ne_nil hne]
      refine ih _ hrest ?_
      rw [List.length_dropLast]
      exact h.2
    · rw [if_neg hback] at h
      rw [if_neg (mt ofList_eq_dots.mp hback), if_neg (mt ofList_eq_dots.mp hback),
        List.append_assoc]
      refine ih _ hrest ?_
      rw [List.length_append]
      exact h

/-- A path below another spells names below those of the other, whatever the files are. -/
theorem resolve_below (t : FileTree) {dir path : List Char} (h : Path.Below dir path) :
    ∃ more, more ≠ [] ∧ t.resolve path = t.resolve dir ++ more := by
  obtain ⟨hroot, front, last, hstops, hstays, hlast⟩ := h
  have hcounts : ∀ s ∈ front ++ [last], ¬(String.ofList s = "" ∨ String.ofList s = ".") := by
    intro s hs
    refine counts_of_mem_stops path ?_
    rw [hstops]
    exact List.mem_append_right _ hs
  rw [← Path.stays_concat hlast] at hstays
  have hbelow := spell_of_stays (t.resolve dir) [] hcounts hstays
  rw [List.append_nil] at hbelow
  refine ⟨spell [] ((front ++ [last]).map String.ofList), ?_, ?_⟩
  · have hidle := hcounts last (List.mem_append_right _ List.mem_cons_self)
    rw [List.map_append, spell_append, List.map_singleton, spell, if_neg hidle,
      if_neg (mt ofList_eq_dots.mp hlast)]
    exact List.append_ne_nil_of_right_ne_nil _ (List.cons_ne_nil _ _)
  · rw [resolve_eq t path, hstops, List.map_append, spell_append, origin, hroot, ← hbelow,
      resolve_eq t dir]
    rfl

end FileTree

/-! ## The path of the log -/

namespace Config

/-- What the path of the log has behind the directory. -/
def logFile (c : Config) : List Char := (c.name ++ ".log").toList

theorem logFile_eq (c : Config) : c.logFile = c.name.toList ++ ['.', 'l', 'o', 'g'] :=
  String.toList_append ..

theorem isAbsolute_logFile (c : Config) :
    Path.isAbsolute c.logFile = Path.isAbsolute c.name.toList := by
  rw [logFile_eq]
  by_cases hname : c.name.toList = []
  · rw [hname]
    rfl
  · exact Path.isAbsolute_append hname _

/-- The log has a name: whatever the target is called, it does not end in dots. -/
theorem stops_logFile (c : Config) :
    ∃ front last, Path.stops c.logFile = front ++ [last] ∧ last ≠ ['.', '.'] := by
  have hslash : '/' ∉ ['.', 'l', 'o', 'g'] := by decide
  obtain ⟨front, last, hstops⟩ := Path.stops_append hslash (by decide) c.name.toList
  refine ⟨front, _, c.logFile_eq ▸ hstops, fun heq => ?_⟩
  have hlength := congrArg List.length heq
  rw [List.length_append] at hlength
  simp at hlength

theorem below_iff {c : Config} (h : Path.isAbsolute c.name.toList = false) (dir : List Char) :
    Path.Below dir (Path.join dir c.logFile) ↔ Path.stays 0 (Path.stops c.logFile) = true := by
  obtain ⟨hroot, hstops⟩ := Path.join_relative dir (c.isAbsolute_logFile.trans h)
  constructor
  · rintro ⟨-, front, last, hsplit, hstays, hlast⟩
    rw [List.append_cancel_left (hstops.symm.trans hsplit), Path.stays_concat hlast]
    exact hstays
  · intro hstays
    obtain ⟨front, last, hsplit, hlast⟩ := c.stops_logFile
    rw [hsplit] at hstops
    rw [hsplit, Path.stays_concat hlast] at hstays
    exact ⟨hroot, front, last, hstops, hstays, hlast⟩

end Config

/-! ## Files in a run -/

/-- The sink that an operation adds. -/
def Operation.sink? : Operation → Option Sink
  | .addSink sink => some sink
  | _ => none

namespace Sink

/-- Whether none of some sinks has its file at some names. -/
def Clear (files : FileTree) (names : List String) (sinks : List Sink) : Prop :=
  ∀ sink ∈ sinks, ∀ path, sink.path? = some path → names ≠ files.resolve path.toList

theorem Clear.adds {files : FileTree} {names : List String} {sinks : List Sink}
    (h : Clear files names sinks) {after : FileTree}
    (hresolve : ∀ path, after.resolve path = files.resolve path) :
    sinks.filter (fun sink => sink.adds after names) = [] := by
  refine List.filter_eq_nil_iff.mpr fun sink hsink hadds => ?_
  cases hpath : sink.path? with
  | none =>
    rw [adds_of_none hpath] at hadds
    cases hadds
  | some path =>
    rw [adds_of_path hpath, hresolve] at hadds
    exact h sink hsink path hpath hadds.2.symm

end Sink

namespace Lab

/-- The events that are emitted in the course of a run. -/
def emittedIn (lab : Lab) : List Operation → List Event
  | [] => []
  | operation :: rest => lab.emitted operation ++ (lab.perform operation).1.emittedIn rest

theorem sinks_perform (lab : Lab) (operation : Operation) :
    (lab.perform operation).1.sinks = lab.sinks ++ operation.sink?.toList := by
  cases hop : operation.aside with
  | true =>
    cases operation with
    | addSink => rfl
    | setEntry | removeEntry => exact (List.append_nil _).symm
    | _ => cases hop
  | false =>
    obtain ⟨changes, htold, -⟩ := (Beside.refl lab).emitted hop
    have hnone : operation.sink? = none := by
      cases operation with
      | addSink => cases hop
      | _ => rfl
    rw [htold.sinks, hnone]
    exact (List.append_nil _).symm

/-- An operation calls every sink for each event. -/
theorem outlets_perform_calls (lab : Lab) (operation : Operation) :
    (lab.perform operation).1.outlets =
      (Sink.makeCalls (Sink.calls lab.sinks (lab.emitted operation)) lab.outlets).1 :=
  (lab.outlets_perform operation).trans (Sink.dispatchAll_eq ..)

theorem later_perform (lab : Lab) (operation : Operation) :
    Later (lab.perform operation).1.outlets.files lab.outlets.files := by
  rw [outlets_perform_calls]
  exact Sink.later_makeCalls _ _

theorem later_run (lab : Lab) (operations : List Operation) :
    Later (lab.run operations).outlets.files lab.outlets.files := by
  induction operations generalizing lab with
  | nil => exact .refl _
  | cons operation rest ih => exact (ih _).trans (lab.later_perform operation)

/-- What one operation does to an entry. -/
theorem ends_perform (lab : Lab) (operation : Operation) {after : FileTree}
    (hlater : Later after (lab.perform operation).1.outlets.files) (names : List String) :
    Ends ((lab.emitted operation).flatMap fun e =>
        (lab.sinks.filter fun sink => sink.adds after names).map fun sink => (sink.line e).toList)
      (lab.outlets.files.get? names) ((lab.perform operation).1.outlets.files.get? names) := by
  rw [outlets_perform_calls] at hlater ⊢
  rw [← Sink.lines_of_calls]
  exact Sink.ends_makeCalls _ _ hlater names

/-- What a run does to an entry at which no sink is added: the sinks there are add their lines. -/
theorem ends_run (lab : Lab) (operations : List Operation) {after : FileTree}
    (hlater : Later after (lab.run operations).outlets.files) {names : List String}
    (hothers : (operations.filterMap Operation.sink?).filter (·.adds after names) = []) :
    Ends ((lab.emittedIn operations).flatMap fun e =>
        (lab.sinks.filter fun sink => sink.adds after names).map fun sink => (sink.line e).toList)
      (lab.outlets.files.get? names) ((lab.run operations).outlets.files.get? names) := by
  induction operations generalizing lab with
  | nil => exact .kept (.inl rfl)
  | cons operation rest ih =>
    have hsplit : (operation :: rest).filterMap Operation.sink? =
        operation.sink?.toList ++ rest.filterMap Operation.sink? := by
      rw [List.filterMap_cons]
      cases operation.sink? <;> rfl
    rw [hsplit, List.filter_append, List.append_eq_nil_iff] at hothers
    have hfirst := lab.ends_perform operation
      (hlater.trans (later_run (lab.perform operation).1 rest)) names
    have hrest := ih (lab.perform operation).1 hlater hothers.2
    rw [sinks_perform, List.filter_append, hothers.1, List.append_nil] at hrest
    rw [emittedIn, List.flatMap_append]
    exact hfirst.trans hrest

section

variable {config : Config} {setup : Option Setup} {files : FileTree} {now : Timestamp}
  {start : Lab} {dir : String} (hdir : config.outputDirectory = some dir)
  (hstart : ofConfig config setup files now = .ok start)

include hdir

theorem logPath_eq :
    config.logPath = some (String.ofList (Path.join dir.toList config.logFile)) := by
  rw [Config.logPath, hdir]
  rfl

include hstart

/-- A target that is configured with a directory has its log as the first sink, and the directory
has been made. -/
theorem sinks_ofConfig :
    start.sinks = .text (String.ofList (Path.join dir.toList config.logFile)) config.logSource ::
        (config.eventLog.map Sink.jsonl).toList ∧
      start.outlets.files = (files.makeAll dir.toList).1 := by
  have hnew : (new config.name setup files now).outlets.files = files := rfl
  unfold ofConfig addTextLog at hstart
  simp only [hdir, logPath_eq hdir, hnew] at hstart
  cases hmade : (files.makeAll dir.toList).2 with
  | error fault =>
    rw [hmade] at hstart
    cases hstart
  | ok done =>
    rw [hmade] at hstart
    cases hlog : config.eventLog with
    | none | some log =>
      rw [hlog] at hstart
      cases hstart
      exact ⟨rfl, rfl⟩

end

/-! ## The place of the log -/

/-- The sinks of a target but for its text log. -/
def otherSinks (config : Config) (operations : List Operation) : List Sink :=
  (config.eventLog.map Sink.jsonl).toList ++ operations.filterMap Operation.sink?

/-- What becomes of the files in a run with a target that is configured with a directory. -/
structure LogFiles (config : Config) (dir : String) (files : FileTree) (start : Lab)
    (operations : List Operation) : Prop where
  /-- the lines of all events are added at the path of the log, if it can be opened -/
  written : ∀ path, config.logPath = some path →
    Sink.Clear files (files.resolve path.toList) (otherSinks config operations) →
    (start.run operations).outlets.files.Openable path.toList →
    Ends ((start.emittedIn operations).map fun e => (Sink.textLine config.logSource e).toList)
      (files.get? (files.resolve path.toList))
      ((start.run operations).outlets.files.get? (files.resolve path.toList))
  /-- where the log is not, nor another sink has its file, nothing is made but directories -/
  only : ∀ names, (∀ path, config.logPath = some path → names ≠ files.resolve path.toList) →
    Sink.Clear files names (otherSinks config operations) →
    Kept ((start.run operations).outlets.files.get? names) (files.get? names)
  /-- so with a log below the directory this holds outside -/
  within : (∀ path, config.logPath = some path → Path.Below dir.toList path.toList) →
    ∀ names, (∀ more, more ≠ [] → names ≠ files.resolve dir.toList ++ more) →
      Sink.Clear files names (otherSinks config operations) →
      Kept ((start.run operations).outlets.files.get? names) (files.get? names)

/-- Where the text log of a target is that is configured with a directory, whether or not the
directory can be made. -/
structure LogPlace (config : Config) (dir : String) : Prop where
  /-- a name that begins at the root takes the place of the directory -/
  absolute : Path.isAbsolute config.name.toList = true →
    config.logPath = some (config.name ++ ".log")
  /-- any other goes on from the directory, and is below it unless it leads back out -/
  relative : Path.isAbsolute config.name.toList = false → ∃ path, config.logPath = some path ∧
    Path.isAbsolute path.toList = Path.isAbsolute dir.toList ∧
    Path.stops path.toList = Path.stops dir.toList ++ Path.stops config.logFile ∧
    (Path.Below dir.toList path.toList ↔ Path.stays 0 (Path.stops config.logFile) = true)
  /-- from wherever the target can be built -/
  runs : ∀ setup files now start, ofConfig config setup files now = .ok start →
    ∀ operations, LogFiles config dir files start operations

theorem log_files {config : Config} {dir : String} (hdir : config.outputDirectory = some dir)
    {setup : Option Setup} {files : FileTree} {now : Timestamp} {start : Lab}
    (hstart : ofConfig config setup files now = .ok start) (operations : List Operation) :
    LogFiles config dir files start operations := by
  obtain ⟨hsinks, hmade⟩ := sinks_ofConfig hdir hstart
  have hpath := logPath_eq hdir
  have hgrown : FileTree.Grown start.outlets.files files := hmade ▸ files.grown_makeAll dir.toList
  have hresolve : ∀ path, (start.run operations).outlets.files.resolve path =
      files.resolve path := fun path =>
    ((start.later_run operations).contains.resolve path).trans (hgrown.contains.resolve path)
  -- at names where no other sink adds anything only the text log may add its lines
  have hends : ∀ names, Sink.Clear files names (otherSinks config operations) →
      Ends ((start.emittedIn operations).flatMap fun e =>
          ([Sink.text (String.ofList (Path.join dir.toList config.logFile)) config.logSource].filter
            fun sink => sink.adds (start.run operations).outlets.files names).map
              fun sink => (sink.line e).toList)
        (files.get? names) ((start.run operations).outlets.files.get? names) := by
    intro names hclear
    have hothers := hclear.adds hresolve
    rw [otherSinks, List.filter_append, List.append_eq_nil_iff] at hothers
    have hrun := start.ends_run operations (.refl _) hothers.2
    rw [hsinks, ← List.singleton_append, List.filter_append, hothers.1, List.append_nil] at hrun
    exact (Ends.kept (hgrown.entry names)).trans hrun
  have honly : ∀ names, (∀ path, config.logPath = some path → names ≠ files.resolve path.toList) →
      Sink.Clear files names (otherSinks config operations) →
      Kept ((start.run operations).outlets.files.get? names) (files.get? names) := by
    intro names hname hclear
    have hnone := hends names hclear
    have htext : Sink.Clear files names
        [.text (String.ofList (Path.join dir.toList config.logFile)) config.logSource] := by
      intro sink hsink path hsinkPath
      rw [List.mem_singleton.mp hsink] at hsinkPath
      exact hname path (hpath.trans hsinkPath)
    rw [htext.adds hresolve, List.flatMap_eq_nil_iff.mpr fun _ _ => List.map_nil, Ends,
      if_pos rfl] at hnone
    exact hnone
  refine
    { written := fun path hlogPath hclear hopenable => ?_
      only := honly
      within := fun hbelow names houtside => honly names fun path hlogPath hnames => ?_ }
  · have hone := hends _ hclear
    have hadds : (Sink.text path config.logSource).adds (start.run operations).outlets.files
        (files.resolve path.toList) = true :=
      (Sink.adds_of_path rfl _ _).mpr ⟨hopenable, hresolve _⟩
    rw [Option.some.inj (hpath.symm.trans hlogPath), List.filter_cons_of_pos hadds] at hone
    rw [List.map_eq_flatMap]
    exact hone
  · obtain ⟨more, hne, hbelow⟩ := files.resolve_below (hbelow path hlogPath)
    exact houtside more hne (hnames.trans hbelow)

theorem log_place {config : Config} {dir : String} (hdir : config.outputDirectory = some dir) :
    LogPlace config dir := by
  have hpath := logPath_eq hdir
  refine
    { absolute := fun habsolute => ?_
      relative := fun hrelative => ?_
      runs := fun setup files now start hstart operations => log_files hdir hstart operations }
  · rw [hpath, Path.join_absolute (config.isAbsolute_logFile.trans habsolute), Config.logFile,
      String.ofList_toList]
  · obtain ⟨hroot, hstops⟩ := Path.join_relative dir.toList
      (config.isAbsolute_logFile.trans hrelative)
    refine ⟨_, hpath, ?_⟩
    rw [String.toList_ofList]
    exact ⟨hroot, hstops, Config.below_iff hrelative dir.toList⟩

/-- A name that leads down, back and down again. -/
def winding : Config := { Config.ofName "rack/../cpu0" with outputDirectory := some "out" }

/-- The target stops, and somebody else begins to listen. -/
def overheard : List Operation :=
  [.report .stopped, .addSink (.text "/tmp/all.log" "all"), .report .running, .shutdown]

theorem log_place_winding : ∃ start,
    winding.outputDirectory = some "out" ∧ LogPlace winding "out" ∧
      ofConfig winding none .scratch .epoch = .ok start ∧
      LogFiles winding "out" .scratch start overheard ∧
      Path.Below "out".toList "out/rack/../cpu0.log".toList := by
  have hbelow := (Config.below_iff (c := winding) (by decide) "out".toList).mpr (by decide)
  exact ⟨_, rfl, log_place rfl, rfl, (log_place rfl).runs _ _ _ _ rfl overheard, hbelow⟩

/-- A name that begins at the root. -/
def astray : Config := { Config.ofName "/tmp/x" with outputDirectory := some "out" }

/-- A name that leads out of the directory. -/
def climbing : Config := { Config.ofName "../x" with outputDirectory := some "out" }

/-- The line in the log when the target has stopped at once. -/
def stopLine (config : Config) : List Char :=
  (Sink.textLine config.logSource ⟨config.name, .state .created .stopped, .epoch⟩).toList ++ ['\n']

/-- With a name that begins at the root, or one that leads out of the directory, the log is made
elsewhere. -/
theorem log_elsewhere :
    FileTree.scratch.resolve "out".toList = ["scratch", "out"] ∧
      (Config.ofToml "name = \"/tmp/x\"\noutput_directory = \"out\"\n" = .ok astray ∧
        astray.logPath = some "/tmp/x.log" ∧ ¬Path.Below "out".toList "/tmp/x.log".toList ∧
        ∃ start, ofConfig astray none .scratch .epoch = .ok start ∧
          (start.run [.report .stopped]).outlets.files.get? ["tmp", "x.log"] =
            some (.file (.text (stopLine astray)))) ∧
      Config.ofToml "name = \"../x\"\noutput_directory = \"out\"\n" = .ok climbing ∧
        climbing.logPath = some "out/../x.log" ∧
        ¬Path.Below "out".toList "out/../x.log".toList ∧
        ∃ start, ofConfig climbing none .scratch .epoch = .ok start ∧
          (start.run [.report .stopped]).outlets.files.get? ["scratch", "x.log"] =
            some (.file (.text (stopLine climbing))) := by
  have hastray : Toml.document "name = \"/tmp/x\"\noutput_directory = \"out\"\n" =
      some (.object [("name", .string "/tmp/x"), ("output_directory", .string "out")]) := by
    decide +kernel
  have hclimbing : Toml.document "name = \"../x\"\noutput_directory = \"out\"\n" =
      some (.object [("name", .string "../x"), ("output_directory", .string "out")]) := by
    decide +kernel
  refine ⟨by decide, ⟨?_, rfl, ?_, _, rfl, by decide +kernel⟩, ?_, rfl, ?_, _, rfl,
    by decide +kernel⟩
  · rw [Config.ofToml, hastray]
    rfl
  · rintro ⟨hroot, -⟩
    cases hroot
  · rw [Config.ofToml, hclimbing]
    rfl
  · intro hbelow
    have hstays := (Config.below_iff (c := climbing) (by decide) "out".toList).mp hbelow
    exact absurd hstays (by decide)

end Lab
end TargetControl
