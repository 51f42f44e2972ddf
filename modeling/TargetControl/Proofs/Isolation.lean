import Mathlib.Data.List.Forall2
import TargetControl.Proofs.Openings

/-!
Sinks do not get in each other's way.

Events that are dispatched one after another make a sequence of calls, one of each sink for each
event, and every call is made whatever became of those before it: `dispatchAll_eq`.  A sink with a
file either adds its line at every event or at none, and a file ends with what was in it and the
lines of the sinks that could add to it, in the order of the calls.  Sinks that always fail leave no
trace: `sinks_isolated`.
-/

namespace TargetControl

/-! ## What becomes of an entry -/

namespace Content

theorem toList_loop (data : ByteArray) (i : Nat) (found : List UInt8) :
    ByteArray.toList.loop data i found = found.reverse ++ data.data.toList.drop i := by
  fun_induction ByteArray.toList.loop data i found with
  | case1 i found hlt ih =>
    have hnext : data.data.toList.drop i = data.get! i :: data.data.toList.drop (i + 1) := by
      rw [List.drop_eq_getElem_cons (by simpa using hlt)]
      congr 1
      simp [ByteArray.get!, getElem!_pos, hlt]
    rw [ih, hnext, List.reverse_cons, List.append_assoc]
    rfl
  | case2 i found hle =>
    have hend : data.data.toList.length ≤ i := by simpa using hle
    rw [List.drop_eq_nil_of_le hend, List.append_nil]

theorem toList_eq_data (data : ByteArray) : data.toList = data.data.toList :=
  toList_loop data 0 []

theorem encode_append (first second : List Char) :
    encode (first ++ second) = encode first ++ encode second := by
  rw [encode, encode, encode, toList_eq_data, toList_eq_data, toList_eq_data, String.ofList_append]
  exact (congrArg Array.toList ByteArray.data_append).trans Array.toList_append

theorem append_append (content : Content) (first second : List Char) :
    (content.append first).append second = content.append (first ++ second) := by
  cases content with
  | text chars => rw [append, append, append, List.append_assoc]
  | bytes data => rw [append, append, append, encode_append, List.append_assoc]

end Content

open FileTree

theorem added_added (first second : List Char) (found : Option FileNode) :
    added second (some (added first found)) = added (first ++ second) found := by
  rcases found with _ | node
  · rfl
  · cases node with
    | file content => exact congrArg FileNode.file (content.append_append first second)
    | directory | sink | full => rfl

theorem framed_append (first second : List (List Char)) :
    framed (first ++ second) = framed first ++ framed second := List.flatMap_append

/-- What becomes of an entry to which lines are added.  Without any it is kept; with some, it was no
directory and they are behind what was in it. -/
def Ends (lines : List (List Char)) (before after : Option FileNode) : Prop :=
  if lines = [] then Kept after before
  else before ≠ some .directory ∧ after = some (added (framed lines) before)

namespace Ends

variable {first second : List (List Char)} {found found' found'' : Option FileNode}

theorem kept (h : Kept found' found) : Ends [] found found' := by
  rw [Ends, if_pos rfl]
  exact h

theorem trans (h : Ends first found found') (h' : Ends second found' found'') :
    Ends (first ++ second) found found'' := by
  unfold Ends at h h' ⊢
  by_cases hfirst : first = []
  · subst hfirst
    rw [if_pos rfl] at h
    rw [List.nil_append]
    split at h'
    · next hsecond =>
      rw [if_pos hsecond]
      exact h'.trans h
    · next hsecond =>
      rw [if_neg hsecond, ← h.eq_of_ne h'.1]
      exact h'
  · rw [if_neg hfirst] at h
    obtain ⟨hdirectory, rfl⟩ := h
    rw [if_neg fun hnil => hfirst (List.append_eq_nil_iff.mp hnil).1]
    refine ⟨hdirectory, ?_⟩
    split at h'
    · next hsecond =>
      subst hsecond
      rw [List.append_nil]
      exact h'.resolve_right fun hmade => nomatch hmade.1
    · rw [h'.2, added_added, framed_append]

end Ends

/-- Adding a line tells whether a path can be opened. -/
instance (t : FileTree) (path : List Char) : Decidable (t.Openable path) :=
  decidable_of_iff (((Outlets.ofFiles t).addLine (String.ofList path) "").2 = .ok ()) <| by
    rw [Outlets.addLine_ok_iff, String.toList_ofList]
    rfl

/-- Directories, devices without space and paths that end with a slash cannot be opened. -/
example : ["log/events", "/dev/null", "/dev/full", "/dev", "log/"].map
    (fun path => decide (FileTree.scratch.Openable path.toList)) =
      [true, true, false, false, false] := by decide

namespace Sink

/-! ## Files of sinks -/

/-- The path of the file to which a sink adds lines. -/
def path? : Sink → Option String
  | .text path _ | .jsonl path => some path
  | .recorder _ | .broken _ | .fitful .. => none

/-- The line for an event. -/
def line : Sink → Event → String
  | .text _ source, e => textLine source e
  | _, e => e.toJson.text

def isBroken : Sink → Bool
  | .broken _ => true
  | _ => false

/-- Whether a sink counts under a number what comes to it. -/
def countsUnder (n : Nat) : Sink → Bool
  | .fitful id _ _ => id = n
  | _ => false

/-- Whether a sink adds its lines to the entry with some names: it can open its file, and that is
the entry. -/
def adds (t : FileTree) (names : List String) (sink : Sink) : Bool :=
  match sink.path? with
  | some path => t.Openable path.toList ∧ t.resolve path.toList = names
  | none => false

section

variable {sink : Sink}

theorem send_of_path {path : String} (h : sink.path? = some path) (e : Event) (o : Outlets) :
    sink.send e o = o.addLine path (sink.line e) := by
  cases sink with
  | text | jsonl =>
    cases h
    rfl
  | recorder | broken | fitful => cases h

theorem files_send_of_none (h : sink.path? = none) (e : Event) (o : Outlets) :
    (sink.send e o).1.files = o.files := by
  cases sink with
  | text | jsonl => cases h
  | recorder | broken | fitful => rfl

theorem adds_of_path {path : String} (h : sink.path? = some path) (t : FileTree)
    (names : List String) : sink.adds t names = true ↔
      t.Openable path.toList ∧ t.resolve path.toList = names := by
  rw [adds, h]
  exact decide_eq_true_iff

theorem adds_of_none (h : sink.path? = none) (t : FileTree) (names : List String) :
    sink.adds t names = false := by
  rw [adds, h]

theorem later_send (sink : Sink) (e : Event) (o : Outlets) :
    Later (sink.send e o).1.files o.files := by
  cases hpath : sink.path? with
  | none =>
    rw [files_send_of_none hpath]
    exact .refl _
  | some path =>
    rw [send_of_path hpath]
    by_cases hopen : o.files.Openable path.toList
    · exact (Outlets.appended_of_openable hopen _).1.later
    · exact (Outlets.grown_of_not_openable hopen _).later

/-- A sink can add to its file when an event comes if it can later, and only then. -/
theorem openable_iff_later {path : String} (h : sink.path? = some path) {e : Event} {o : Outlets}
    {t : FileTree} (hlater : Later t (sink.send e o).1.files) :
    o.files.Openable path.toList ↔ t.Openable path.toList := by
  constructor
  · intro hopen
    rw [send_of_path h] at hlater
    exact (Outlets.appended_of_openable hopen _).2 t hlater
  · exact Openable.earlier (hlater.trans (later_send sink e o))

/-- What one event does to an entry through one sink. -/
theorem ends_send (sink : Sink) (e : Event) (o : Outlets) {t : FileTree}
    (hlater : Later t (sink.send e o).1.files) (names : List String) :
    Ends (if sink.adds t names then [(sink.line e).toList] else []) (o.files.get? names)
      ((sink.send e o).1.files.get? names) := by
  cases hpath : sink.path? with
  | none =>
    rw [adds_of_none hpath, if_neg Bool.false_ne_true, files_send_of_none hpath]
    exact .kept (Or.inl rfl)
  | some path =>
    have hopen := openable_iff_later hpath hlater
    have hresolve := (hlater.trans (later_send sink e o)).contains.resolve path.toList
    rw [send_of_path hpath]
    by_cases hopenable : t.Openable path.toList
    · have happended := (Outlets.appended_of_openable (hopen.mpr hopenable) (sink.line e)).1
      by_cases hnames : t.resolve path.toList = names
      · have hframed : framed [(sink.line e).toList] = (sink.line e).toList ++ ['\n'] :=
          List.append_nil _
        rw [if_pos ((adds_of_path hpath t names).mpr ⟨hopenable, hnames⟩), ← hnames, hresolve,
          Ends, if_neg (List.cons_ne_nil _ _), hframed]
        exact ⟨happended.noDirectory, happended.file⟩
      · rw [if_neg fun hadds => hnames ((adds_of_path hpath t names).mp hadds).2]
        exact .kept (happended.entry names fun heq => hnames (hresolve.trans heq.symm))
    · have hgrown := Outlets.grown_of_not_openable (mt hopen.mp hopenable) (sink.line e)
      rw [if_neg fun hadds => hopenable ((adds_of_path hpath t names).mp hadds).1]
      exact .kept (hgrown.entry names)

end

/-! ## Calls -/

/-- Sends events to the sinks in turn. -/
def dispatchAll (sinks : List Sink) (events : List Event) (o : Outlets) : Outlets :=
  events.foldl (fun o e => dispatch sinks e o) o

/-- A call of each sink for each event. -/
def calls (sinks : List Sink) (events : List Event) : List (Sink × Event) :=
  events.flatMap fun e => sinks.map fun sink => (sink, e)

/-- Makes calls, one after another: what they leave, and what each has returned. -/
def makeCalls : List (Sink × Event) → Outlets → Outlets × List (Except Failure Unit)
  | [], o => (o, [])
  | (sink, e) :: rest, o =>
    let (after, outcomes) := makeCalls rest (sink.send e o).1
    (after, (sink.send e o).2 :: outcomes)

theorem makeCalls_append (first second : List (Sink × Event)) (o : Outlets) :
    (makeCalls (first ++ second) o).1 = (makeCalls second (makeCalls first o).1).1 := by
  induction first generalizing o with
  | nil => rfl
  | cons call rest ih => exact ih _

theorem makeCalls_map (sinks : List Sink) (e : Event) (o : Outlets) :
    (makeCalls (sinks.map fun sink => (sink, e)) o).1 = dispatch sinks e o := by
  induction sinks generalizing o with
  | nil => rfl
  | cons sink rest ih => exact ih _

/-- Dispatching events makes every call. -/
theorem dispatchAll_eq (sinks : List Sink) (events : List Event) (o : Outlets) :
    dispatchAll sinks events o = (makeCalls (calls sinks events) o).1 := by
  induction events generalizing o with
  | nil => rfl
  | cons e rest ih =>
    rw [calls, List.flatMap_cons, makeCalls_append, makeCalls_map]
    exact ih _

theorem later_makeCalls (made : List (Sink × Event)) (o : Outlets) :
    Later (makeCalls made o).1.files o.files := by
  induction made generalizing o with
  | nil => exact .refl _
  | cons call rest ih => exact (ih _).trans (later_send call.1 call.2 o)

section

variable {t : FileTree}

/-- A sink can add to its file at each call or at none. -/
theorem outcomes_makeCalls (made : List (Sink × Event)) (o : Outlets)
    (hlater : Later t (makeCalls made o).1.files) :
    List.Forall₂ (fun call outcome => ∀ path, call.1.path? = some path →
      (outcome = .ok () ↔ t.Openable path.toList)) made (makeCalls made o).2 := by
  induction made generalizing o with
  | nil => exact .nil
  | cons call rest ih =>
    obtain ⟨sink, e⟩ := call
    refine .cons (fun path hpath => ?_) (ih _ hlater)
    have hfirst := hlater.trans (later_makeCalls rest (sink.send e o).1)
    rw [← openable_iff_later hpath hfirst, send_of_path hpath]
    exact o.addLine_ok_iff path (sink.line e)

/-- The entries end with the lines of the calls that added to them. -/
theorem ends_makeCalls (made : List (Sink × Event)) (o : Outlets)
    (hlater : Later t (makeCalls made o).1.files) (names : List String) :
    Ends ((made.filter fun call => call.1.adds t names).map fun call =>
        (call.1.line call.2).toList)
      (o.files.get? names) ((makeCalls made o).1.files.get? names) := by
  induction made generalizing o with
  | nil => exact .kept (Or.inl rfl)
  | cons call rest ih =>
    obtain ⟨sink, e⟩ := call
    have hfirst := hlater.trans (later_makeCalls rest (sink.send e o).1)
    have hends := (ends_send sink e o hfirst names).trans (ih _ hlater)
    rw [List.filter_cons]
    split at hends
    · next hadds =>
      rw [if_pos hadds]
      exact hends
    · next hadds =>
      rw [if_neg hadds]
      exact hends

end

/-! ## Sinks without files -/

theorem records_dispatchAll (sinks : List Sink) (events : List Event) (o : Outlets) (n : Nat) :
    (dispatchAll sinks events o).records n =
      o.records n ++ events.flatMap fun e => List.replicate (sinks.count (.recorder n)) e := by
  induction events generalizing o with
  | nil => exact (List.append_nil _).symm
  | cons e rest ih =>
    rw [List.flatMap_cons, ← List.append_assoc, ← records_dispatch]
    exact ih _

theorem counts_send (sink : Sink) (e : Event) (o : Outlets) (n : Nat) :
    (sink.send e o).1.counts n = o.counts n + if sink.countsUnder n then 1 else 0 := by
  cases sink with
  | text path source => exact congrFun (o.counts_addLine path _) n
  | jsonl path => exact congrFun (o.counts_addLine path _) n
  | recorder id => rfl
  | broken failure => rfl
  | fitful id failing failure =>
    simp only [send, Outlets.count, Family.put_apply, countsUnder, decide_eq_true_eq]
    by_cases h : n = id
    · simp [h]
    · simp [h, Ne.symm h]

theorem counts_dispatch (sinks : List Sink) (e : Event) (o : Outlets) (n : Nat) :
    (dispatch sinks e o).counts n = o.counts n + sinks.countP (countsUnder n) := by
  induction sinks generalizing o with
  | nil => rfl
  | cons sink rest ih =>
    rw [dispatch_cons, ih, counts_send, List.countP_cons]
    omega

theorem counts_dispatchAll (sinks : List Sink) (events : List Event) (o : Outlets) (n : Nat) :
    (dispatchAll sinks events o).counts n =
      o.counts n + events.length * sinks.countP (countsUnder n) := by
  induction events generalizing o with
  | nil => simp [dispatchAll]
  | cons e rest ih =>
    have hrest : (dispatchAll sinks (e :: rest) o).counts n = _ := ih (dispatch sinks e o)
    rw [hrest, counts_dispatch, List.length_cons, Nat.succ_mul]
    omega

/-- Sinks that always fail leave no trace of a call. -/
theorem dispatch_unbroken (sinks : List Sink) (e : Event) (o : Outlets) :
    dispatch (sinks.filter fun sink => !sink.isBroken) e o = dispatch sinks e o := by
  induction sinks generalizing o with
  | nil => rfl
  | cons sink rest ih =>
    cases sink with
    | broken failure => exact ih o
    | text | jsonl | recorder | fitful => exact ih _

theorem dispatchAll_unbroken (sinks : List Sink) (events : List Event) (o : Outlets) :
    dispatchAll (sinks.filter fun sink => !sink.isBroken) events o =
      dispatchAll sinks events o := by
  induction events generalizing o with
  | nil => rfl
  | cons e rest ih =>
    exact (congrArg (dispatchAll _ rest) (dispatch_unbroken sinks e o)).trans (ih _)

/-! ## Sinks apart from each other -/

/-- What events leave that are sent to sinks in turn. -/
structure Isolated (sinks : List Sink) (events : List Event) (o after : Outlets) : Prop where
  /-- for each event every sink is called once, in turn, whatever the calls before have returned -/
  made : (makeCalls (calls sinks events) o).1 = after
  /-- a sink with a file adds its line at each of its calls if the file can be opened, and fails at
  each if not -/
  outcomes : List.Forall₂ (fun call outcome => ∀ path, call.1.path? = some path →
      (outcome = .ok () ↔ after.files.Openable path.toList))
    (calls sinks events) (makeCalls (calls sinks events) o).2
  records : ∀ n, after.records n =
    o.records n ++ events.flatMap fun e => List.replicate (sinks.count (.recorder n)) e
  counts : ∀ n, after.counts n = o.counts n + events.length * sinks.countP (countsUnder n)
  /-- an entry ends with the lines of the sinks that can open it, in turn for each event, and is kept
  if there are none -/
  entries : ∀ names,
    Ends (events.flatMap fun e =>
        (sinks.filter fun sink => sink.adds after.files names).map fun sink => (sink.line e).toList)
      (o.files.get? names) (after.files.get? names)
  /-- with more sinks that always fail, or with fewer, everything is the same -/
  unbroken : ∀ others : List Sink,
    (others.filter fun sink => !sink.isBroken) = (sinks.filter fun sink => !sink.isBroken) →
    dispatchAll others events o = after

theorem lines_of_calls (sinks : List Sink) (events : List Event) (keep : Sink → Bool) :
    ((calls sinks events).filter fun call => keep call.1).map (fun call =>
        (call.1.line call.2).toList) =
      events.flatMap fun e => (sinks.filter keep).map fun sink => (sink.line e).toList := by
  rw [calls, List.filter_flatMap, List.map_flatMap]
  congr 1
  funext e
  rw [List.filter_map, List.map_map]
  rfl

theorem sinks_isolated (sinks : List Sink) (events : List Event) (o : Outlets) :
    Isolated sinks events o (dispatchAll sinks events o) := by
  have hmade := dispatchAll_eq sinks events o
  have hlater : Later (dispatchAll sinks events o).files
      (makeCalls (calls sinks events) o).1.files := by
    rw [hmade]
    exact .refl _
  refine ⟨hmade.symm, outcomes_makeCalls _ o hlater, records_dispatchAll sinks events o,
    counts_dispatchAll sinks events o, fun names => ?_, fun others hothers => ?_⟩
  · rw [← lines_of_calls sinks events, hmade]
    exact hmade ▸ ends_makeCalls _ o hlater names
  · rw [← dispatchAll_unbroken others, hothers, dispatchAll_unbroken]

/-- Two sinks with one file, which has a line in it, between one that fails and one that has a
directory for its file. -/
def sharing : List Sink :=
  [.broken (.exited "cpu0"), .text "log" "lab", .text "/dev" "lab", .jsonl "./log"]

def arrivals : List Event :=
  [⟨"cpu0", .attached .memory, .epoch⟩, ⟨"cpu0", .state .created .stopped, .epoch⟩]

/-- The file has its line and then two for each event. -/
theorem sinks_isolated_sharing :
    let o := Outlets.ofFiles (FileTree.scratch.place "log".toList (some (.text "begun\n".toList)))
    Isolated sharing arrivals o (dispatchAll sharing arrivals o) ∧
      (dispatchAll sharing arrivals o).files.get? ["scratch", "log"] =
        some (.file (.text ("begun\n".toList ++ arrivals.flatMap fun e =>
          (textLine "lab" e).toList ++ '\n' :: e.toJson.text.toList ++ ['\n']))) :=
  ⟨sinks_isolated sharing arrivals _, by decide +kernel⟩

end Sink
end TargetControl
