import TargetControl.Proofs.FileGrowth
import TargetControl.Sink

/-!
Files to which lines are added.

A sink with a file of its own adds a line to it for each event.  If all goes well the file ends with
these lines, each with a line feed behind it, and where no line has a line feed in it they are what
lies between the line feeds.
-/

namespace TargetControl

namespace FileTree

/-- Whether a path spells a file with the given text.  A file that is not there has none. -/
def Holds (t : FileTree) (path chars : List Char) : Prop :=
  t.get? (t.resolve path) = some (.file (.text chars)) ∨
    chars = [] ∧ t.get? (t.resolve path) = none

theorem Appended.holds {t t' : FileTree} {path before chars : List Char}
    (h : Appended t' t path chars) (hbefore : t.Holds path before) :
    t'.get? (t'.resolve path) = some (.file (.text (before ++ chars))) := by
  rw [h.contains.resolve, h.file]
  rcases hbefore with hfile | ⟨rfl, hnone⟩
  · rw [hfile]
    rfl
  · rw [hnone]
    rfl

end FileTree

/-! ## Lines -/

/-- Lines with a line feed behind each. -/
def framed (lines : List (List Char)) : List Char := lines.flatMap fun line => line ++ ['\n']

theorem splitOn_framed {lines : List (List Char)} (h : ∀ line ∈ lines, '\n' ∉ line) :
    (framed lines).splitOn '\n' = lines ++ [[]] := by
  induction lines with
  | nil => rfl
  | cons line rest ih =>
    have hrest := ih fun line hline => h line (List.mem_cons_of_mem _ hline)
    have hframed : framed (line :: rest) = line ++ '\n' :: framed rest := by
      simp [framed]
    rw [hframed, List.splitOn_append_cons_self_of_not_mem (h line List.mem_cons_self), hrest]
    rfl

/-! ## Sinks -/

namespace Outlets

theorem addLine_ok {o after : Outlets} {path line : String}
    (h : o.addLine path line = (after, .ok ())) :
    after.files.Appended o.files path.toList (line.toList ++ ['\n']) ∧
      after.files.Reaches path.toList := by
  unfold addLine at h
  extract_lets opened at h
  have hopened : ∀ files : FileTree, files.Grown o.files → opened files = (after, .ok ()) →
      after.files.Appended o.files path.toList (line.toList ++ ['\n']) ∧
        after.files.Reaches path.toList := by
    intro files hgrown h
    simp only [opened] at h
    split at h
    · cases h
    · next files₁ names hopen =>
      split at h
      · cases h
      · next files₂ hwrite =>
        cases h
        obtain ⟨happended, hreaches⟩ := FileTree.appended_write hopen hwrite
        exact ⟨happended.of_grown hgrown, hreaches⟩
  split at h
  · exact hopened _ (.refl _) h
  · next parent _ =>
    have hgrown := o.files.grown_makeAll parent
    split at h
    · cases h
    · next files hmade =>
      rw [hmade] at hgrown
      exact hopened _ hgrown h

end Outlets

namespace Sink

/-- Sends events in turn, until one cannot be taken. -/
def sendAll (sink : Sink) : List Event → Outlets → Outlets × Except Failure Unit
  | [], o => (o, .ok ())
  | e :: rest, o =>
    match sink.send e o with
    | (o, .error failure) => (o, .error failure)
    | (o, .ok ()) => sendAll sink rest o

/-- A sink that adds a line for every event leaves a file that ends with these lines. -/
theorem holds_sendAll {sink : Sink} {path : String} {line : Event → String}
    (hsink : ∀ e o, sink.send e o = o.addLine path (line e)) {events : List Event}
    {o after : Outlets} {before : List Char} (hbefore : o.files.Holds path.toList before)
    (hsent : sink.sendAll events o = (after, .ok ())) :
    after.files.Holds path.toList (before ++ framed (events.map fun e => (line e).toList)) ∧
      (events ≠ [] → after.files.readText path.toList =
        .ok (String.ofList (before ++ framed (events.map fun e => (line e).toList)))) := by
  induction events generalizing o before with
  | nil =>
    cases hsent
    rw [List.map_nil, framed, List.flatMap_nil, List.append_nil]
    exact ⟨hbefore, fun h => absurd rfl h⟩
  | cons e rest ih =>
    rw [sendAll] at hsent
    split at hsent
    · cases hsent
    · next o' hsend =>
      rw [hsink] at hsend
      obtain ⟨happended, hreaches⟩ := Outlets.addLine_ok hsend
      have hfile := happended.holds hbefore
      obtain ⟨hholds, hread⟩ := ih (.inl hfile) hsent
      have hframed : before ++ framed ((e :: rest).map fun e => (line e).toList) =
          before ++ ((line e).toList ++ ['\n']) ++ framed (rest.map fun e => (line e).toList) := by
        simp [framed]
      rw [hframed]
      refine ⟨hholds, fun _ => ?_⟩
      by_cases hrest : rest = []
      · subst hrest
        cases hsent
        rw [List.map_nil, framed, List.flatMap_nil, List.append_nil]
        exact FileTree.readText_of_reaches hreaches hfile
      · exact hread hrest

end Sink

end TargetControl
