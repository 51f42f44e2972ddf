import TargetControl.Proofs.FileGrowth
import TargetControl.Proofs.Parents

/-!
The way along a path, and when its directories can be made.

Along a path names are looked up one after another.  If each of them is the name of a directory or
of nothing, the directories that are missing can be made, and nothing else is made then:
`makeDirectories_of_free`.  The way to the parent of a path is the one to its last segment, so with
the parent made the path leads to its end.
-/

namespace TargetControl
namespace FileTree

/-! ## Names on the way -/

/-- The names that are looked up along some segments, each with the directory it is looked up in. -/
def lookups : List String → List String → List (List String × String)
  | _, [] => []
  | at_, segment :: rest =>
    if segment = "" ∨ segment = "." then lookups at_ rest
    else if segment = ".." then lookups at_.dropLast rest
    else (at_, segment) :: lookups (at_ ++ [segment]) rest

theorem lookups_append (at_ front back : List String) :
    lookups at_ (front ++ back) = lookups at_ front ++ lookups (spell at_ front) back := by
  fun_induction spell at_ front with
  | case1 at_ => rfl
  | case2 at_ segment rest h ih => rw [List.cons_append, lookups, lookups, if_pos h, if_pos h, ih]
  | case3 at_ rest h ih =>
    rw [List.cons_append, lookups, lookups, if_neg h, if_neg h, if_pos rfl, if_pos rfl, ih]
  | case4 at_ segment rest h hback ih =>
    rw [List.cons_append, lookups, lookups, if_neg h, if_neg h, if_neg hback, if_neg hback, ih,
      List.cons_append]

/-- The segments that count. -/
def cleared (segments : List String) : List String :=
  segments.filter fun s => ¬ (s = "" ∨ s = ".")

theorem lookups_cleared (at_ segments : List String) :
    lookups at_ (cleared segments) = lookups at_ segments := by
  fun_induction lookups at_ segments with
  | case1 => rfl
  | case2 at_ segment rest h ih =>
    rw [cleared, List.filter_cons_of_neg (by simpa only [decide_not, Bool.not_eq_true',
      decide_eq_false_iff_not, not_not] using h)]
    exact ih
  | case3 at_ rest h ih =>
    rw [cleared, List.filter_cons_of_pos (by simp), lookups, if_neg h, if_pos rfl]
    exact ih
  | case4 at_ segment rest h hback ih =>
    rw [cleared, List.filter_cons_of_pos (by simpa only [decide_eq_true_eq] using h), lookups,
      if_neg h, if_neg hback]
    exact congrArg _ ih

theorem ofList_eq_blank {segment : List Char} : String.ofList segment = "" ↔ segment = [] := by
  rw [← String.ofList_nil, String.ofList_inj]

theorem ofList_eq_dot {segment : List Char} : String.ofList segment = "." ↔ segment = ['.'] := by
  rw [← String.ofList_inj]

theorem cleared_segments (path : List Char) :
    cleared ((Path.segments path).map String.ofList) = (Path.stops path).map String.ofList := by
  rw [cleared, List.filter_map, Path.stops]
  congr 1
  refine List.filter_congr fun segment _ => ?_
  simp [Path.counts, ofList_eq_dot]

/-- The names that are looked up along a path. -/
def route (t : FileTree) (path : List Char) : List (List String × String) :=
  lookups (t.origin path) ((Path.segments path).map String.ofList)

theorem route_eq (t : FileTree) (path : List Char) :
    t.route path = lookups (t.origin path) ((Path.stops path).map String.ofList) := by
  rw [route, ← lookups_cleared, cleared_segments]

theorem route_of_segments {t : FileTree} {path : List Char} {front : List String} {last : String}
    (hsegments : (Path.segments path).map String.ofList = front ++ [last]) :
    t.route path =
      lookups (t.origin path) front ++ lookups (spell (t.origin path) front) [last] := by
  rw [route, hsegments, lookups_append]

/-- A walk leads somewhere if all the names on the way are those of directories. -/
theorem walk_ok_iff {t : FileTree} {at_ segments directory : List String} :
    t.walk at_ segments = .ok directory ↔ directory = spell at_ segments ∧
      ∀ p ∈ lookups at_ segments, t.entry? p.1 p.2 = .ok (some .directory) := by
  fun_induction spell at_ segments with
  | case1 at_ =>
    rw [walk, lookups]
    constructor
    · intro h
      exact ⟨(Except.ok.inj h).symm, List.forall_mem_nil _⟩
    · rintro ⟨rfl, -⟩
      rfl
  | case2 at_ segment rest h ih => rw [walk, lookups, if_pos h, if_pos h, ih]
  | case3 at_ rest h ih =>
    rw [walk, lookups, if_neg h, if_neg h, if_pos rfl, if_pos rfl, ih]
  | case4 at_ segment rest h hback ih =>
    rw [walk, lookups, if_neg h, if_neg h, if_neg hback, if_neg hback, List.forall_mem_cons]
    cases hentry : t.entry? at_ segment with
    | error fault => simp
    | ok found =>
      cases found with
      | none => simp
      | some node => cases node <;> simp [ih]

/-- A name under which there is a directory, or one can be made. -/
def Free (t : FileTree) (p : List String × String) : Prop :=
  t.entry? p.1 p.2 = .ok none ∨ t.entry? p.1 p.2 = .ok (some .directory)

theorem Free.short {t : FileTree} {p : List String × String} (h : t.Free p) :
    p.2.utf8ByteSize ≤ nameLimit := by
  rcases h with h | h <;> exact (entry?_ok_iff.mp h).1

/-- If directories can be made all along, a walk ends only where one is missing. -/
theorem walk_of_free {t : FileTree} {at_ segments : List String}
    (h : ∀ p ∈ lookups at_ segments, t.Free p) :
    t.walk at_ segments = .ok (spell at_ segments) ∨
      t.walk at_ segments = .error .noSuchEntry := by
  fun_induction spell at_ segments with
  | case1 at_ => exact Or.inl rfl
  | case2 at_ segment rest hidle ih =>
    rw [lookups, if_pos hidle] at h
    rw [walk, if_pos hidle]
    exact ih h
  | case3 at_ rest hidle ih =>
    rw [lookups, if_neg hidle, if_pos rfl] at h
    rw [walk, if_neg hidle, if_pos rfl]
    exact ih h
  | case4 at_ segment rest hidle hback ih =>
    rw [lookups, if_neg hidle, if_neg hback, List.forall_mem_cons] at h
    rw [walk, if_neg hidle, if_neg hback]
    rcases h.1 with hnone | hdirectory
    · rw [hnone]
      exact Or.inr rfl
    · rw [hdirectory]
      exact ih h.2

/-! ## Parts of a path -/

theorem splitPath_of_segments {path : List Char} {front : List String} {last : String}
    (hsegments : (Path.segments path).map String.ofList = front ++ [last]) (hlast : last ≠ "") :
    splitPath path = (front, some last, false) := by
  have hdrop : (front ++ [last]).reverse.dropWhile (· = "") = last :: front.reverse := by
    rw [List.reverse_append, List.reverse_singleton, List.singleton_append,
      List.dropWhile_cons_of_neg (by simpa using hlast)]
  rw [splitPath, hsegments]
  simp only [hdrop, List.reverse_reverse]
  simp [hlast]

theorem segments_of_splitPath {path : List Char} {front : List String} {last : String}
    (h : splitPath path = (front, some last, false)) :
    (Path.segments path).map String.ofList = front ++ [last] ∧ last ≠ "" := by
  rcases List.eq_nil_or_concat ((Path.segments path).map String.ofList) with
    hnil | ⟨first, final, hsegments⟩
  · rw [splitPath, hnil] at h
    cases h
  · rw [List.concat_eq_append] at hsegments
    by_cases hfinal : final = ""
    · -- the path ends with a slash
      rw [splitPath, hsegments] at h
      split at h
      · cases h
      · simp [hfinal] at h
    · rw [splitPath_of_segments hsegments hfinal] at h
      cases h
      exact ⟨hsegments, hfinal⟩

/-- A way without segments that count leads nowhere else. -/
theorem walk_idle (t : FileTree) {segments : List String}
    (h : ∀ s ∈ segments, s = "" ∨ s = ".") (at_ : List String) :
    t.walk at_ segments = .ok at_ := by
  induction segments with
  | nil => rfl
  | cons segment rest ih =>
    rw [walk, if_pos (h segment List.mem_cons_self),
      ih fun s hs => h s (List.mem_cons_of_mem _ hs)]

theorem lead_idle (t : FileTree) {path : List Char} (h : Path.stops path = []) :
    t.lead path = .ok (.known (t.origin path)) := by
  rw [lead]
  rcases hsplit : splitPath path with ⟨front, _ | last, slash⟩
  · rfl
  · obtain ⟨blank, hsegments, -, hlast⟩ := splitPath_segments hsplit
    have hcleared := cleared_segments path
    rw [h, hsegments, List.map_nil, cleared, List.filter_eq_nil_iff] at hcleared
    have hidle : ∀ s ∈ front ++ last :: blank, s = "" ∨ s = "." := fun s hs => by
      simpa only [decide_eq_true_eq, not_not] using hcleared s hs
    rw [List.forall_mem_append, List.forall_mem_cons] at hidle
    obtain ⟨hfront, hdot, -⟩ := hidle
    simp only [t.walk_idle hfront, hdot.resolve_left hlast, if_true]

theorem segments_of_counts {path : List Char} {before : List (List Char)} {final : List Char}
    (h : Path.segments path = before ++ [final]) (hcounts : Path.counts final = true) :
    ∃ front last, (Path.segments path).map String.ofList = front ++ [last] ∧
      ¬ (last = "" ∨ last = ".") := by
  refine ⟨before.map String.ofList, String.ofList final, ?_, ?_⟩
  · rw [h, List.map_append, List.map_singleton]
  · simpa [Path.counts, ofList_eq_blank, ofList_eq_dot] using hcounts

section

variable {path : List Char} {front : List String} {last : String}
  (hsegments : (Path.segments path).map String.ofList = front ++ [last])
  (hlast : ¬ (last = "" ∨ last = "."))

include hsegments hlast

theorem stops_of_segments : (Path.stops path).map String.ofList = cleared front ++ [last] := by
  rw [← cleared_segments, hsegments, cleared, List.filter_append,
    List.filter_cons_of_pos (by simpa only [decide_eq_true_eq] using hlast)]
  rfl

theorem stops_ne_nil : Path.stops path ≠ [] := by
  intro hnil
  have hstops := stops_of_segments hsegments hlast
  rw [hnil] at hstops
  exact List.append_ne_nil_of_right_ne_nil _ (List.cons_ne_nil _ _) hstops.symm

theorem parent_of_segments : ∃ parent, Path.parent? path = some parent := by
  cases hparent : Path.parent? path with
  | none => exact absurd (Path.stops_of_parent_none hparent) (stops_ne_nil hsegments hlast)
  | some parent => exact ⟨parent, rfl⟩

/-- The way to the parent of a path is the way that the segments in front of the last give. -/
theorem route_parent (t : FileTree) {parent : List Char}
    (hparent : Path.parent? path = some parent) :
    t.route parent = lookups (t.origin path) front := by
  obtain ⟨final, hstops⟩ := Path.stops_parent hparent (stops_ne_nil hsegments hlast)
  have hboth := stops_of_segments hsegments hlast
  rw [hstops, List.map_append] at hboth
  have hfront : (Path.stops parent).map String.ofList = cleared front :=
    (List.append_inj' hboth rfl).1
  rw [route_eq, hfront, lookups_cleared, origin, origin, Path.isAbsolute_parent hparent]

end

theorem Legible.parent {path parent : List Char} (h : Legible path)
    (hparent : Path.parent? path = some parent) (hne : parent ≠ []) : Legible parent := by
  obtain ⟨rest, rfl⟩ := Path.prefix_parent hparent
  refine ⟨?_, hne, fun hlong => h.short ?_⟩
  · have hnul := h.nul
    rw [List.contains_append, Bool.or_eq_false_iff] at hnul
    exact hnul.1
  · rw [String.ofList_append, String.utf8ByteSize_append]
    omega

/-! ## Directories made -/

/-- A tree in which some names have become those of directories. -/
structure Made (t' t : FileTree) (names : List (List String × String)) : Prop where
  working : t'.working = t.working
  made : ∀ p ∈ names, t'.get? (p.1 ++ [p.2]) = some .directory
  other : ∀ n, (∀ p ∈ names, n ≠ p.1 ++ [p.2]) → t'.get? n = t.get? n

namespace Made

variable {t t' : FileTree} {names more : List (List String × String)}

theorem refl (t : FileTree) : Made t t [] := ⟨rfl, List.forall_mem_nil _, fun _ _ => rfl⟩

/-- An entry has become a directory or is what it was. -/
theorem directory_or_same (h : Made t' t names) (n : List String) :
    t'.get? n = some .directory ∨ t'.get? n = t.get? n := by
  by_cases hn : ∃ p ∈ names, n = p.1 ++ [p.2]
  · obtain ⟨p, hp, rfl⟩ := hn
    exact Or.inl (h.made p hp)
  · exact Or.inr (h.other n fun p hp heq => hn ⟨p, hp, heq⟩)

theorem trans {t'' : FileTree} (h' : Made t'' t' more) (h : Made t' t names) :
    Made t'' t (names ++ more) := by
  refine ⟨h'.working.trans h.working, ?_, fun n hn => ?_⟩
  · rw [List.forall_mem_append]
    refine ⟨fun p hp => ?_, h'.made⟩
    exact (h'.directory_or_same _).elim id fun hsame => hsame.trans (h.made p hp)
  · rw [List.forall_mem_append] at hn
    rw [h'.other n hn.2, h.other n hn.1]

theorem free (h : Made t' t names) {p : List String × String} (hp : t.Free p) : t'.Free p := by
  rcases h.directory_or_same (p.1 ++ [p.2]) with hdirectory | hsame
  · exact Or.inr (entry?_ok_iff.mpr ⟨hp.short, hdirectory⟩)
  · have hentry : t'.entry? p.1 p.2 = t.entry? p.1 p.2 := by
      unfold entry?
      rw [hsame]
    rw [Free, hentry]
    exact hp

theorem origin (h : Made t' t names) (path : List Char) : t'.origin path = t.origin path := by
  rw [FileTree.origin, FileTree.origin, h.working]

theorem of_walk {at_ segments directory : List String}
    (hwalk : t.walk at_ segments = .ok directory) : Made t t (lookups at_ segments) :=
  ⟨rfl, fun p hp => (entry?_ok_iff.mp ((walk_ok_iff.mp hwalk).2 p hp)).2, fun _ _ => rfl⟩

/-- The directories on a way are there once they have been made. -/
theorem walk {at_ segments : List String} (h : Made t' t (lookups at_ segments))
    (hfree : ∀ p ∈ lookups at_ segments, t.Free p) :
    t'.walk at_ segments = .ok (spell at_ segments) := by
  refine walk_ok_iff.mpr ⟨rfl, fun p hp => ?_⟩
  exact entry?_ok_iff.mpr ⟨(hfree p hp).short, h.made p hp⟩

end Made

/-- A directory at a path has been made, or there is one. -/
def Settles (t : FileTree) (path : List Char) (t' : FileTree) : Prop :=
  t.makeDirectory path = .ok t' ∨
    t' = t ∧ t.makeDirectory path = .error .alreadyExists ∧ t.isDirectory path = true

section

variable {t : FileTree} {path : List Char}

theorem settles_known {names : List String} (h : t.locate path = .ok (.known names)) :
    Settles t path t := by
  refine Or.inr ⟨rfl, ?_, ?_⟩
  · rw [makeDirectory, h]
    rfl
  · rw [isDirectory, h]

theorem settles_name {directory : List String} {name : String} {slash : Bool}
    (h : t.locate path = .ok (.name directory name slash)) (hfree : t.Free (directory, name)) :
    ∃ t', Settles t path t' ∧ Made t' t [(directory, name)] := by
  rcases hfree with hnone | hdirectory
  · refine ⟨t.set (directory ++ [name]) .directory, Or.inl ?_, rfl, ?_, fun n hn => ?_⟩
    · rw [makeDirectory, h]
      show t.entry? directory name >>= _ = _
      rw [hnone]
      rfl
    · rw [List.forall_mem_singleton, get?_set _ (by simp), if_pos rfl]
    · rw [get?_set _ (by simp), if_neg (hn _ (List.mem_singleton_self _))]
  · refine ⟨t, Or.inr ⟨rfl, ?_, ?_⟩, rfl, ?_, fun _ _ => rfl⟩
    · rw [makeDirectory, h]
      show t.entry? directory name >>= _ = _
      rw [hdirectory]
      rfl
    · rw [isDirectory, h]
      dsimp only
      rw [hdirectory]
    · rw [List.forall_mem_singleton]
      exact (entry?_ok_iff.mp hdirectory).2

section

variable {t₁ : FileTree} {front : List String} {last : String} (hlegible : Legible path)
  (hsegments : (Path.segments path).map String.ofList = front ++ [last])
  (hlast : ¬ (last = "" ∨ last = ".")) (hmade : Made t₁ t (lookups (t.origin path) front))

include hlegible hsegments hlast hmade

/-- With the way made, the path leads to its end. -/
theorem locate_of_made (hfree : ∀ p ∈ lookups (t.origin path) front, t.Free p) :
    t₁.locate path = .ok (if last = ".." then .known (spell (t.origin path) front).dropLast
      else .name (spell (t.origin path) front) last false) := by
  have hsplit := splitPath_of_segments hsegments fun h => hlast (Or.inl h)
  simp only [t₁.locate_of_legible hlegible, lead, hsplit, hmade.origin, hmade.walk hfree,
    if_neg fun h => hlast (Or.inr h)]

/-- At the end of a way that has been made, a directory can be made unless its name is taken. -/
theorem settles_of_made (hfree : ∀ p ∈ t.route path, t.Free p) :
    ∃ t', Settles t₁ path t' ∧ Made t' t (t.route path) := by
  rw [route_of_segments hsegments, List.forall_mem_append] at hfree
  rw [route_of_segments hsegments]
  have hlocate := locate_of_made hlegible hsegments hlast hmade hfree.1
  by_cases hback : last = ".."
  · rw [if_pos hback] at hlocate
    refine ⟨t₁, settles_known hlocate, ?_⟩
    rw [lookups, if_neg hlast, if_pos hback, lookups, List.append_nil]
    exact hmade
  · rw [if_neg hback] at hlocate
    rw [lookups, if_neg hlast, if_neg hback, lookups] at hfree ⊢
    obtain ⟨t', hsettles, hfinal⟩ :=
      settles_name hlocate (hmade.free (hfree.2 _ (List.mem_singleton_self _)))
    exact ⟨t', hsettles, hfinal.trans hmade⟩

end

theorem makeDirectories_of_settles {t' : FileTree} (fuel : Nat) (hne : path ≠ [])
    (h : Settles t path t') : makeDirectories (fuel + 1) t path = (t', .ok ()) := by
  rw [makeDirectories, if_neg hne]
  rcases h with hmade | ⟨rfl, hthere, hdirectory⟩
  · rw [hmade]
  · simp only [hthere, hdirectory, if_true]
    rfl

/-- Where the way is missing, it is made first. -/
theorem makeDirectories_of_parent {t₁ t' : FileTree} {fuel : Nat} {parent : List Char}
    (hne : path ≠ []) (hmissing : t.makeDirectory path = .error .noSuchEntry)
    (hparent : Path.parent? path = some parent)
    (hmade : makeDirectories fuel t parent = (t₁, .ok ())) (h : Settles t₁ path t') :
    makeDirectories (fuel + 1) t path = (t', .ok ()) := by
  rw [makeDirectories, if_neg hne]
  simp only [hmissing, hparent, hmade]
  rcases h with hlast | ⟨rfl, hthere, hdirectory⟩
  · rw [hlast]
    rfl
  · simp only [hthere, hdirectory, if_true]
    rfl

end

/-- Directories are made all along a path if nothing else has their names. -/
theorem makeDirectories_of_free {fuel : Nat} {t : FileTree} {path : List Char}
    (hfuel : path.length < fuel) (hlegible : path ≠ [] → Legible path)
    (htrimmed : Path.Trimmed path) (hfree : ∀ p ∈ t.route path, t.Free p) :
    ∃ t', makeDirectories fuel t path = (t', .ok ()) ∧ Made t' t (t.route path) := by
  induction fuel generalizing path with
  | zero => exact absurd hfuel (Nat.not_lt_zero _)
  | succ fuel ih =>
    by_cases hne : path = []
    · subst hne
      exact ⟨t, by rw [makeDirectories, if_pos rfl], .refl t⟩
    have hlegible := hlegible hne
    rcases htrimmed with hidle | ⟨before, final, hfinal, hcounts⟩
    · have hlocate := (t.locate_of_legible hlegible).trans (t.lead_idle hidle)
      refine ⟨t, makeDirectories_of_settles fuel hne (settles_known hlocate), ?_⟩
      rw [route_eq, hidle]
      exact .refl t
    · obtain ⟨front, last, hsegments, hlast⟩ := segments_of_counts hfinal hcounts
      have hway : ∀ p ∈ lookups (t.origin path) front, t.Free p := fun p hp => by
        refine hfree p ?_
        rw [route_of_segments hsegments]
        exact List.mem_append_left _ hp
      rcases walk_of_free hway with hwalk | hmissing
      · -- the way is there, so all its directories are
        obtain ⟨t', hsettles, hmade⟩ :=
          settles_of_made hlegible hsegments hlast (.of_walk hwalk) hfree
        exact ⟨t', makeDirectories_of_settles fuel hne hsettles, hmade⟩
      · obtain ⟨parent, hparent⟩ := parent_of_segments hsegments hlast
        have hback := route_parent hsegments hlast t hparent
        have hshort : parent.length < fuel :=
          Nat.lt_of_lt_of_le (Path.length_parent_lt hparent) (Nat.le_of_lt_succ hfuel)
        obtain ⟨t₁, hmade, hfirst⟩ := ih hshort (hlegible.parent hparent)
          (Path.trimmed_parent hparent) (hback ▸ hway)
        obtain ⟨t', hsettles, hwhole⟩ :=
          settles_of_made hlegible hsegments hlast (hback ▸ hfirst) hfree
        refine ⟨t', makeDirectories_of_parent hne ?_ hparent hmade hsettles, hwhole⟩
        have hsplit := splitPath_of_segments hsegments fun h => hlast (Or.inl h)
        rw [makeDirectory, t.locate_of_legible hlegible]
        simp only [lead, hsplit, hmissing]
        rfl

end FileTree
end TargetControl
