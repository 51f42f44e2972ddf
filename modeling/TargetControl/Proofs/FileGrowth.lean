import Mathlib.Data.List.TakeWhile
import TargetControl.Files.Tree
import TargetControl.Proofs.Trees

/-!
What making directories and adding to a file do to a tree.

A path spells the names of an entry: two dots take back the name in front of them, whether or not
that is there.  Where a path leads anywhere, it leads to the names it spells.  Making directories
puts some where there was nothing, and adding to a file changes that file and nothing else.
-/

namespace TargetControl
namespace FileTree

/-! ## What a path spells -/

/-- The directory in which a path begins. -/
def origin (t : FileTree) (path : List Char) : List String :=
  if Path.isAbsolute path then [] else t.working

/-- The names that some segments spell from a directory on. -/
def spell : List String → List String → List String
  | at_, [] => at_
  | at_, segment :: rest =>
    if segment = "" ∨ segment = "." then spell at_ rest
    else if segment = ".." then spell at_.dropLast rest
    else spell (at_ ++ [segment]) rest

/-- The names that a path spells. -/
def resolve (t : FileTree) (path : List Char) : List String :=
  spell (t.origin path) ((Path.segments path).map String.ofList)

theorem spell_append (at_ front back : List String) :
    spell at_ (front ++ back) = spell (spell at_ front) back := by
  fun_induction spell at_ front with
  | case1 at_ => rfl
  | case2 at_ segment rest h ih => rw [List.cons_append, spell, if_pos h, ih]
  | case3 at_ rest h ih => rw [List.cons_append, spell, if_neg h, if_pos rfl, ih]
  | case4 at_ segment rest h hback ih =>
    rw [List.cons_append, spell, if_neg h, if_neg hback, ih]

theorem spell_blank {segments : List String} (h : ∀ s ∈ segments, s = "") (at_ : List String) :
    spell at_ segments = at_ := by
  induction segments with
  | nil => rfl
  | cons segment rest ih =>
    rw [spell, if_pos (.inl (h segment List.mem_cons_self)),
      ih fun s hs => h s (List.mem_cons_of_mem _ hs)]

theorem walk_eq_spell {t : FileTree} {at_ segments directory : List String}
    (h : t.walk at_ segments = .ok directory) : directory = spell at_ segments := by
  fun_induction t.walk at_ segments with
  | case1 at_ => exact (Except.ok.inj h).symm
  | case2 at_ segment rest hidle ih => rw [spell, if_pos hidle, ih h]
  | case3 at_ rest hidle ih => rw [spell, if_neg hidle, if_pos rfl, ih h]
  | case4 at_ segment rest hidle hback _ ih => rw [spell, if_neg hidle, if_neg hback, ih h]
  | case5 | case6 | case7 => cases h

/-- Behind the last segment of a path nothing but slashes stands. -/
theorem splitPath_segments {path : List Char} {front : List String} {last : String} {slash : Bool}
    (h : splitPath path = (front, some last, slash)) :
    ∃ blank, (Path.segments path).map String.ofList = front ++ last :: blank ∧
      (∀ s ∈ blank, s = "") ∧ last ≠ "" := by
  rw [splitPath] at h
  generalize (Path.segments path).map String.ofList = segments at h ⊢
  split at h
  · cases h
  · next last' front' hdrop =>
    cases h
    have hparts := List.takeWhile_append_dropWhile (p := (· = "")) (l := segments.reverse)
    have hlast := List.head?_dropWhile_not (· = "") segments.reverse
    rw [hdrop] at hparts hlast
    refine ⟨(segments.reverse.takeWhile (· = "")).reverse, ?_, fun s hs => ?_, ?_⟩
    · have hsegments := congrArg List.reverse hparts
      rw [List.reverse_append, List.reverse_cons, List.reverse_reverse] at hsegments
      simpa using hsegments.symm
    · simpa using List.mem_takeWhile_imp (List.mem_reverse.mp hs)
    · simpa using hlast

/-- What every lookup asks of a path before it looks at a tree. -/
structure Legible (path : List Char) : Prop where
  nul : path.contains (Char.ofNat 0) = false
  nonempty : path ≠ []
  short : ¬ pathLimit < (String.ofList path).utf8ByteSize

/-- Where a legible path leads. -/
def lead (t : FileTree) (path : List Char) : Except FileFault Place :=
  match splitPath path with
  | (_, none, _) => .ok (.known (t.origin path))
  | (front, some last, slash) =>
    match t.walk (t.origin path) front with
    | .error fault => .error fault
    | .ok directory =>
      .ok (if last = "." then .known directory
        else if last = ".." then .known directory.dropLast
        else .name directory last slash)

theorem locate_of_legible (t : FileTree) {path : List Char} (h : Legible path) :
    t.locate path = t.lead path := by
  unfold locate lead origin
  simp only [h.nul, h.nonempty, h.short, Bool.false_eq_true, if_false]
  rcases splitPath path with ⟨front, _ | last, slash⟩
  · rfl
  · dsimp only
    cases t.walk (if Path.isAbsolute path then [] else t.working) front with
    | error fault => rfl
    | ok directory =>
      show (if last = "." then _ else if last = ".." then _ else _) = _
      split
      · rfl
      · split <;> rfl

theorem locate_ok_iff {t : FileTree} {path : List Char} {place : Place} :
    t.locate path = .ok place ↔ Legible path ∧ t.lead path = .ok place := by
  by_cases hlegible : Legible path
  · rw [t.locate_of_legible hlegible, and_iff_right hlegible]
  · refine ⟨fun h => absurd ?_ hlegible, fun h => absurd h.1 hlegible⟩
    unfold locate at h
    refine ⟨?_, ?_, ?_⟩
    · by_contra hnul
      rw [Bool.not_eq_false] at hnul
      simp only [hnul, if_true] at h
      cases h
    · rintro rfl
      cases h
    · intro hlong
      by_cases hnul : path.contains (Char.ofNat 0) = true
      · simp only [hnul, if_true] at h
        cases h
      · by_cases hnil : path = []
        · subst hnil
          cases h
        · simp only [hnul, hnil, hlong, Bool.false_eq_true, if_false, if_true] at h
          cases h

/-- A path that leads to a name leads to the names it spells. -/
theorem locate_eq_resolve {t : FileTree} {path : List Char} {directory : List String}
    {name : String} {slash : Bool} (h : t.locate path = .ok (.name directory name slash)) :
    directory ++ [name] = t.resolve path := by
  obtain ⟨-, h⟩ := locate_ok_iff.mp h
  rw [lead] at h
  split at h
  · cases h
  · next front last slash' hsplit =>
    split at h
    · cases h
    · next directory' hwalk =>
      obtain ⟨blank, hsegments, hblank, hlast⟩ := splitPath_segments hsplit
      split at h
      · cases h
      · next hdot =>
        split at h
        · cases h
        · next hback =>
          cases h
          rw [resolve, hsegments, spell_append, ← walk_eq_spell hwalk, spell,
            if_neg (not_or.mpr ⟨hlast, hdot⟩), if_neg hback, spell_blank hblank]

/-! ## Trees with the directories of another -/

theorem entry?_ok_iff {t : FileTree} {directory : List String} {name : String}
    {found : Option FileNode} :
    t.entry? directory name = .ok found ↔
      name.utf8ByteSize ≤ nameLimit ∧ t.get? (directory ++ [name]) = found := by
  unfold entry?
  split
  · next h => exact ⟨nofun, fun ⟨hshort, _⟩ => absurd hshort (by omega)⟩
  · next h =>
    refine ⟨fun heq => ⟨by omega, Except.ok.inj heq⟩, fun ⟨_, heq⟩ => congrArg _ heq⟩

/-- A tree in which the directories of another are still there. -/
structure Contains (t' t : FileTree) : Prop where
  working : t'.working = t.working
  directory : ∀ names, t.get? names = some .directory → t'.get? names = some .directory

namespace Contains

variable {t t' : FileTree}

theorem walk (h : Contains t' t) {at_ segments directory : List String}
    (hwalk : t.walk at_ segments = .ok directory) : t'.walk at_ segments = .ok directory := by
  fun_induction t.walk at_ segments with
  | case1 at_ => exact hwalk
  | case2 at_ segment rest hidle ih => rw [FileTree.walk, if_pos hidle, ih hwalk]
  | case3 at_ rest hidle ih => rw [FileTree.walk, if_neg hidle, if_pos rfl, ih hwalk]
  | case4 at_ segment rest hidle hback hentry ih =>
    obtain ⟨hshort, hget⟩ := entry?_ok_iff.mp hentry
    have hentry' : t'.entry? at_ segment = .ok (some .directory) :=
      entry?_ok_iff.mpr ⟨hshort, h.directory _ hget⟩
    rw [FileTree.walk, if_neg hidle, if_neg hback, hentry']
    exact ih hwalk
  | case5 | case6 | case7 => cases hwalk

theorem origin (h : Contains t' t) (path : List Char) : t'.origin path = t.origin path := by
  rw [FileTree.origin, FileTree.origin, h.working]

theorem resolve (h : Contains t' t) (path : List Char) : t'.resolve path = t.resolve path := by
  rw [FileTree.resolve, FileTree.resolve, h.origin]

/-- A path leads to the same place. -/
theorem locate (h : Contains t' t) {path : List Char} {place : Place}
    (hlocate : t.locate path = .ok place) : t'.locate path = .ok place := by
  obtain ⟨hlegible, hlead⟩ := locate_ok_iff.mp hlocate
  refine locate_ok_iff.mpr ⟨hlegible, ?_⟩
  rw [lead] at hlead ⊢
  rw [h.origin]
  generalize splitPath path = parts at hlead ⊢
  obtain ⟨front, _ | last, slash⟩ := parts
  · exact hlead
  · dsimp only at hlead ⊢
    cases hwalk : t.walk (t.origin path) front with
    | error fault =>
      rw [hwalk] at hlead
      cases hlead
    | ok directory =>
      rw [hwalk] at hlead
      rw [h.walk hwalk]
      exact hlead

end Contains

/-! ## Making directories -/

/-- What becomes of an entry when directories are made: it stays, or there was none. -/
def Kept (after before : Option FileNode) : Prop :=
  after = before ∨ before = none ∧ after = some .directory

namespace Kept

variable {first second third : Option FileNode}

theorem directory (h : Kept second first) (hfirst : first = some .directory) :
    second = some .directory := by
  rcases h with hsame | ⟨hnone, -⟩
  · rw [hsame, hfirst]
  · rw [hnone] at hfirst
    cases hfirst

/-- What is no directory afterwards was there before, or is not there now either. -/
theorem eq_of_ne (h : Kept second first) (hne : second ≠ some .directory) : second = first :=
  h.resolve_right fun hmade => hne hmade.2

theorem trans (h' : Kept third second) (h : Kept second first) : Kept third first := by
  rcases h' with hsame | ⟨hnone, hmade⟩
  · rw [hsame]
    exact h
  · have hsame := h.eq_of_ne (by rw [hnone]; exact nofun)
    exact .inr ⟨hsame ▸ hnone, hmade⟩

end Kept

/-- A tree in which directories have been made. -/
structure Grown (t' t : FileTree) : Prop where
  working : t'.working = t.working
  entry : ∀ names, Kept (t'.get? names) (t.get? names)

namespace Grown

variable {t t' : FileTree}

theorem contains (h : Grown t' t) : Contains t' t :=
  ⟨h.working, fun names => (h.entry names).directory⟩

theorem refl (t : FileTree) : Grown t t := ⟨rfl, fun _ => .inl rfl⟩

theorem trans {t'' : FileTree} (h' : Grown t'' t') (h : Grown t' t) : Grown t'' t :=
  ⟨h'.working.trans h.working, fun names => (h'.entry names).trans (h.entry names)⟩

end Grown

theorem grown_makeDirectory {t t' : FileTree} {path : List Char}
    (h : t.makeDirectory path = .ok t') : Grown t' t := by
  obtain ⟨place, -, h⟩ := ok_of_bind h
  cases place with
  | known names => cases h
  | name directory name slash =>
    obtain ⟨found, hentry, h⟩ := ok_of_bind h
    cases found with
    | some node => cases h
    | none =>
      cases h
      obtain ⟨-, hnone⟩ := entry?_ok_iff.mp hentry
      refine ⟨rfl, fun names => ?_⟩
      rw [get?_set _ (by simp)]
      by_cases heq : names = directory ++ [name]
      · rw [if_pos heq, heq]
        exact .inr ⟨hnone, rfl⟩
      · rw [if_neg heq]
        exact .inl rfl

theorem grown_makeDirectories (fuel : Nat) (t : FileTree) (path : List Char) :
    Grown (makeDirectories fuel t path).1 t := by
  fun_induction makeDirectories fuel t path with
  | case1 => exact .refl _
  | case2 => exact .refl _
  | case3 t fuel path hne t' h => exact grown_makeDirectory h
  | case4 => exact .refl _
  | case5 fuel t path hne _ parent _ t' fault hmade ih =>
    rw [hmade] at ih
    exact ih
  | case6 fuel t path hne _ parent _ t' hmade t'' hlast ih =>
    rw [hmade] at ih
    exact (grown_makeDirectory hlast).trans ih
  | case7 fuel t path hne _ parent _ t' hmade fault _ ih =>
    rw [hmade] at ih
    exact ih
  | case8 => exact .refl _

theorem grown_makeAll (t : FileTree) (path : List Char) : Grown (t.makeAll path).1 t :=
  grown_makeDirectories _ t path

/-! ## Adding to a file -/

/-- What an entry is when some characters have been added to it.  A device stays what it is. -/
def added (chars : List Char) : Option FileNode → FileNode
  | none => .file (.text chars)
  | some (.file content) => .file (content.append chars)
  | some node => node

/-- A path at whose end a name stands that can be looked up, with no slash behind it. -/
def Reaches (t : FileTree) (path : List Char) : Prop :=
  ∃ directory name, t.locate path = .ok (.name directory name false) ∧
    name.utf8ByteSize ≤ nameLimit

/-- A tree in which characters have been added to the file at a path, and directories may have been
made. -/
structure Appended (t' t : FileTree) (path chars : List Char) : Prop where
  working : t'.working = t.working
  noDirectory : t.get? (t.resolve path) ≠ some .directory
  file : t'.get? (t.resolve path) = some (added chars (t.get? (t.resolve path)))
  entry : ∀ names, names ≠ t.resolve path → Kept (t'.get? names) (t.get? names)

namespace Appended

variable {t t' : FileTree} {path chars : List Char}

theorem contains (h : Appended t' t path chars) : Contains t' t := by
  refine ⟨h.working, fun names hdirectory => (h.entry names fun heq => ?_).directory hdirectory⟩
  exact h.noDirectory (heq ▸ hdirectory)

/-- Directories made before, such as those on the way to the file, make no difference. -/
theorem of_grown {t₁ : FileTree} (h : Appended t' t₁ path chars) (hgrown : Grown t₁ t) :
    Appended t' t path chars := by
  have hresolve := hgrown.contains.resolve path
  have hbefore := (hgrown.entry _).eq_of_ne h.noDirectory
  refine ⟨h.working.trans hgrown.working, ?_, ?_, fun names hother => ?_⟩
  · rw [← hresolve, ← hbefore]
    exact h.noDirectory
  · rw [← hresolve, ← hbefore]
    exact h.file
  · exact (h.entry names (hresolve ▸ hother)).trans (hgrown.entry names)

end Appended

theorem openAppend_ok {t t' : FileTree} {path : List Char} {names : List String}
    (h : t.openAppend path = .ok (t', names)) :
    Reaches t path ∧ names = t.resolve path ∧ names ≠ [] ∧ t.get? names ≠ some .directory ∧
      t' = if t.get? names = none then t.set names (.file (.text [])) else t := by
  obtain ⟨place, hlocate, h⟩ := ok_of_bind h
  cases place with
  | known names => cases h
  | name directory name slash =>
    cases slash with
    | true => cases h
    | false =>
      obtain ⟨found, hentry, h⟩ := ok_of_bind h
      obtain ⟨hshort, hget⟩ := entry?_ok_iff.mp hentry
      refine ⟨⟨directory, name, hlocate, hshort⟩, ?_⟩
      rw [← locate_eq_resolve hlocate]
      cases found with
      | none =>
        cases h
        refine ⟨rfl, by simp, ?_, ?_⟩
        · rw [hget]
          exact nofun
        · rw [if_pos hget]
      | some node =>
        cases node with
        | directory => cases h
        | file content | sink | full =>
          cases h
          refine ⟨rfl, by simp, ?_, ?_⟩
          · rw [hget]
            exact nofun
          · rw [hget, if_neg nofun]

theorem write_opened {t t' t'' : FileTree} {chars : List Char} {names : List String}
    (hne : names ≠ []) (hnoDirectory : t.get? names ≠ some .directory)
    (hopened : t' = if t.get? names = none then t.set names (.file (.text [])) else t)
    (hwrite : t'.write names chars = .ok t'') :
    t''.working = t.working ∧ ∀ other, t''.get? other =
      if other = names then some (added chars (t.get? names)) else t.get? other := by
  cases hget : t.get? names with
  | none =>
    rw [if_pos hget] at hopened
    have hnew : t'.get? names = some (.file (.text [])) := by
      rw [hopened, get?_set _ hne, if_pos rfl]
    simp only [write, hnew] at hwrite
    cases hwrite
    rw [hopened]
    refine ⟨rfl, fun other => ?_⟩
    rw [get?_set _ hne, get?_set _ hne]
    by_cases heq : other = names
    · rw [if_pos heq, if_pos heq]
      rfl
    · rw [if_neg heq, if_neg heq, if_neg heq]
  | some node =>
    rw [hget, if_neg nofun] at hopened
    subst hopened
    simp only [write, hget] at hwrite
    cases node with
    | directory => exact absurd hget hnoDirectory
    | file content =>
      cases hwrite
      exact ⟨rfl, get?_set _ hne _⟩
    | sink =>
      cases hwrite
      refine ⟨rfl, fun other => ?_⟩
      by_cases heq : other = names
      · rw [if_pos heq, heq, hget]
        rfl
      · rw [if_neg heq]
    | full => cases hwrite

/-- Opening a file and writing to it adds to it, and it can be looked up afterwards. -/
theorem appended_write {t t₁ t' : FileTree} {path chars : List Char} {names : List String}
    (hopen : t.openAppend path = .ok (t₁, names)) (hwrite : t₁.write names chars = .ok t') :
    Appended t' t path chars ∧ Reaches t' path := by
  obtain ⟨⟨directory, name, hlocate, hshort⟩, rfl, hne, hnoDirectory, hopened⟩ := openAppend_ok hopen
  obtain ⟨hworking, hentry⟩ := write_opened hne hnoDirectory hopened hwrite
  have happended : Appended t' t path chars := by
    refine ⟨hworking, hnoDirectory, ?_, fun names hother => ?_⟩
    · rw [hentry, if_pos rfl]
    · rw [hentry, if_neg hother]
      exact .inl rfl
  exact ⟨happended, directory, name, happended.contains.locate hlocate, hshort⟩

theorem readText_of_reaches {t : FileTree} {path chars : List Char} (h : Reaches t path)
    (hfile : t.get? (t.resolve path) = some (.file (.text chars))) :
    t.readText path = .ok (String.ofList chars) := by
  obtain ⟨directory, name, hlocate, hshort⟩ := h
  have hentry : t.entry? directory name = .ok (some (.file (.text chars))) :=
    entry?_ok_iff.mpr ⟨hshort, by rw [locate_eq_resolve hlocate, hfile]⟩
  rw [readText, hlocate]
  show t.entry? directory name >>= _ = _
  rw [hentry]
  rfl

end FileTree
end TargetControl
