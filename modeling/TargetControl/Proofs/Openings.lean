import TargetControl.Proofs.LineFiles
import TargetControl.Proofs.Ways

/-!
When a line can be added to the file at a path.

It can if the directories on the way to the file can be made, and what has the name of the file then
is no directory and no device without space: `addLine_ok_iff`.  No entry goes away or becomes one of
another kind, so where a line cannot be added, none can be later; and where one has been added, more
can be.
-/

namespace TargetControl

/-- An entry apart from what is in it. -/
def FileNode.bare : FileNode → FileNode
  | .file _ => .file (.text [])
  | node => node

theorem FileNode.bare_eq_directory {node : FileNode} :
    node.bare = .directory ↔ node = .directory := by
  cases node <;> simp [bare]

theorem FileNode.bare_eq_full {node : FileNode} : node.bare = .full ↔ node = .full := by
  cases node <;> simp [bare]

namespace FileTree

/-! ## Trees with the entries of another -/

/-- A tree with the entries of another, each of the kind that it was. -/
structure Later (t' t : FileTree) : Prop where
  working : t'.working = t.working
  entry : ∀ names node, t.get? names = some node → ∃ node', t'.get? names = some node' ∧
    node'.bare = node.bare

theorem added_bare (chars : List Char) (node : FileNode) :
    (added chars (some node)).bare = node.bare := by
  cases node <;> rfl

theorem added_eq_directory {chars : List Char} {found : Option FileNode} :
    added chars found = .directory ↔ found = some .directory := by
  rcases found with _ | _ | _ <;> simp [added]

theorem added_eq_full {chars : List Char} {found : Option FileNode} :
    added chars found = .full ↔ found = some .full := by
  rcases found with _ | _ | _ <;> simp [added]

namespace Later

variable {t t' : FileTree}

theorem refl (t : FileTree) : Later t t := ⟨rfl, fun _ node h => ⟨node, h, rfl⟩⟩

theorem trans {t'' : FileTree} (h' : Later t'' t') (h : Later t' t) : Later t'' t := by
  refine ⟨h'.working.trans h.working, fun names node hnode => ?_⟩
  obtain ⟨node', hnode', hbare⟩ := h.entry names node hnode
  obtain ⟨node'', hnode'', hbare'⟩ := h'.entry names node' hnode'
  exact ⟨node'', hnode'', hbare'.trans hbare⟩

theorem directory (h : Later t' t) {names : List String}
    (hdirectory : t.get? names = some .directory) :
    t'.get? names = some .directory := by
  obtain ⟨node', hnode', hbare⟩ := h.entry names _ hdirectory
  rw [hnode', FileNode.bare_eq_directory.mp hbare]

theorem contains (h : Later t' t) : Contains t' t := ⟨h.working, fun _ => h.directory⟩

theorem full (h : Later t' t) {names : List String} (hfull : t.get? names = some .full) :
    t'.get? names = some .full := by
  obtain ⟨node', hnode', hbare⟩ := h.entry names _ hfull
  rw [hnode', FileNode.bare_eq_full.mp hbare]

/-- A directory that can be made later could be made before. -/
theorem free (h : Later t' t) {p : List String × String} (hp : t'.Free p) : t.Free p := by
  cases hget : t.get? (p.1 ++ [p.2]) with
  | none => exact Or.inl (entry?_ok_iff.mpr ⟨hp.short, hget⟩)
  | some node =>
    refine Or.inr (entry?_ok_iff.mpr ⟨hp.short, ?_⟩)
    obtain ⟨node', hget', hbare⟩ := h.entry _ node hget
    rcases hp with hnone | hdirectory
    · rw [(entry?_ok_iff.mp hnone).2] at hget'
      cases hget'
    · rw [(entry?_ok_iff.mp hdirectory).2] at hget'
      cases hget'
      rw [hget, FileNode.bare_eq_directory.mp hbare.symm]

theorem of_kept (hworking : t'.working = t.working)
    (hentry : ∀ names, Kept (t'.get? names) (t.get? names)) : Later t' t := by
  refine ⟨hworking, fun names node hnode => ⟨node, ?_, rfl⟩⟩
  rcases hentry names with hsame | ⟨hnone, -⟩
  · rw [hsame, hnode]
  · rw [hnone] at hnode
    cases hnode

end Later

theorem Grown.later {t t' : FileTree} (h : Grown t' t) : Later t' t := .of_kept h.working h.entry

theorem Appended.later {t t' : FileTree} {path chars : List Char} (h : Appended t' t path chars) :
    Later t' t := by
  refine ⟨h.working, fun names node hnode => ?_⟩
  by_cases hnames : names = t.resolve path
  · subst hnames
    have hfile := h.file
    rw [hnode] at hfile
    exact ⟨_, hfile, added_bare chars node⟩
  · rcases h.entry names hnames with hsame | ⟨hnone, -⟩
    · exact ⟨node, hsame.trans hnode, rfl⟩
    · rw [hnone] at hnode
      cases hnode

/-! ## Paths that can be opened -/

/-- A path with a name at its end, on the way to which directories can be made, none of them under
that name, and what has the name can be added to. -/
structure Opens (t : FileTree) (path : List Char) (front : List String) (last : String) : Prop where
  legible : Legible path
  segments : (Path.segments path).map String.ofList = front ++ [last]
  counts : ¬ (last = "" ∨ last = ".")
  named : last ≠ ".."
  short : last.utf8ByteSize ≤ nameLimit
  free : ∀ p ∈ lookups (t.origin path) front, t.Free p
  apart : ∀ p ∈ lookups (t.origin path) front, t.resolve path ≠ p.1 ++ [p.2]
  noDirectory : t.get? (t.resolve path) ≠ some .directory
  space : t.get? (t.resolve path) ≠ some .full

def Openable (t : FileTree) (path : List Char) : Prop := ∃ front last, Opens t path front last

theorem Opens.resolve {t : FileTree} {path : List Char} {front : List String} {last : String}
    (h : Opens t path front last) : t.resolve path = spell (t.origin path) front ++ [last] := by
  rw [FileTree.resolve, h.segments, spell_append, spell, if_neg h.counts, if_neg h.named, spell]

/-- What cannot be opened cannot be opened later. -/
theorem Openable.earlier {t t' : FileTree} {path : List Char} (hlater : Later t' t)
    (h : t'.Openable path) : t.Openable path := by
  obtain ⟨front, last, h⟩ := h
  have horigin := hlater.contains.origin path
  have hresolve := hlater.contains.resolve path
  refine ⟨front, last, h.legible, h.segments, h.counts, h.named, h.short, fun p hp => ?_,
    fun p hp => ?_, fun hdirectory => h.noDirectory ?_, fun hfull => h.space ?_⟩
  · exact hlater.free (h.free p (horigin ▸ hp))
  · rw [← hresolve]
    exact h.apart p (horigin ▸ hp)
  · rw [hresolve]
    exact hlater.directory hdirectory
  · rw [hresolve]
    exact hlater.full hfull

theorem openable_of_reaches {t : FileTree} {path : List Char} (h : Reaches t path)
    (hdirectory : t.get? (t.resolve path) ≠ some .directory)
    (hspace : t.get? (t.resolve path) ≠ some .full) : t.Openable path := by
  obtain ⟨directory, name, hlocate, hshort⟩ := h
  obtain ⟨hlegible, hlead⟩ := locate_ok_iff.mp hlocate
  rw [lead] at hlead
  split at hlead
  · cases hlead
  · next front last slash hsplit =>
    split at hlead
    · cases hlead
    · next directory' hwalk =>
      split at hlead
      · cases hlead
      · next hdot =>
        split at hlead
        · cases hlead
        · next hback =>
          cases hlead
          obtain ⟨hsegments, hblank⟩ := segments_of_splitPath hsplit
          obtain ⟨-, hway⟩ := walk_ok_iff.mp hwalk
          refine ⟨front, name, hlegible, hsegments, not_or.mpr ⟨hblank, hdot⟩, hback, hshort,
            fun p hp => Or.inr (hway p hp), fun p hp heq => hdirectory ?_, hdirectory, hspace⟩
          rw [heq]
          exact (entry?_ok_iff.mp (hway p hp)).2

/-- A file that can be looked up can be opened later. -/
theorem Later.openable {t t' : FileTree} {path : List Char} {node : FileNode} (hlater : Later t' t)
    (h : Reaches t path) (hnode : t.get? (t.resolve path) = some node)
    (hdirectory : node ≠ .directory) (hspace : node ≠ .full) : t'.Openable path := by
  obtain ⟨directory, name, hlocate, hshort⟩ := h
  obtain ⟨node', hnode', hbare⟩ := hlater.entry _ node hnode
  rw [← hlater.contains.resolve path] at hnode'
  refine openable_of_reaches ⟨directory, name, hlater.contains.locate hlocate, hshort⟩ ?_ ?_
  · rw [hnode']
    rintro ⟨rfl⟩
    exact hdirectory (FileNode.bare_eq_directory.mp hbare.symm)
  · rw [hnode']
    rintro ⟨rfl⟩
    exact hspace (FileNode.bare_eq_full.mp hbare.symm)

/-! ## Opening -/

theorem write_of_space {t : FileTree} {names : List String} (h : t.get? names ≠ some .full)
    (chars : List Char) : ∃ t', t.write names chars = .ok t' := by
  unfold write
  split
  · exact ⟨_, rfl⟩
  · next hfull => exact absurd hfull h
  · exact ⟨_, rfl⟩

/-- What is found at the end of a path can be added to, unless it is a directory or full. -/
theorem append_of_locate {t : FileTree} {path : List Char} {directory : List String} {name : String}
    (hlocate : t.locate path = .ok (.name directory name false))
    (hshort : name.utf8ByteSize ≤ nameLimit)
    (hdirectory : t.get? (directory ++ [name]) ≠ some .directory)
    (hspace : t.get? (directory ++ [name]) ≠ some .full) (chars : List Char) :
    ∃ t₁ names t₂, t.openAppend path = .ok (t₁, names) ∧ t₁.write names chars = .ok t₂ := by
  have hentry : t.entry? directory name = .ok (t.get? (directory ++ [name])) :=
    entry?_ok_iff.mpr ⟨hshort, rfl⟩
  rw [openAppend, hlocate]
  show ∃ t₁ names t₂, t.entry? directory name >>= _ = _ ∧ _
  rw [hentry]
  cases hget : t.get? (directory ++ [name]) with
  | none =>
    have hnew : (t.set (directory ++ [name]) (.file (.text []))).get? (directory ++ [name]) ≠
        some .full := by
      rw [get?_set _ (by simp), if_pos rfl]
      exact nofun
    obtain ⟨t₂, hwrite⟩ := write_of_space hnew chars
    exact ⟨_, _, t₂, rfl, hwrite⟩
  | some node =>
    obtain ⟨t₂, hwrite⟩ := write_of_space hspace chars
    cases node with
    | directory => exact absurd hget hdirectory
    | file content | sink | full => exact ⟨t, _, t₂, rfl, hwrite⟩

/-- A file that has just been made has space. -/
theorem eq_of_opened_full {t t' : FileTree} {path : List Char} {names : List String}
    (hopen : t.openAppend path = .ok (t', names)) (hfull : t'.get? names = some .full) :
    t' = t := by
  obtain ⟨-, -, hne, -, hopened⟩ := openAppend_ok hopen
  split at hopened
  · rw [hopened, get?_set _ hne, if_pos rfl] at hfull
    cases hfull
  · exact hopened

/-- A tree in which the directories on the way to a file have been made. -/
def Prepared (t : FileTree) (path : List Char) (t₁ : FileTree) : Prop :=
  match Path.parent? path with
  | none => t₁ = t
  | some parent => t.makeAll parent = (t₁, .ok ())

theorem Prepared.grown {t t₁ : FileTree} {path : List Char} (h : Prepared t path t₁) :
    Grown t₁ t := by
  unfold Prepared at h
  split at h
  · rw [h]
    exact .refl t
  · next parent _ =>
    have hgrown := t.grown_makeAll parent
    rw [h] at hgrown
    exact hgrown

theorem Prepared.unique {t t₁ t₂ : FileTree} {path : List Char} (h₁ : Prepared t path t₁)
    (h₂ : Prepared t path t₂) : t₁ = t₂ := by
  rw [Prepared] at h₁ h₂
  cases hparent : Path.parent? path with
  | none =>
    rw [hparent] at h₁ h₂
    rw [h₁, h₂]
  | some parent =>
    simp only [hparent] at h₁ h₂
    exact (Prod.mk.inj (h₁.symm.trans h₂)).1

section

variable {t t₁ : FileTree} {path : List Char} {front : List String} {last : String}

theorem Opens.prepared (h : Opens t path front last) :
    ∃ t₁, Prepared t path t₁ ∧ Made t₁ t (lookups (t.origin path) front) := by
  obtain ⟨parent, hparent⟩ := parent_of_segments h.segments h.counts
  have hroute := route_parent h.segments h.counts t hparent
  obtain ⟨t₁, hmade, hfirst⟩ := makeDirectories_of_free (Nat.lt_succ_self parent.length)
    (h.legible.parent hparent) (Path.trimmed_parent hparent) (hroute ▸ h.free)
  rw [hroute] at hfirst
  refine ⟨t₁, ?_, hfirst⟩
  rw [Prepared, hparent]
  exact hmade

theorem Opens.appended (h : Opens t path front last)
    (hmade : Made t₁ t (lookups (t.origin path) front)) (chars : List Char) :
    ∃ t₂ names t₃, t₁.openAppend path = .ok (t₂, names) ∧ t₂.write names chars = .ok t₃ := by
  have hlocate := locate_of_made h.legible h.segments h.counts hmade h.free
  rw [if_neg h.named] at hlocate
  have hget : t₁.get? (spell (t.origin path) front ++ [last]) = t.get? (t.resolve path) := by
    rw [← h.resolve]
    exact hmade.other _ h.apart
  exact append_of_locate hlocate h.short (hget ▸ h.noDirectory) (hget ▸ h.space) chars

theorem openable_of_append {t₂ t₃ : FileTree} {names : List String} {chars : List Char}
    (hprepared : Prepared t path t₁) (hopen : t₁.openAppend path = .ok (t₂, names))
    (hwrite : t₂.write names chars = .ok t₃) : t.Openable path := by
  obtain ⟨hreaches, rfl, -, hdirectory, hopened⟩ := openAppend_ok hopen
  refine Openable.earlier hprepared.grown.later (openable_of_reaches hreaches hdirectory ?_)
  intro hfull
  rw [hfull, if_neg nofun] at hopened
  subst hopened
  simp only [write, hfull] at hwrite
  cases hwrite

end

end FileTree

/-! ## Adding lines -/

namespace Outlets

open FileTree

/-- How adding a line ends: with the way not made, with the file not opened or not written to, or
with the line in it. -/
inductive Ending (o : Outlets) (path line : String) : Outlets × Except Failure Unit → Prop where
  | stuck {t₁ failure} (grown : Grown t₁ o.files)
      (unprepared : ∀ t, ¬ Prepared o.files path.toList t) :
      Ending o path line ({ o with files := t₁ }, .error failure)
  | unopened {t₁ failure fault} (prepared : Prepared o.files path.toList t₁)
      (closed : t₁.openAppend path.toList = .error fault) :
      Ending o path line ({ o with files := t₁ }, .error failure)
  | unwritten {t₁ t₂ names failure fault} (prepared : Prepared o.files path.toList t₁)
      (opened : t₁.openAppend path.toList = .ok (t₂, names))
      (refused : t₂.write names (line.toList ++ ['\n']) = .error fault) :
      Ending o path line ({ o with files := t₂ }, .error failure)
  | written {t₁ t₂ names t₃} (prepared : Prepared o.files path.toList t₁)
      (opened : t₁.openAppend path.toList = .ok (t₂, names))
      (added : t₂.write names (line.toList ++ ['\n']) = .ok t₃) :
      Ending o path line ({ o with files := t₃ }, .ok ())

theorem ending_addLine (o : Outlets) (path line : String) :
    Ending o path line (o.addLine path line) := by
  unfold addLine
  extract_lets opened
  have hopened : ∀ t₁, Prepared o.files path.toList t₁ →
      Ending o path line (opened t₁) := by
    intro t₁ hprepared
    simp only [opened]
    cases hopen : t₁.openAppend path.toList with
    | error fault => exact .unopened hprepared hopen
    | ok opening =>
      obtain ⟨t₂, names⟩ := opening
      dsimp only
      cases hwrite : t₂.write names (line.toList ++ ['\n']) with
      | error fault => exact .unwritten hprepared hopen hwrite
      | ok t₃ => exact .written hprepared hopen hwrite
  cases hparent : Path.parent? path.toList with
  | none => exact hopened _ (by rw [Prepared, hparent])
  | some parent =>
    have hprepared : ∀ t₁, Prepared o.files path.toList t₁ ↔
        o.files.makeAll parent = (t₁, .ok ()) := by
      intro t₁
      rw [Prepared, hparent]
    have hgrown := o.files.grown_makeAll parent
    dsimp only
    split
    · next t₁ fault hmade =>
      rw [hmade] at hgrown
      refine .stuck hgrown fun t h => ?_
      rw [hprepared, hmade] at h
      cases h
    · next t₁ hmade => exact hopened t₁ ((hprepared t₁).mpr hmade)

theorem counts_addLine (o : Outlets) (path line : String) :
    (o.addLine path line).1.counts = o.counts := by
  have hending := ending_addLine o path line
  generalize o.addLine path line = ended at hending ⊢
  cases hending <;> rfl

/-- A line can be added where the path can be opened, and nowhere else. -/
theorem addLine_ok_iff (o : Outlets) (path line : String) :
    (o.addLine path line).2 = .ok () ↔ o.files.Openable path.toList := by
  constructor
  · intro hok
    have hending := ending_addLine o path line
    generalize o.addLine path line = ended at hending hok
    cases hending with
    | stuck | unopened | unwritten => cases hok
    | written prepared opened added => exact openable_of_append prepared opened added
  · rintro ⟨front, last, hopens⟩
    obtain ⟨t, hprepared, hmade⟩ := hopens.prepared
    obtain ⟨t', names, t'', hopen, hwrite⟩ := hopens.appended hmade (line.toList ++ ['\n'])
    have hending := ending_addLine o path line
    generalize o.addLine path line = ended at hending ⊢
    cases hending with
    | stuck grown unprepared => exact absurd hprepared (unprepared t)
    | unopened prepared closed =>
      obtain rfl := prepared.unique hprepared
      rw [hopen] at closed
      cases closed
    | unwritten prepared opened refused =>
      obtain rfl := prepared.unique hprepared
      rw [hopen] at opened
      cases opened
      rw [hwrite] at refused
      cases refused
    | written prepared opened added => rfl

/-- A line that cannot be added leaves directories at most. -/
theorem grown_of_not_openable {o : Outlets} {path : String} (h : ¬ o.files.Openable path.toList)
    (line : String) : Grown (o.addLine path line).1.files o.files := by
  have hfails := (not_congr (addLine_ok_iff o path line)).mpr h
  have hending := ending_addLine o path line
  generalize o.addLine path line = ended at hending hfails ⊢
  cases hending with
  | stuck grown unprepared => exact grown
  | unopened prepared closed => exact prepared.grown
  | @unwritten t₁ t₂ names _ fault prepared opened refused =>
    by_cases hfull : t₂.get? names = some .full
    · rw [eq_of_opened_full opened hfull]
      exact prepared.grown
    · obtain ⟨t', hwrite⟩ := write_of_space hfull (line.toList ++ ['\n'])
      rw [hwrite] at refused
      cases refused
  | written prepared opened added => exact absurd rfl hfails

/-- A line that can be added is, and more can be added there later. -/
theorem appended_of_openable {o : Outlets} {path : String} (h : o.files.Openable path.toList)
    (line : String) :
    Appended (o.addLine path line).1.files o.files path.toList (line.toList ++ ['\n']) ∧
      ∀ t, Later t (o.addLine path line).1.files → t.Openable path.toList := by
  have hok := (addLine_ok_iff o path line).mpr h
  obtain ⟨happended, hreaches⟩ := addLine_ok (Prod.ext rfl hok)
  obtain ⟨front, last, hopens⟩ := h
  have hfile : (o.addLine path line).1.files.get?
      ((o.addLine path line).1.files.resolve path.toList) =
        some (added (line.toList ++ ['\n']) (o.files.get? (o.files.resolve path.toList))) := by
    rw [happended.contains.resolve]
    exact happended.file
  refine ⟨happended, fun t hlater => hlater.openable hreaches hfile ?_ ?_⟩
  · exact fun hdirectory => hopens.noDirectory (added_eq_directory.mp hdirectory)
  · exact fun hfull => hopens.space (added_eq_full.mp hfull)

end Outlets
end TargetControl
