import Mathlib.Data.List.TakeWhile
import TargetControl.Files.Path

/-!
The parent of a path.

Of the segments of a path some count, and the others carry no meaning.  The parent of a path has all
the segments that count but the last: `stops_parent`.  It is the beginning of the path, so it is
shorter and has no characters of its own, and either a segment that counts stands at its end or no
segment of it counts.
-/

namespace TargetControl
namespace Path

/-! ## Segments -/

theorem segments_ne_nil (path : List Char) : segments path ≠ [] := by
  cases path with
  | nil => exact List.cons_ne_nil _ _
  | cons c rest =>
    unfold segments
    by_cases hc : c = '/'
    · rw [if_pos hc]
      exact List.cons_ne_nil _ _
    · rw [if_neg hc]
      split <;> exact List.cons_ne_nil _ _

theorem segments_cons_slash (path : List Char) : segments ('/' :: path) = [] :: segments path :=
  if_pos rfl

theorem segments_cons_of_ne {c : Char} (hc : c ≠ '/') {path first : List Char}
    {others : List (List Char)} (h : segments path = first :: others) :
    segments (c :: path) = (c :: first) :: others := by
  rw [segments, if_neg hc, h]

theorem segments_append_slash (first second : List Char) :
    segments (first ++ '/' :: second) = segments first ++ segments second := by
  induction first with
  | nil => exact segments_cons_slash second
  | cons c rest ih =>
    by_cases hc : c = '/'
    · rw [hc, List.cons_append, segments_cons_slash, segments_cons_slash, ih, List.cons_append]
    · obtain ⟨segment, others, hrest⟩ := List.exists_cons_of_ne_nil (segments_ne_nil rest)
      rw [hrest, List.cons_append] at ih
      rw [List.cons_append, segments_cons_of_ne hc ih, segments_cons_of_ne hc hrest,
        List.cons_append]

theorem segments_of_slashless {path : List Char} (h : '/' ∉ path) : segments path = [path] := by
  induction path with
  | nil => rfl
  | cons c rest ih =>
    rw [List.mem_cons, not_or] at h
    exact segments_cons_of_ne (fun hc => h.1 hc.symm) (ih h.2)

/-- The segments of a path that count. -/
def stops (path : List Char) : List (List Char) := (segments path).filter counts

theorem stops_append_slash (first second : List Char) :
    stops (first ++ '/' :: second) = stops first ++ stops second := by
  rw [stops, segments_append_slash, List.filter_append]
  rfl

theorem stops_cons_slash (path : List Char) : stops ('/' :: path) = stops path :=
  stops_append_slash [] path

theorem stops_concat_slash (path : List Char) : stops (path ++ ['/']) = stops path := by
  rw [stops_append_slash]
  exact List.append_nil _

/-! ## Idle ends -/

theorem stops_dropIdle (fuel : Nat) (reversed : List Char) :
    stops (dropIdle fuel reversed).reverse = stops reversed.reverse := by
  fun_induction dropIdle fuel reversed with
  | case1 => rfl
  | case2 fuel rest ih => rw [ih, List.reverse_cons, stops_concat_slash]
  | case3 => rfl
  | case4 fuel rest ih =>
    have hdot : ('.' :: '/' :: rest).reverse = rest.reverse ++ '/' :: ['.'] := by simp
    rw [ih, hdot, stops_append_slash]
    exact (List.append_nil _).symm
  | case5 => rfl

theorem dropIdle_suffix (fuel : Nat) (reversed : List Char) :
    dropIdle fuel reversed <:+ reversed := by
  fun_induction dropIdle fuel reversed with
  | case1 => exact List.suffix_rfl
  | case2 fuel rest ih => exact ih.trans (List.suffix_cons _ _)
  | case3 => exact List.nil_suffix
  | case4 fuel rest ih => exact ih.trans ((List.suffix_cons _ _).trans (List.suffix_cons _ _))
  | case5 => exact List.suffix_rfl

/-- What is left without idle segments at its end is nothing, or ends in a segment that counts. -/
theorem counts_dropIdle {fuel : Nat} {reversed : List Char} (hfuel : reversed.length ≤ fuel)
    (hne : dropIdle fuel reversed ≠ []) :
    counts ((dropIdle fuel reversed).takeWhile (· ≠ '/')).reverse = true := by
  fun_induction dropIdle fuel reversed with
  | case1 => exact absurd (List.eq_nil_of_length_eq_zero (Nat.le_zero.mp hfuel)) hne
  | case2 fuel rest ih => exact ih (Nat.le_of_succ_le_succ hfuel) hne
  | case3 => exact absurd rfl hne
  | case4 fuel rest ih =>
    rw [List.length_cons, List.length_cons] at hfuel
    exact ih (by omega) hne
  | case5 fuel reversed hslash hdot hdotSlash =>
    obtain ⟨c, rest, rfl⟩ := List.exists_cons_of_ne_nil hne
    have hc : c ≠ '/' := fun heq => hslash rest (by rw [heq])
    rw [List.takeWhile_cons_of_pos (by simpa using hc), List.reverse_cons]
    -- the segment is a dot only if nothing stands in front of the dot, or a slash does
    cases hrest : rest.takeWhile (· ≠ '/') with
    | nil =>
      have hcdot : c ≠ '.' := by
        intro heq
        subst heq
        cases rest with
        | nil => exact hdot rfl
        | cons d rest =>
          by_cases hd : d = '/'
          · exact hdotSlash rest (by rw [hd])
          · rw [List.takeWhile_cons_of_pos (by simpa using hd)] at hrest
            cases hrest
      simp [counts, hcdot]
    | cons d more =>
      have hlong : (d :: more).reverse ++ [c] ≠ ['.'] := by
        intro heq
        have hlength := congrArg List.length heq
        simp at hlength
      simpa [counts] using hlong

/-- The last segment of a path, seen from the back. -/
theorem segments_reverse (reversed : List Char) :
    (reversed.dropWhile (· ≠ '/') = [] ∧
      segments reversed.reverse = [(reversed.takeWhile (· ≠ '/')).reverse]) ∨
    ∃ front, reversed.dropWhile (· ≠ '/') = '/' :: front ∧
      segments reversed.reverse =
        segments front.reverse ++ [(reversed.takeWhile (· ≠ '/')).reverse] := by
  have hparts := List.takeWhile_append_dropWhile (p := (· ≠ '/')) (l := reversed)
  have hslashless : '/' ∉ (reversed.takeWhile (· ≠ '/')).reverse := by
    intro hmem
    simpa using List.mem_takeWhile_imp (List.mem_reverse.mp hmem)
  cases hdrop : reversed.dropWhile (· ≠ '/') with
  | nil =>
    rw [hdrop, List.append_nil] at hparts
    refine Or.inl ⟨rfl, ?_⟩
    rw [← segments_of_slashless hslashless, hparts]
  | cons c front =>
    have hc : c = '/' := by
      have hhead := List.head?_dropWhile_not (· ≠ '/') reversed
      rw [hdrop] at hhead
      simpa using hhead
    subst hc
    refine Or.inr ⟨front, rfl, ?_⟩
    rw [hdrop] at hparts
    have hreversed := congrArg List.reverse hparts
    rw [List.reverse_append, List.reverse_cons, List.append_assoc] at hreversed
    rw [← hreversed]
    exact (segments_append_slash ..).trans (congrArg _ (segments_of_slashless hslashless))

/-! ## Heads -/

theorem head_append (path : List Char) : head path ++ path.drop (head path).length = path := by
  unfold head
  split <;> rfl

/-- The head of a path does not count. -/
theorem stops_head {path w : List Char} (h : w <+: path.drop (head path).length) :
    stops (head path ++ w) = stops w := by
  unfold head at h ⊢
  split
  · exact stops_cons_slash w
  · rw [List.prefix_nil.mp h]
    rfl
  · next rest =>
    cases w with
    | nil => rfl
    | cons c w =>
      obtain ⟨rfl, -⟩ := List.cons_prefix_cons.mp h
      rw [stops_cons_slash]
      exact stops_append_slash ['.'] w
  · rfl

theorem stops_body (path : List Char) : stops (body path) = stops path := by
  have hpath : stops (head path ++ path.drop (head path).length) = _ :=
    stops_head List.prefix_rfl
  rw [head_append] at hpath
  rw [body, stops_dropIdle, List.reverse_reverse, hpath]

theorem prefix_body (path : List Char) : body path <+: path.drop (head path).length := by
  have hsuffix := dropIdle_suffix (path.drop (head path).length).reverse.length
    (path.drop (head path).length).reverse
  rw [← List.reverse_prefix, List.reverse_reverse] at hsuffix
  exact hsuffix

/-! ## Parents -/

/-- A path whose last segment counts, or no segment of which does. -/
def Trimmed (path : List Char) : Prop :=
  stops path = [] ∨ ∃ front last, segments path = front ++ [last] ∧ counts last = true

theorem trimmed_head {path w : List Char} (h : w <+: path.drop (head path).length)
    (hw : Trimmed w) : Trimmed (head path ++ w) := by
  rcases hw with hnone | ⟨front, last, hsegments, hlast⟩
  · exact Or.inl ((stops_head h).trans hnone)
  · unfold head at h ⊢
    split
    · refine Or.inr ⟨[] :: front, last, ?_, hlast⟩
      rw [List.singleton_append, segments_cons_slash, hsegments, List.cons_append]
    · rw [List.prefix_nil.mp h]
      exact Or.inl rfl
    · next rest =>
      cases w with
      | nil => exact Or.inl rfl
      | cons c w =>
        obtain ⟨rfl, -⟩ := List.cons_prefix_cons.mp h
        rw [segments_cons_slash] at hsegments
        cases front with
        | nil => exact absurd (List.cons.inj hsegments).2 (segments_ne_nil w)
        | cons first front =>
          obtain ⟨-, hw⟩ := List.cons.inj hsegments
          refine Or.inr ⟨['.'] :: front, last, ?_, hlast⟩
          have hdot : segments (['.'] ++ '/' :: w) = segments ['.'] ++ segments w :=
            segments_append_slash ['.'] w
          rw [hdot, hw]
          rfl
    · exact Or.inr ⟨front, last, hsegments, hlast⟩

theorem trimmed_dropIdle (front : List Char) :
    Trimmed (dropIdle front.length front).reverse := by
  by_cases hnil : dropIdle front.length front = []
  · rw [hnil]
    exact Or.inl rfl
  · have hlast := counts_dropIdle (Nat.le_refl front.length) hnil
    rcases segments_reverse (dropIdle front.length front) with ⟨-, hone⟩ | ⟨more, -, hmore⟩
    · exact Or.inr ⟨[], _, hone, hlast⟩
    · exact Or.inr ⟨_, _, hmore, hlast⟩

/-- The body of a path without its last segment. -/
def front (body : List Char) : List Char :=
  (dropIdle (body.reverse.dropWhile (· ≠ '/')).length
    (body.reverse.dropWhile (· ≠ '/'))).reverse

theorem counts_body {path : List Char} (h : body path ≠ []) :
    counts ((body path).reverse.takeWhile (· ≠ '/')).reverse = true := by
  rw [body, List.reverse_reverse]
  refine counts_dropIdle (Nat.le_refl _) fun hnil => h ?_
  rw [body, hnil]
  rfl

section

variable {body : List Char}

theorem prefix_front (body : List Char) : front body <+: body := by
  have hsuffix := dropIdle_suffix (body.reverse.dropWhile (· ≠ '/')).length
    (body.reverse.dropWhile (· ≠ '/'))
  have hprefix := List.reverse_prefix.mpr (hsuffix.trans (List.dropWhile_suffix (· ≠ '/')))
  rwa [List.reverse_reverse] at hprefix

theorem length_front_lt (h : counts (body.reverse.takeWhile (· ≠ '/')).reverse = true) :
    (front body).length < body.length := by
  have hparts := congrArg List.length
    (List.takeWhile_append_dropWhile (p := (· ≠ '/')) (l := body.reverse))
  rw [List.length_append, List.length_reverse] at hparts
  have hshort := (dropIdle_suffix (body.reverse.dropWhile (· ≠ '/')).length
    (body.reverse.dropWhile (· ≠ '/'))).length_le
  have hpositive : 0 < (body.reverse.takeWhile (· ≠ '/')).length := by
    refine List.length_pos_iff.mpr fun hnil => ?_
    rw [hnil] at h
    cases h
  rw [front, List.length_reverse]
  omega

theorem stops_front (h : counts (body.reverse.takeWhile (· ≠ '/')).reverse = true) :
    stops body = stops (front body) ++ [(body.reverse.takeWhile (· ≠ '/')).reverse] := by
  rw [front, stops_dropIdle]
  rcases segments_reverse body.reverse with ⟨hnil, hone⟩ | ⟨more, hsome, hmore⟩
  · rw [List.reverse_reverse] at hone
    rw [hnil, stops, hone, List.filter_cons_of_pos h]
    rfl
  · rw [List.reverse_reverse] at hmore
    rw [hsome, List.reverse_cons, stops_concat_slash, stops, hmore, List.filter_append,
      List.filter_cons_of_pos h]
    rfl

end

/-- What the parent of a path is. -/
theorem parent?_eq_some {path parent : List Char} (h : parent? path = some parent) :
    (parent = [] ∧ body path = [] ∧ head path = ['.']) ∨
      parent = head path ++ front (body path) ∧ body path ≠ [] := by
  unfold parent? at h
  split at h
  · next hnil =>
    split at h
    · next hhead => exact Or.inl ⟨(Option.some.inj h).symm, hnil, hhead⟩
    · cases h
  · next hne => exact Or.inr ⟨(Option.some.inj h).symm, hne⟩

theorem stops_of_parent_none {path : List Char} (h : parent? path = none) : stops path = [] := by
  unfold parent? at h
  split at h
  · next hnil =>
    rw [← stops_body, hnil]
    rfl
  · cases h

theorem isAbsolute_cons_of_ne {c : Char} (hc : c ≠ '/') (rest : List Char) :
    isAbsolute (c :: rest) = false := by
  unfold isAbsolute
  split
  · next heq => exact absurd (List.cons.inj heq).1 hc
  · rfl

section

variable {path parent : List Char} (h : parent? path = some parent)

include h

/-- The parent of a path has the segments that count but the last. -/
theorem stops_parent (hstops : stops path ≠ []) : ∃ last, stops path = stops parent ++ [last] := by
  rcases parent?_eq_some h with ⟨-, hnil, -⟩ | ⟨rfl, hne⟩
  · rw [← stops_body, hnil] at hstops
    exact absurd rfl hstops
  · rw [stops_head ((prefix_front _).trans (prefix_body path)), ← stops_body]
    exact ⟨_, stops_front (counts_body hne)⟩

theorem prefix_parent : parent <+: path := by
  rcases parent?_eq_some h with ⟨rfl, -, -⟩ | ⟨rfl, -⟩
  · exact List.nil_prefix
  · have hprefix := (List.prefix_append_right_inj (head path)).mpr
      ((prefix_front _).trans (prefix_body path))
    rwa [head_append] at hprefix

theorem length_parent_lt : parent.length < path.length := by
  have hpath := congrArg List.length (head_append path)
  rw [List.length_append] at hpath
  rcases parent?_eq_some h with ⟨rfl, -, hhead⟩ | ⟨rfl, hne⟩
  · rw [hhead, List.length_singleton] at hpath
    rw [List.length_nil]
    omega
  · have hbody := (prefix_body path).length_le
    have hfront := length_front_lt (counts_body hne)
    rw [List.length_append]
    omega

theorem trimmed_parent : Trimmed parent := by
  rcases parent?_eq_some h with ⟨rfl, -, -⟩ | ⟨rfl, -⟩
  · exact Or.inl rfl
  · exact trimmed_head ((prefix_front _).trans (prefix_body path)) (trimmed_dropIdle _)

theorem isAbsolute_parent : isAbsolute parent = isAbsolute path := by
  cases parent with
  | nil =>
    cases path with
    | nil => rfl
    | cons c rest =>
      by_cases hc : c = '/'
      · subst hc
        rcases parent?_eq_some h with ⟨-, -, hhead⟩ | ⟨hparent, -⟩
        · cases hhead
        · cases hparent
      · exact (isAbsolute_cons_of_ne hc rest).symm
  | cons c rest =>
    obtain ⟨more, rfl⟩ := prefix_parent h
    rw [List.cons_append]
    by_cases hc : c = '/'
    · rw [hc]
      rfl
    · rw [isAbsolute_cons_of_ne hc, isAbsolute_cons_of_ne hc]

end

end Path
end TargetControl
