/-!
Association lists in increasing order of their keys.

`insert` keeps the order and replaces the value of a key that is there already, so a list built
by insertions from the empty one holds every key once.  Texts are ordered by code point, which
is also the order of their UTF-8 bytes.  Looking a key up after an operation is described by
`find?_insert` and `find?_erase`, and the order that operations keep is `Ordered`.
-/

namespace TargetControl

/-- Keys and values, in increasing order of the keys. -/
abbrev Keyed (κ α : Type) := List (κ × α)

namespace Keyed

variable {κ α : Type} [DecidableEq κ] [LT κ] [DecidableRel (α := κ) (· < ·)]

def find? (key : κ) : Keyed κ α → Option α
  | [] => none
  | (k, v) :: rest => if key = k then some v else find? key rest

/-- The list with a key bound to a value, in its place in the order. -/
def insert (key : κ) (value : α) : Keyed κ α → Keyed κ α
  | [] => [(key, value)]
  | (k, v) :: rest =>
    if key = k then (key, value) :: rest
    else if key < k then (key, value) :: (k, v) :: rest
    else (k, v) :: insert key value rest

/-- The list without a key. -/
def erase (key : κ) : Keyed κ α → Keyed κ α
  | [] => []
  | (k, v) :: rest => if key = k then erase key rest else (k, v) :: erase key rest

/-- The list that inserting the given pairs in turn builds; of two equal keys the later wins. -/
def ofPairs (pairs : List (κ × α)) : Keyed κ α :=
  pairs.foldl (fun acc p => insert p.1 p.2 acc) []

/-- The keys, in increasing order. -/
def keys (entries : Keyed κ α) : List κ := entries.map Prod.fst

theorem find?_insert (key key' : κ) (value : α) (entries : Keyed κ α) :
    find? key' (insert key value entries) =
      if key' = key then some value else find? key' entries := by
  induction entries with
  | nil => simp only [insert, find?]
  | cons p rest ih =>
    obtain ⟨k, v⟩ := p
    simp only [insert]
    split
    · next h =>
      subst h
      simp only [find?]
      split <;> rfl
    · next h =>
      split
      · simp only [find?]
      · simp only [find?, ih]
        split
        · next h' =>
          subst h'
          rw [if_neg (fun e => h e.symm)]
        · rfl

omit [LT κ] [DecidableRel (α := κ) (· < ·)] in
theorem find?_erase (key key' : κ) (entries : Keyed κ α) :
    find? key' (erase key entries) = if key' = key then none else find? key' entries := by
  induction entries with
  | nil => simp only [erase, find?, ite_self]
  | cons p rest ih =>
    obtain ⟨k, v⟩ := p
    simp only [erase]
    split
    · next h =>
      subst h
      rw [ih]
      simp only [find?]
      split <;> rfl
    · next h =>
      simp only [find?, ih]
      split
      · next h' =>
        subst h'
        rw [if_neg (fun e => h e.symm)]
      · rfl

/-! ## Order -/

/-- The keys increase. -/
def Ordered (entries : Keyed κ α) : Prop := entries.Pairwise fun a b => a.1 < b.1

omit [DecidableEq κ] [DecidableRel (α := κ) (· < ·)] in
theorem Ordered.nil : Ordered ([] : Keyed κ α) := List.Pairwise.nil

theorem mem_insert {key : κ} {value : α} {entries : Keyed κ α} {p : κ × α}
    (h : p ∈ insert key value entries) : p = (key, value) ∨ p ∈ entries := by
  induction entries with
  | nil => exact .inl (List.mem_singleton.mp h)
  | cons q rest ih =>
    obtain ⟨k, v⟩ := q
    simp only [insert] at h
    split at h
    · rcases List.mem_cons.mp h with h | h
      · exact .inl h
      · exact .inr (List.mem_cons_of_mem _ h)
    · split at h
      · exact List.mem_cons.mp h
      · rcases List.mem_cons.mp h with h | h
        · exact .inr (h ▸ List.mem_cons_self)
        · exact (ih h).imp_right (List.mem_cons_of_mem _)

omit [LT κ] [DecidableRel (α := κ) (· < ·)] in
theorem mem_of_mem_erase {key : κ} {entries : Keyed κ α} {p : κ × α} (h : p ∈ erase key entries) :
    p ∈ entries := by
  induction entries with
  | nil => exact h
  | cons q rest ih =>
    simp only [erase] at h
    split at h
    · exact List.mem_cons_of_mem _ (ih h)
    · rcases List.mem_cons.mp h with h | h
      · exact h ▸ List.mem_cons_self
      · exact List.mem_cons_of_mem _ (ih h)

omit [DecidableRel (α := κ) (· < ·)] in
theorem Ordered.erase {entries : Keyed κ α} (h : Ordered entries) (key : κ) :
    Ordered (Keyed.erase key entries) := by
  induction entries with
  | nil => exact .nil
  | cons q rest ih =>
    obtain ⟨hbefore, hrest⟩ := List.pairwise_cons.mp h
    simp only [Keyed.erase]
    split
    · exact ih hrest
    · exact List.pairwise_cons.mpr ⟨fun p hp => hbefore p (mem_of_mem_erase hp), ih hrest⟩

section Linear

variable [Std.Trichotomous (α := κ) (· < ·)] [Trans (α := κ) (· < ·) (· < ·) (· < ·)]

theorem Ordered.insert {entries : Keyed κ α} (h : Ordered entries) (key : κ) (value : α) :
    Ordered (Keyed.insert key value entries) := by
  induction entries with
  | nil => exact List.pairwise_singleton _ _
  | cons q rest ih =>
    obtain ⟨k, v⟩ := q
    obtain ⟨hbefore, hrest⟩ := List.pairwise_cons.mp h
    simp only [Keyed.insert]
    split
    · next heq =>
      subst heq
      exact List.pairwise_cons.mpr ⟨hbefore, hrest⟩
    · next hne =>
      split
      · next hlt =>
        refine List.pairwise_cons.mpr ⟨fun p hp => ?_, h⟩
        rcases List.mem_cons.mp hp with rfl | hp
        · exact hlt
        · exact Trans.trans hlt (hbefore p hp)
      · next hnlt =>
        -- the key belongs behind the first one, and so does everything that follows it
        have hgt : k < key := by
          rcases Std.lt_trichotomy key k with hlt | heq | hgt
          · exact absurd hlt hnlt
          · exact absurd heq hne
          · exact hgt
        refine List.pairwise_cons.mpr ⟨fun p hp => ?_, ih hrest⟩
        rcases mem_insert hp with rfl | hp
        · exact hgt
        · exact hbefore p hp

end Linear

end Keyed
end TargetControl
