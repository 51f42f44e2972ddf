import TargetControl.Status

/-!
What the order of a keyed list is good for.

What insertions build from the empty list is in order, and a list in order is what inserting its
pairs in turn builds.  Such a list holds every key once, and it is determined by what looking up its
keys finds.  Entries are in order by what they are, so all of this holds of them.
-/

namespace TargetControl
namespace Keyed

variable {κ α : Type} [LT κ]

theorem Ordered.keys_nodup [Std.Irrefl (α := κ) (· < ·)] {entries : Keyed κ α}
    (h : Ordered entries) : entries.keys.Nodup := by
  refine List.Pairwise.map Prod.fst ?_ h
  intro a b hlt heq
  rw [heq] at hlt
  exact Std.Irrefl.irrefl _ hlt

variable [DecidableEq κ] [DecidableRel (α := κ) (· < ·)]

theorem mem_of_mem_ofPairs {pairs : List (κ × α)} {p : κ × α} (h : p ∈ ofPairs pairs) :
    p ∈ pairs := by
  have hfold : ∀ (pairs : List (κ × α)) (acc : Keyed κ α),
      p ∈ pairs.foldl (fun acc q => insert q.1 q.2 acc) acc → p ∈ pairs ∨ p ∈ acc := by
    intro pairs
    induction pairs with
    | nil => exact fun _ => .inr
    | cons q rest ih =>
      intro acc hp
      rcases ih _ hp with hp | hp
      · exact .inl (List.mem_cons_of_mem _ hp)
      · rcases mem_insert hp with rfl | hp
        · exact .inl List.mem_cons_self
        · exact .inr hp
  exact (hfold pairs [] h).resolve_right List.not_mem_nil

omit [LT κ] [DecidableRel (α := κ) (· < ·)] in
theorem mem_of_find? {entries : Keyed κ α} {key : κ} {value : α}
    (h : find? key entries = some value) : (key, value) ∈ entries := by
  induction entries with
  | nil => cases h
  | cons q rest ih =>
    simp only [find?] at h
    split at h
    · next hkey =>
      cases h
      exact hkey ▸ List.mem_cons_self
    · exact List.mem_cons_of_mem _ (ih h)

omit [LT κ] [DecidableRel (α := κ) (· < ·)] in
theorem mem_keys_iff {entries : Keyed κ α} {key : κ} :
    key ∈ entries.keys ↔ (find? key entries).isSome = true := by
  induction entries with
  | nil => simp [keys, find?]
  | cons q rest ih =>
    rw [keys, List.map_cons, List.mem_cons, find?]
    split
    · next hkey => simp [hkey]
    · next hkey =>
      rw [← ih]
      exact ⟨fun h => h.resolve_left hkey, .inr⟩

section Linear

variable [Std.Irrefl (α := κ) (· < ·)] [Std.Trichotomous (α := κ) (· < ·)]
  [Trans (α := κ) (· < ·) (· < ·) (· < ·)]

omit [Std.Irrefl (α := κ) (· < ·)] in
theorem ordered_ofPairs (pairs : List (κ × α)) : Ordered (ofPairs pairs) := by
  have hfold : ∀ (pairs : List (κ × α)) (acc : Keyed κ α), Ordered acc →
      Ordered (pairs.foldl (fun acc p => Keyed.insert p.1 p.2 acc) acc) := by
    intro pairs
    induction pairs with
    | nil => exact fun acc hacc => hacc
    | cons p rest ih => exact fun acc hacc => ih _ (hacc.insert p.1 p.2)
  exact hfold pairs [] .nil

omit [Std.Trichotomous (α := κ) (· < ·)] in
/-- A key above all others goes to the end. -/
theorem insert_of_above {entries : Keyed κ α} {key : κ} (h : ∀ p ∈ entries, p.1 < key) (value : α) :
    Keyed.insert key value entries = entries ++ [(key, value)] := by
  induction entries with
  | nil => rfl
  | cons q rest ih =>
    obtain ⟨k, v⟩ := q
    have hk : k < key := h (k, v) List.mem_cons_self
    have hne : key ≠ k := by
      intro heq
      rw [heq] at hk
      exact Std.Irrefl.irrefl _ hk
    have hnlt : ¬ key < k := fun hlt => Std.Irrefl.irrefl key (Trans.trans hlt hk)
    simp only [Keyed.insert]
    rw [if_neg hne, if_neg hnlt, ih fun p hp => h p (List.mem_cons_of_mem _ hp)]
    rfl

omit [Std.Trichotomous (α := κ) (· < ·)] in
theorem ofPairs_of_ordered {entries : Keyed κ α} (h : Ordered entries) :
    ofPairs entries = entries := by
  have hfold : ∀ (rest acc : Keyed κ α), Ordered (acc ++ rest) →
      rest.foldl (fun acc p => Keyed.insert p.1 p.2 acc) acc = acc ++ rest := by
    intro rest
    induction rest with
    | nil => exact fun acc _ => (List.append_nil acc).symm
    | cons p rest ih =>
      intro acc hacc
      have habove : ∀ q ∈ acc, q.1 < p.1 := fun q hq =>
        (List.pairwise_append.mp hacc).2.2 q hq p List.mem_cons_self
      rw [List.foldl_cons, insert_of_above habove, ih, List.append_assoc]
      · rfl
      · rw [List.append_assoc]
        exact hacc
  exact hfold entries [] h

omit [DecidableRel (α := κ) (· < ·)] [Std.Trichotomous (α := κ) (· < ·)]
  [Trans (α := κ) (· < ·) (· < ·) (· < ·)] in
theorem Ordered.find?_of_mem {entries : Keyed κ α} (h : Ordered entries) {key : κ} {value : α}
    (hmem : (key, value) ∈ entries) : find? key entries = some value := by
  induction entries with
  | nil => cases hmem
  | cons q rest ih =>
    obtain ⟨hbefore, hrest⟩ := List.pairwise_cons.mp h
    rw [find?]
    rcases List.mem_cons.mp hmem with heq | hmem
    · rw [← heq, if_pos rfl]
    · have hne : key ≠ q.1 := by
        intro heq
        have hlt := hbefore _ hmem
        rw [← heq] at hlt
        exact Std.Irrefl.irrefl _ hlt
      rw [if_neg hne]
      exact ih hrest hmem

omit [Std.Trichotomous (α := κ) (· < ·)] in
/-- A list in order grows by one, unless the key is there already. -/
theorem Ordered.length_insert {entries : Keyed κ α} (h : Ordered entries) (key : κ) (value : α) :
    (Keyed.insert key value entries).length =
      entries.length + if key ∈ entries.keys then 0 else 1 := by
  induction entries with
  | nil => rfl
  | cons q rest ih =>
    obtain ⟨k, v⟩ := q
    obtain ⟨hbefore, hrest⟩ := List.pairwise_cons.mp h
    have hkeys : keys ((k, v) :: rest) = k :: keys rest := rfl
    rw [hkeys]
    simp only [Keyed.insert]
    split
    · next heq => simp [heq]
    · next hne =>
      split
      · next hlt =>
        -- every key that follows is above the first, so none of them is the new one
        have habsent : key ∉ k :: keys rest := by
          intro hmem
          obtain ⟨p, hp, heq⟩ := List.mem_map.mp ((List.mem_cons.mp hmem).resolve_left hne)
          have hgt : k < key := heq ▸ hbefore p hp
          exact Std.Irrefl.irrefl key (Trans.trans hlt hgt)
        rw [if_neg habsent]
        rfl
      · rw [List.length_cons, List.length_cons, ih hrest]
        simp only [List.mem_cons, hne, false_or]
        omega

omit [DecidableRel (α := κ) (· < ·)] [Std.Trichotomous (α := κ) (· < ·)] in
/-- Two lists in order in which every key is bound alike are the same. -/
theorem Ordered.ext {a b : Keyed κ α} (ha : Ordered a) (hb : Ordered b)
    (h : ∀ key, find? key a = find? key b) : a = b := by
  have hsame : ∀ p, p ∈ a ↔ p ∈ b := fun p =>
    ⟨fun hp => mem_of_find? ((h p.1).symm.trans (ha.find?_of_mem hp)),
      fun hp => mem_of_find? ((h p.1).trans (hb.find?_of_mem hp))⟩
  have hnodup : ∀ {entries : Keyed κ α}, entries.keys.Nodup → entries.Nodup := fun hkeys =>
    List.Pairwise.of_map Prod.fst (fun _ _ hne heq => hne (congrArg Prod.fst heq)) hkeys
  have hperm : a.Perm b :=
    (List.perm_ext_iff_of_nodup (hnodup ha.keys_nodup) (hnodup hb.keys_nodup)).mpr hsame
  refine hperm.eq_of_pairwise (fun p q _ _ hpq hqp => ?_) ha hb
  exact absurd (Trans.trans hpq hqp) (Std.Irrefl.irrefl p.1)

end Linear

/-- Where no key occurs twice, a key is bound as in the pairs. -/
theorem find?_ofPairs {pairs : List (κ × α)} (h : (keys pairs).Nodup) (key : κ) :
    find? key (ofPairs pairs) = find? key pairs := by
  have hfold : ∀ (pairs acc : Keyed κ α), (keys pairs).Nodup →
      find? key (pairs.foldl (fun acc p => insert p.1 p.2 acc) acc) =
        (find? key pairs).or (find? key acc) := by
    intro pairs
    induction pairs with
    | nil => exact fun _ _ => rfl
    | cons p rest ih =>
      intro acc hnodup
      obtain ⟨hfirst, hrest⟩ := List.nodup_cons.mp hnodup
      rw [List.foldl_cons, ih _ hrest, find?_insert]
      simp only [find?]
      split
      · next heq =>
        have hnone : find? key rest = none := by
          rw [← Option.not_isSome_iff_eq_none, ← mem_keys_iff, heq]
          exact hfirst
        rw [hnone]
        rfl
      · rfl
  exact (hfold pairs [] h).trans (Option.or_none)

end Keyed

namespace Entries

theorem keys_nodup (entries : Entries) : entries.keys.Nodup := entries.ordered.keys_nodup

theorem mem_keys_iff {entries : Entries} {key : String} :
    key ∈ entries.keys ↔ (entries.find? key).isSome = true := Keyed.mem_keys_iff

theorem mem_list_iff (entries : Entries) (key : String) (v : Json) :
    (key, v) ∈ entries.list ↔ entries.find? key = some v :=
  ⟨entries.ordered.find?_of_mem, Keyed.mem_of_find?⟩

theorem eq_of_list {a b : Entries} (h : a.list = b.list) : a = b := by
  obtain ⟨list, ordered⟩ := a
  cases h
  rfl

/-- Entries under which every key is found alike are the same. -/
theorem ext {a b : Entries} (h : ∀ key, a.find? key = b.find? key) : a = b :=
  eq_of_list (a.ordered.ext b.ordered h)

theorem ofPairs_list (entries : Entries) : .ofPairs entries.list = entries := by
  apply eq_of_list
  rw [list_ofPairs, Keyed.ofPairs_of_ordered entries.ordered]

end Entries
end TargetControl
