import TargetControl.Json.Draft
import TargetControl.Proofs.KeyOrder

/-!
The numbers in a JSON tree, how deep it is, and what tidying and reading do to both.

A draft that has been made from a value is read as that value where there is room for it, and a
value that a draft is read as is never deeper than the room there was.  Tidying a value twice is
tidying it once.
-/

namespace TargetControl

/-! ## Steps that succeed -/

section

variable {ε α β : Type} {x : Except ε α}

theorem ok_of_bind {f : α → Except ε β} {b : β} (h : x >>= f = .ok b) :
    ∃ a, x = .ok a ∧ f a = .ok b := by
  cases x with
  | error e => cases h
  | ok a => exact ⟨a, rfl, h⟩

theorem ok_of_map {f : α → β} {b : β} (h : x.map f = .ok b) : ∃ a, x = .ok a ∧ f a = b := by
  cases x with
  | error e => cases h
  | ok a => exact ⟨a, rfl, Except.ok.inj h⟩

end

namespace Json

/-! ## Numbers and depth -/

mutual

/-- The numbers in a tree. -/
def numbers : Json → List Number
  | .number n => [n]
  | .array items => numbersIn items
  | .object members => numbersOf members
  | .null | .bool _ | .string _ => []

def numbersIn : List Json → List Number
  | [] => []
  | x :: rest => x.numbers ++ numbersIn rest

def numbersOf : List (String × Json) → List Number
  | [] => []
  | (_, x) :: rest => x.numbers ++ numbersOf rest

end

mutual

/-- How many brackets stand inside one another. -/
def depth : Json → Nat
  | .array items => depthIn items + 1
  | .object members => depthOf members + 1
  | .null | .bool _ | .number _ | .string _ => 0

def depthIn : List Json → Nat
  | [] => 0
  | x :: rest => max x.depth (depthIn rest)

def depthOf : List (String × Json) → Nat
  | [] => 0
  | (_, x) :: rest => max x.depth (depthOf rest)

end

theorem mem_numbersOf {n : Number} {members : List (String × Json)} :
    n ∈ numbersOf members ↔ ∃ p ∈ members, n ∈ p.2.numbers := by
  induction members with
  | nil => simp [numbersOf]
  | cons p rest ih => simp [numbersOf, ih]

theorem depthOf_le {members : List (String × Json)} {room : Nat} :
    depthOf members ≤ room ↔ ∀ p ∈ members, p.2.depth ≤ room := by
  induction members with
  | nil => simp [depthOf]
  | cons p rest ih => rw [depthOf, Nat.max_le, ih, List.forall_mem_cons]

/-! ## Tidying -/

theorem tidyMembers_eq_map (members : List (String × Json)) :
    tidyMembers members = members.map fun p => (p.1, p.2.tidy) := by
  induction members with
  | nil => rfl
  | cons p rest ih => rw [tidyMembers, ih, List.map_cons]

theorem tidyMembers_of_tidy {members : List (String × Json)} (h : ∀ p ∈ members, p.2.tidy = p.2) :
    tidyMembers members = members := by
  rw [tidyMembers_eq_map]
  exact (List.map_congr_left fun p hp => congrArg (Prod.mk p.1) (h p hp)).trans (List.map_id _)

theorem Number.tidy_tidy (n : Number) : n.tidy.tidy = n.tidy := by
  cases n with
  | integer n => rfl
  | real x =>
    rw [Number.tidy]
    split
    · next h => rw [Json.tidy, Number.tidy, if_pos h]
    · rfl

mutual

theorem tidy_tidy : ∀ j : Json, j.tidy.tidy = j.tidy
  | .null | .bool _ | .string _ => rfl
  | .number n => n.tidy_tidy
  | .array items => congrArg Json.array (tidyItems_tidyItems items)
  | .object members => by
    have hall : ∀ p ∈ Keyed.ofPairs (tidyMembers members), p.2.tidy = p.2 := fun p hp =>
      tidy_of_mem members p (Keyed.mem_of_mem_ofPairs hp)
    have hordered := Keyed.ordered_ofPairs (tidyMembers members)
    rw [tidy, tidy, tidyMembers_of_tidy hall, Keyed.ofPairs_of_ordered hordered]

theorem tidyItems_tidyItems : ∀ items : List Json, tidyItems (tidyItems items) = tidyItems items
  | [] => rfl
  | x :: rest => by rw [tidyItems, tidyItems, tidy_tidy x, tidyItems_tidyItems rest]

theorem tidy_of_mem : ∀ (members : List (String × Json)), ∀ p ∈ tidyMembers members,
    p.2.tidy = p.2
  | [], _, hp => nomatch hp
  | (k, x) :: rest, p, hp => by
    rcases List.mem_cons.mp hp with rfl | hp
    · exact tidy_tidy x
    · exact tidy_of_mem rest p hp

end

theorem Number.numbers_tidy {m n : Number} (h : n ∈ m.tidy.numbers) : n = m := by
  cases m with
  | integer m => exact List.mem_singleton.mp h
  | real x =>
    rw [Number.tidy] at h
    split at h
    · exact List.mem_singleton.mp h
    · cases h

mutual

theorem numbers_tidy {n : Number} : ∀ j : Json, n ∈ j.tidy.numbers → n ∈ j.numbers
  | .null, h | .bool _, h | .string _, h => h
  | .number m, h => List.mem_singleton.mpr (Number.numbers_tidy h)
  | .array items, h => numbersIn_tidyItems items h
  | .object members, h => by
    obtain ⟨p, hp, hn⟩ := mem_numbersOf.mp h
    exact numbersOf_tidyMembers members (mem_numbersOf.mpr ⟨p, Keyed.mem_of_mem_ofPairs hp, hn⟩)

theorem numbersIn_tidyItems {n : Number} : ∀ items : List Json,
    n ∈ numbersIn (tidyItems items) → n ∈ numbersIn items
  | [], h => h
  | x :: rest, h =>
    List.mem_append.mpr ((List.mem_append.mp h).imp (numbers_tidy x) (numbersIn_tidyItems rest))

theorem numbersOf_tidyMembers {n : Number} : ∀ members : List (String × Json),
    n ∈ numbersOf (tidyMembers members) → n ∈ numbersOf members
  | [], h => h
  | (_, x) :: rest, h =>
    List.mem_append.mpr ((List.mem_append.mp h).imp (numbers_tidy x) (numbersOf_tidyMembers rest))

end

theorem Number.depth_tidy (n : Number) : n.tidy.depth = 0 := by
  cases n with
  | integer n => rfl
  | real x =>
    rw [Number.tidy]
    split <;> rfl

mutual

theorem depth_tidy : ∀ j : Json, j.tidy.depth ≤ j.depth
  | .null | .bool _ | .string _ => Nat.le_refl _
  | .number n => Nat.le_of_eq n.depth_tidy
  | .array items => Nat.succ_le_succ (depthIn_tidyItems items)
  | .object members => by
    have hmembers := depthOf_le.mp (depthOf_tidyMembers members)
    refine Nat.succ_le_succ (depthOf_le.mpr fun p hp => ?_)
    exact hmembers p (Keyed.mem_of_mem_ofPairs hp)

theorem depthIn_tidyItems : ∀ items : List Json, depthIn (tidyItems items) ≤ depthIn items
  | [] => Nat.le_refl _
  | x :: rest => by
    have hfirst := depth_tidy x
    have hrest := depthIn_tidyItems rest
    rw [tidyItems, depthIn, depthIn]
    omega

theorem depthOf_tidyMembers : ∀ members : List (String × Json),
    depthOf (tidyMembers members) ≤ depthOf members
  | [] => Nat.le_refl _
  | (_, x) :: rest => by
    have hfirst := depth_tidy x
    have hrest := depthOf_tidyMembers rest
    rw [tidyMembers, depthOf, depthOf]
    omega

end

/-! ## Drafts -/

mutual

/-- The numbers in a draft. -/
def Draft.numbers : Draft → List Number
  | .number n => [n]
  | .array items _ => Draft.numbersIn items
  | .object members _ => Draft.numbersOf members
  | .null | .bool _ | .overflow | .string _ | .unpaired | .brokenText .. | .brokenToken ..
  | .missing => []

def Draft.numbersIn : List Draft → List Number
  | [] => []
  | d :: rest => d.numbers ++ Draft.numbersIn rest

def Draft.numbersOf : List (Draft × Draft) → List Number
  | [] => []
  | (_, d) :: rest => d.numbers ++ Draft.numbersOf rest

end

/-- What a draft is read as is no deeper than the room there was, and its numbers are the
draft's. -/
structure Within (room : Nat) (numbers : List Number) (j : Json) : Prop where
  depth : j.depth ≤ room
  numbers : ∀ n ∈ j.numbers, n ∈ numbers

mutual

theorem Draft.within_read : ∀ (d : Draft) (room : Nat) (j : Json),
    d.read room = .ok j → Within room d.numbers j
  | .null, _, _, h | .bool _, _, _, h | .string _, _, _, h | .number _, _, _, h => by
    cases h
    exact ⟨Nat.zero_le _, fun n hn => hn⟩
  | .overflow, _, _, h | .unpaired, _, _, h | .brokenText .., _, _, h | .brokenToken .., _, _, h
  | .missing, _, _, h => nomatch h
  | .array items ending, room, j, h => by
    rw [Draft.read] at h
    split at h
    · cases h
    · next hroom =>
      obtain ⟨xs, hxs, rfl⟩ := ok_of_map h
      obtain ⟨hdepth, hnumbers⟩ := within_readItems items ending (room - 1) xs hxs
      exact ⟨by rw [depth]; omega, hnumbers⟩
  | .object members ending, room, j, h => by
    rw [Draft.read] at h
    split at h
    · cases h
    · next hroom =>
      obtain ⟨ms, hms, rfl⟩ := ok_of_map h
      obtain ⟨hdepth, hnumbers⟩ := within_readMembers members ending (room - 1) ms hms
      exact ⟨by rw [depth]; omega, hnumbers⟩

theorem Draft.within_readItems : ∀ (ds : List Draft) (ending : Ending) (room : Nat)
    (xs : List Json), Draft.readItems room ds ending = .ok xs →
    depthIn xs ≤ room ∧ ∀ n ∈ Json.numbersIn xs, n ∈ Draft.numbersIn ds
  | [], _, _, _, h => by
    obtain ⟨_, _, rfl⟩ := ok_of_map h
    exact ⟨Nat.zero_le _, fun _ hn => hn⟩
  | d :: rest, ending, room, xs, h => by
    obtain ⟨x, hx, h⟩ := ok_of_bind h
    obtain ⟨xs, hxs, h⟩ := ok_of_bind h
    cases h
    have hfirst := within_read d room x hx
    obtain ⟨hdepth, hnumbers⟩ := within_readItems rest ending room xs hxs
    refine ⟨Nat.max_le.mpr ⟨hfirst.depth, hdepth⟩, fun n hn => List.mem_append.mpr ?_⟩
    exact (List.mem_append.mp hn).imp (hfirst.numbers n) (hnumbers n)

theorem Draft.within_readMembers : ∀ (ds : List (Draft × Draft)) (ending : Ending) (room : Nat)
    (ms : List (String × Json)), Draft.readMembers room ds ending = .ok ms →
    depthOf ms ≤ room ∧ ∀ n ∈ Json.numbersOf ms, n ∈ Draft.numbersOf ds
  | [], _, _, _, h => by
    obtain ⟨_, _, rfl⟩ := ok_of_map h
    exact ⟨Nat.zero_le _, fun _ hn => hn⟩
  | (key, d) :: rest, ending, room, ms, h => by
    obtain ⟨k, _, h⟩ := ok_of_bind h
    obtain ⟨x, hx, h⟩ := ok_of_bind h
    obtain ⟨ms, hms, h⟩ := ok_of_bind h
    cases h
    have hfirst := within_read d room x hx
    obtain ⟨hdepth, hnumbers⟩ := within_readMembers rest ending room ms hms
    refine ⟨Nat.max_le.mpr ⟨hfirst.depth, hdepth⟩, fun n hn => List.mem_append.mpr ?_⟩
    exact (List.mem_append.mp hn).imp (hfirst.numbers n) (hnumbers n)

end

mutual

/-- A value is read back from its draft where there is room for it. -/
theorem Draft.read_ofJson : ∀ (j : Json) (room : Nat), j.depth ≤ room →
    (Draft.ofJson j).read room = .ok j
  | .null, _, _ | .bool _, _, _ | .string _, _, _ | .number _, _, _ => rfl
  | .array items, room, h => by
    rw [depth] at h
    rw [Draft.ofJson, Draft.read, if_neg (by omega), readItems_ofItems items _ (by omega)]
    rfl
  | .object members, room, h => by
    rw [depth] at h
    rw [Draft.ofJson, Draft.read, if_neg (by omega), readMembers_ofMembers members _ (by omega)]
    rfl

theorem Draft.readItems_ofItems : ∀ (items : List Json) (room : Nat), depthIn items ≤ room →
    Draft.readItems room (Draft.ofItems items) .closed = .ok items
  | [], _, _ => rfl
  | x :: rest, room, h => by
    obtain ⟨hfirst, hrest⟩ := Nat.max_le.mp h
    rw [Draft.ofItems, Draft.readItems, read_ofJson x room hfirst,
      readItems_ofItems rest room hrest]
    rfl

theorem Draft.readMembers_ofMembers : ∀ (members : List (String × Json)) (room : Nat),
    depthOf members ≤ room →
    Draft.readMembers room (Draft.ofMembers members) .closed = .ok members
  | [], _, _ => rfl
  | (k, x) :: rest, room, h => by
    obtain ⟨hfirst, hrest⟩ := Nat.max_le.mp h
    rw [Draft.ofMembers, Draft.readMembers, read_ofJson x room hfirst,
      readMembers_ofMembers rest room hrest]
    rfl

end

end Json
end TargetControl
