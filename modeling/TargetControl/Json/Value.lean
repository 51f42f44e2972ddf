import TargetControl.Number.Binary64
import TargetControl.Text.Keyed

/-!
JSON values.

An object is the list of its members in the order in which they stand in a text, a key possibly
more than once.  `tidy` is the value that such a tree stands for: members in the order of their
keys, of two equal keys the later one, and no number that JSON cannot write.
-/

namespace TargetControl

namespace Json

/-- A number is whole or a double. -/
inductive Number where
  | integer (n : Int)
  | real (x : Binary64)
deriving DecidableEq, Repr, Inhabited

end Json

inductive Json where
  | null
  | bool (b : Bool)
  | number (n : Json.Number)
  | string (s : String)
  | array (items : List Json)
  | object (members : List (String × Json))
deriving Repr, Inhabited

namespace Json

def ofNat (n : Nat) : Json := .number (.integer n)

/-! ## Equality -/

mutual

/-- Whether two values are the same tree. -/
def same : Json → Json → Bool
  | .null, .null => true
  | .bool a, .bool b => a == b
  | .number a, .number b => a == b
  | .string a, .string b => a == b
  | .array a, .array b => sameItems a b
  | .object a, .object b => sameMembers a b
  | _, _ => false

def sameItems : List Json → List Json → Bool
  | [], [] => true
  | a :: as, b :: bs => same a b && sameItems as bs
  | _, _ => false

def sameMembers : List (String × Json) → List (String × Json) → Bool
  | [], [] => true
  | (k, a) :: as, (l, b) :: bs => k == l && same a b && sameMembers as bs
  | _, _ => false

end

mutual

theorem eq_of_same : ∀ (a b : Json), same a b = true → a = b
  | .null, b, h => by cases b <;> simp [same] at h ⊢
  | .bool _, b, h => by cases b <;> simp [same] at h ⊢; exact h
  | .number _, b, h => by cases b <;> simp [same] at h ⊢; exact h
  | .string _, b, h => by cases b <;> simp [same] at h ⊢; exact h
  | .array xs, b, h => by
    cases b <;> simp [same] at h ⊢
    exact eq_of_sameItems xs _ h
  | .object xs, b, h => by
    cases b <;> simp [same] at h ⊢
    exact eq_of_sameMembers xs _ h

theorem eq_of_sameItems : ∀ (a b : List Json), sameItems a b = true → a = b
  | [], b, h => by cases b <;> simp [sameItems] at h ⊢
  | x :: xs, b, h => by
    cases b <;> simp [sameItems] at h ⊢
    exact ⟨eq_of_same x _ h.1, eq_of_sameItems xs _ h.2⟩

theorem eq_of_sameMembers : ∀ (a b : List (String × Json)), sameMembers a b = true → a = b
  | [], b, h => by cases b <;> simp [sameMembers] at h ⊢
  | (k, x) :: xs, b, h => by
    cases b <;> simp [sameMembers] at h ⊢
    exact ⟨Prod.ext h.1.1 (eq_of_same x _ h.1.2), eq_of_sameMembers xs _ h.2⟩

end

mutual

theorem same_refl : ∀ a : Json, same a a = true
  | .null | .bool _ | .number _ | .string _ => by simp [same]
  | .array xs => by simp [same, sameItems_refl xs]
  | .object xs => by simp [same, sameMembers_refl xs]

theorem sameItems_refl : ∀ a : List Json, sameItems a a = true
  | [] => by simp [sameItems]
  | x :: xs => by simp [sameItems, same_refl x, sameItems_refl xs]

theorem sameMembers_refl : ∀ a : List (String × Json), sameMembers a a = true
  | [] => by simp [sameMembers]
  | (_, x) :: xs => by simp [sameMembers, same_refl x, sameMembers_refl xs]

end

instance : DecidableEq Json := fun a b =>
  decidable_of_iff (same a b = true) ⟨eq_of_same a b, fun h => h ▸ same_refl a⟩

/-! ## Tidy values -/

/-- A number as JSON can hold it: what is not finite has no number. -/
def Number.tidy : Number → Json
  | .integer n => .number (.integer n)
  | .real x => if x.isFinite then .number (.real x) else .null

mutual

/-- The value that a tree stands for. -/
def tidy : Json → Json
  | .null => .null
  | .bool b => .bool b
  | .number n => n.tidy
  | .string s => .string s
  | .array items => .array (tidyItems items)
  | .object members => .object (Keyed.ofPairs (tidyMembers members))

def tidyItems : List Json → List Json
  | [] => []
  | x :: rest => tidy x :: tidyItems rest

def tidyMembers : List (String × Json) → List (String × Json)
  | [] => []
  | (k, v) :: rest => (k, tidy v) :: tidyMembers rest

end

end Json
end TargetControl
