/-!
Families: a value for every number.

Most of a family is never looked at.  It is a function, so that what is said of all its members is
said at once, and it changes by putting one value in place of another.
-/

namespace TargetControl
namespace Family

variable {α : Type}

/-- A family with the value at one number replaced. -/
def put (family : Nat → α) (n : Nat) (value : α) : Nat → α :=
  fun k => if k = n then value else family k

theorem put_apply (family : Nat → α) (n : Nat) (value : α) (k : Nat) :
    put family n value k = if k = n then value else family k := rfl

@[simp] theorem put_same (family : Nat → α) (n : Nat) (value : α) : put family n value n = value :=
  if_pos rfl

theorem put_of_ne (family : Nat → α) {n k : Nat} (h : k ≠ n) (value : α) :
    put family n value k = family k := if_neg h

@[simp] theorem put_self (family : Nat → α) (n : Nat) : put family n (family n) = family := by
  funext k
  rw [put_apply]
  split
  · next h => rw [h]
  · rfl

@[simp] theorem put_put (family : Nat → α) (n : Nat) (first second : α) :
    put (put family n first) n second = put family n second := by
  funext k
  simp only [put_apply]
  split <;> rfl

theorem put_comm (family : Nat → α) {n k : Nat} (h : k ≠ n) (first second : α) :
    put (put family n first) k second = put (put family k second) n first := by
  funext i
  simp only [put_apply]
  by_cases hk : i = k
  · rw [if_pos hk, if_neg fun hn => h (hk.symm.trans hn)]
    exact (if_pos hk).symm
  · rw [if_neg hk, if_neg hk]

/-- What a replaced value has in common with the one before, all members keep. -/
theorem put_keeps {β : Type} (f : α → β) {family : Nat → α} {n : Nat} {value : α}
    (h : f value = f (family n)) (k : Nat) : f (put family n value k) = f (family k) := by
  rw [put_apply]
  split
  · next hk => rw [h, hk]
  · rfl

end Family
end TargetControl
