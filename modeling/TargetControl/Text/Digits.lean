/-!
Digits of natural numbers and integers, as lists of characters.

`decimal` writes the ordinary decimal form without leading zeros, and `ofDecimal` reads a list
of digits back.  The padded forms are the ones that clock times and byte dumps use.  The main
statement is `ofDecimal_decimal`: reading what was written gives the number.
-/

namespace TargetControl
namespace Digits

/-- The character of a digit below sixteen, in lower case. -/
def char (d : Nat) : Char :=
  if d < 10 then Char.ofNat (48 + d) else Char.ofNat (87 + d)

/-- The value of a decimal digit. -/
def value (c : Char) : Nat := c.toNat - 48

/-- Whether a character is one of the ten decimal digits. -/
def isDecimal (c : Char) : Bool := 48 ≤ c.toNat && c.toNat ≤ 57

/-- The value of a hexadecimal digit in either case. -/
def hexValue? (c : Char) : Option Nat :=
  if isDecimal c then some (c.toNat - 48)
  else if 97 ≤ c.toNat && c.toNat ≤ 102 then some (c.toNat - 87)
  else if 65 ≤ c.toNat && c.toNat ≤ 70 then some (c.toNat - 55)
  else none

/-- The digits of a number in a base of at least two, most significant first. -/
def digits (base : Nat) (n : Nat) : List Char :=
  if _h : base < 2 ∨ n < base then [char n]
  else digits base (n / base) ++ [char (n % base)]
termination_by n
decreasing_by
  exact Nat.div_lt_self (by omega) (by omega)

/-- The decimal form of a natural number. -/
def decimal (n : Nat) : List Char := digits 10 n

/-- The decimal form of an integer, with a minus sign in front of the negative ones. -/
def signed (n : Int) : List Char :=
  if n < 0 then '-' :: decimal n.natAbs else decimal n.natAbs

/-- Zeros in front, up to the given width. -/
def pad (width : Nat) (cs : List Char) : List Char :=
  List.replicate (width - cs.length) '0' ++ cs

/-- The decimal form of a number with at least the given number of digits. -/
def padded (width n : Nat) : List Char := pad width (decimal n)

/-- The two hexadecimal digits of a byte. -/
def hexByte (b : UInt8) : List Char := [char (b.toNat / 16), char (b.toNat % 16)]

/-- The number that a list of decimal digits denotes. -/
def ofDecimal (cs : List Char) : Nat := cs.foldl (fun n c => 10 * n + value c) 0

theorem value_char {d : Nat} (h : d < 10) : value (char d) = d := by
  have : d = 0 ∨ d = 1 ∨ d = 2 ∨ d = 3 ∨ d = 4 ∨ d = 5 ∨ d = 6 ∨ d = 7 ∨ d = 8 ∨ d = 9 := by
    omega
  rcases this with h | h | h | h | h | h | h | h | h | h <;> subst h <;> rfl

theorem isDecimal_char {d : Nat} (h : d < 10) : isDecimal (char d) = true := by
  have : d = 0 ∨ d = 1 ∨ d = 2 ∨ d = 3 ∨ d = 4 ∨ d = 5 ∨ d = 6 ∨ d = 7 ∨ d = 8 ∨ d = 9 := by
    omega
  rcases this with h | h | h | h | h | h | h | h | h | h <;> subst h <;> rfl

theorem ofDecimal_append_singleton (cs : List Char) (c : Char) :
    ofDecimal (cs ++ [c]) = 10 * ofDecimal cs + value c := by
  simp only [ofDecimal, List.foldl_append, List.foldl_cons, List.foldl_nil]

/-- Reading the decimal form of a number gives the number. -/
theorem ofDecimal_decimal (n : Nat) : ofDecimal (decimal n) = n := by
  induction n using Nat.strongRecOn with
  | ind n ih =>
    unfold decimal digits
    by_cases h : n < 10
    · simp only [show (10 : Nat) < 2 ∨ n < 10 from Or.inr h, dite_true]
      simp only [ofDecimal, List.foldl_cons, List.foldl_nil, value_char h]
      omega
    · rw [dif_neg (by omega)]
      rw [ofDecimal_append_singleton, value_char (Nat.mod_lt n (by omega))]
      have := ih (n / 10) (Nat.div_lt_self (by omega) (by omega))
      simp only [decimal] at this
      rw [this]
      omega

/-- Every character of a decimal form is a decimal digit. -/
theorem isDecimal_of_mem_decimal {n : Nat} {c : Char} (h : c ∈ decimal n) :
    isDecimal c = true := by
  induction n using Nat.strongRecOn with
  | ind n ih =>
    unfold decimal digits at h
    by_cases hn : n < 10
    · simp only [show (10 : Nat) < 2 ∨ n < 10 from Or.inr hn, dite_true,
        List.mem_singleton] at h
      rw [h]
      exact isDecimal_char hn
    · rw [dif_neg (by omega), List.mem_append] at h
      rcases h with h | h
      · exact ih (n / 10) (Nat.div_lt_self (by omega) (by omega)) h
      · rw [List.mem_singleton] at h
        rw [h]
        exact isDecimal_char (Nat.mod_lt n (by omega))

end Digits
end TargetControl
