import Mathlib
import TargetControl.Proofs.Admission

/-!
Words and the bytes that they are made of.

`number` is the number that some bytes stand for, the lowest first.  Encoding a word keeps as much of
it as there are bytes for, so a row of encoded words, cut into pieces of their size, gives the words
back, each cut to its size (`grouped_flatMap`).
-/

namespace TargetControl
namespace Memory

/-! ## Numbers -/

def number (bytes : List UInt8) : Nat := bytes.foldr (fun b n => n * 256 + b.toNat) 0

theorem number_cons (b : UInt8) (rest : List UInt8) :
    number (b :: rest) = number rest * 256 + b.toNat := rfl

theorem number_lt (bytes : List UInt8) : number bytes < 256 ^ bytes.length := by
  induction bytes with
  | nil => simp [number]
  | cons b rest ih =>
    have hb : b.toNat < 256 := b.toNat_lt
    rw [number_cons, List.length_cons, Nat.pow_succ]
    omega

theorem number_append (first second : List UInt8) :
    number (first ++ second) = number first + 256 ^ first.length * number second := by
  induction first with
  | nil => simp [number]
  | cons b rest ih =>
    rw [List.cons_append, number_cons, number_cons, ih, List.length_cons, Nat.pow_succ]
    ring

/-- Each byte counts for 256 to the power of its place. -/
theorem number_eq_sum (bytes : List UInt8) :
    number bytes = ∑ i ∈ Finset.range bytes.length, (bytes.getD i 0).toNat * 256 ^ i := by
  induction bytes with
  | nil => rfl
  | cons b rest ih =>
    rw [number_cons, ih, List.length_cons, Finset.sum_range_succ', Finset.sum_mul]
    simp only [List.getD_cons_succ, List.getD_cons_zero, Nat.pow_zero, Nat.mul_one, Nat.pow_succ,
      Nat.mul_assoc]

/-! ## One word -/

/-- What is left of a word that is to have some number of bytes. -/
def cut (size : Nat) (w : UInt64) : UInt64 := UInt64.ofNat (w.toNat % 2 ^ (8 * size))

theorem toNat_decodeWord {bytes : List UInt8} (h : bytes.length ≤ 8) :
    (decodeWord bytes).toNat = number bytes := by
  have hlt : number bytes < 256 ^ bytes.length := number_lt bytes
  have hpow : 256 ^ bytes.length ≤ 256 ^ 8 := Nat.pow_le_pow_right (by omega) h
  have hsmall : number bytes < UInt64.size := Nat.lt_of_lt_of_le hlt hpow
  show (UInt64.ofNat (number bytes)).toNat = number bytes
  rw [UInt64.toNat_ofNat_of_lt' hsmall]

theorem encodeWord_succ (size : Nat) (w : UInt64) :
    encodeWord (size + 1) w = encodeWord size w ++ [UInt8.ofNat (w.toNat / 256 ^ size)] := by
  simp only [encodeWord, List.range_succ, List.map_append, List.map_cons, List.map_nil]
  rfl

theorem number_encodeWord (size : Nat) (w : UInt64) :
    number (encodeWord size w) = w.toNat % 256 ^ size := by
  induction size with
  | zero => simp [encodeWord, number, Nat.mod_one]
  | succ size ih =>
    have hlast : number [UInt8.ofNat (w.toNat / 256 ^ size)] = w.toNat / 256 ^ size % 256 := by
      simp [number, UInt8.toNat_ofNat']
    rw [encodeWord_succ, number_append, ih, length_encodeWord, hlast, Nat.mod_pow_succ]

theorem decodeWord_encodeWord (size : Nat) (w : UInt64) :
    decodeWord (encodeWord size w) = cut size w := by
  show UInt64.ofNat (number (encodeWord size w)) = UInt64.ofNat (w.toNat % 2 ^ (8 * size))
  rw [number_encodeWord, Nat.pow_mul]

/-! ## Words in a row -/

/-- The words that some bytes make up, with `size` bytes to a word. -/
def grouped (size words : Nat) (data : List UInt8) : List UInt64 :=
  (List.range words).map fun j => decodeWord ((data.drop (j * size)).take size)

@[simp] theorem length_grouped (size words : Nat) (data : List UInt8) :
    (grouped size words data).length = words := by
  simp [grouped]

theorem grouped_append {size : Nat} {first : List UInt8} (h : first.length = size) (words : Nat)
    (rest : List UInt8) :
    grouped size (words + 1) (first ++ rest) = decodeWord first :: grouped size words rest := by
  have hhead : ((first ++ rest).drop (0 * size)).take size = first := by
    rw [Nat.zero_mul, List.drop_zero, ← h, List.take_left]
  have htail : ∀ j, (first ++ rest).drop ((j + 1) * size) = rest.drop (j * size) := by
    intro j
    have hoffset : (j + 1) * size = first.length + j * size := by
      rw [h]
      ring
    rw [hoffset, List.drop_length_add_append]
  simp only [grouped, List.range_succ_eq_map, List.map_cons, List.map_map, hhead]
  congr 1
  apply List.map_congr_left
  intro j _
  simp only [Function.comp_apply, Nat.succ_eq_add_one, htail]

theorem grouped_flatMap (size : Nat) (ws : List UInt64) :
    grouped size ws.length (ws.flatMap (encodeWord size)) = ws.map (cut size) := by
  induction ws with
  | nil => rfl
  | cons w rest ih =>
    rw [List.flatMap_cons, List.length_cons, grouped_append (length_encodeWord size w), ih,
      decodeWord_encodeWord, List.map_cons]

/-- A word in a row is the sum of its bytes, each times 256 to the power of its place. -/
theorem toNat_grouped {size words : Nat} (hsize : size ≤ 8) {data : List UInt8}
    (hlength : size * words = data.length) {j : Nat} (hj : j < (grouped size words data).length) :
    (grouped size words data)[j].toNat =
      ∑ i ∈ Finset.range size, (data.getD (j * size + i) 0).toNat * 256 ^ i := by
  have hwords : j < words := by
    rw [length_grouped] at hj
    exact hj
  have hroom : j * size + size ≤ data.length := by
    have hmul : (j + 1) * size ≤ words * size := Nat.mul_le_mul_right size hwords
    rw [Nat.succ_mul, Nat.mul_comm words] at hmul
    omega
  have hpiece : ((data.drop (j * size)).take size).length = size := by
    rw [List.length_take, List.length_drop]
    omega
  have hbyte : ∀ i, i < size →
      ((data.drop (j * size)).take size).getD i 0 = data.getD (j * size + i) 0 := by
    intro i hi
    simp [List.getD_eq_getElem?_getD, hi]
  have hword : (grouped size words data)[j] = decodeWord ((data.drop (j * size)).take size) := by
    simp [grouped]
  rw [hword, toNat_decodeWord (by omega), number_eq_sum, hpiece]
  apply Finset.sum_congr rfl
  intro i hi
  rw [hbyte i (Finset.mem_range.mp hi)]

end Memory
end TargetControl
