import TargetControl.Device.Memory

/-!
What a memory holds: a byte for every address.

`ByteMap.store` puts bytes in place one at a time, as far as there are addresses.  Loading is just
that, a write that is accepted is loading, and no other access changes a byte.  So a byte is the one
that the last access to cover its address has given for it, or zero (`bytes_of_accesses`).
-/

namespace TargetControl

open Memory (top)

abbrev ByteMap := UInt64 → UInt8

namespace ByteMap

def zero : ByteMap := fun _ => 0

def put (map : ByteMap) (address : UInt64) (byte : UInt8) : ByteMap :=
  fun a => if a = address then byte else map a

/-- Puts bytes in place one after another.  What comes past the last address is dropped. -/
def store (map : ByteMap) (address : Nat) : List UInt8 → ByteMap
  | [] => map
  | byte :: rest =>
    store (if address < top then map.put (UInt64.ofNat address) byte else map) (address + 1) rest

theorem put_ofNat (map : ByteMap) {address : Nat} (byte : UInt8) (a : UInt64) :
    (if address < top then map.put (UInt64.ofNat address) byte else map) a =
      if a.toNat = address then byte else map a := by
  by_cases ht : address < top
  · have hsame : a = UInt64.ofNat address ↔ a.toNat = address := by
      constructor
      · intro h
        rw [h, UInt64.toNat_ofNat_of_lt' ht]
      · intro h
        rw [← h, UInt64.ofNat_toNat]
    simp only [if_pos ht, put, hsame]
  · have hne : a.toNat ≠ address := by
      have hlt : a.toNat < top := a.toNat_lt
      omega
    rw [if_neg ht, if_neg hne]

/-- After bytes have been put in place, an address holds the one that was put there, or what it held
before. -/
theorem store_apply (map : ByteMap) (address : Nat) (data : List UInt8) (a : UInt64) :
    map.store address data a =
      if h : address ≤ a.toNat ∧ a.toNat - address < data.length then data[a.toNat - address]
      else map a := by
  induction data generalizing map address with
  | nil => simp [store]
  | cons byte rest ih =>
    rw [store, ih, put_ofNat]
    simp only [List.length_cons]
    by_cases hat : a.toNat = address
    · have hoff : a.toNat - address = 0 := by omega
      rw [dif_neg (by omega), if_pos hat, dif_pos (by omega)]
      simp only [hoff, List.getElem_cons_zero]
    · rw [if_neg hat]
      by_cases hin : address + 1 ≤ a.toNat ∧ a.toNat - (address + 1) < rest.length
      · have hoff : a.toNat - address = a.toNat - (address + 1) + 1 := by omega
        rw [dif_pos hin, dif_pos (by omega)]
        simp only [hoff, List.getElem_cons_succ]
      · rw [dif_neg hin, dif_neg (by omega)]

end ByteMap

namespace Memory

def bytes (m : Memory) : ByteMap := fun a => m.byteAt a.toNat

theorem bytes_new : new.bytes = .zero := by
  funext a
  simp [bytes, byteAt, new, ByteMap.zero]

theorem bytes_load (m : Memory) (address : UInt64) (data : List UInt8) :
    (m.load address data).bytes = m.bytes.store address.toNat data := by
  funext a
  have hlt : a.toNat < top := a.toNat_lt
  rw [ByteMap.store_apply]
  simp only [bytes, byteAt_load, hlt, true_and]

/-! ## Accesses -/

inductive Access where
  | load (address : UInt64) (data : List UInt8)
  | serve (request : Request)
deriving DecidableEq, Repr

def access (m : Memory) : Access → Memory
  | .load address data => m.load address data
  | .serve request => (m.serve request).1

def accessAll (m : Memory) (accesses : List Access) : Memory := accesses.foldl access m

namespace Access

/-- What an access puts into a memory, and from which address on.  Of a write that is refused or of
another form than it says there is nothing. -/
def placed? : Access → Option (UInt64 × List UInt8)
  | .load address data => some (address, data)
  | .serve (.read ..) => none
  | .serve (.write address size value words raw) =>
    match checkSize size, bytesOf? size words raw value with
    | .ok (), some data =>
      match checkRange address data.length 1 with
      | .ok _ => some (address, data)
      | .error _ => none
    | _, _ => none

/-- The byte that an access gives for an address, if it covers that. -/
def byte? (x : Access) (a : Nat) : Option UInt8 :=
  x.placed?.bind fun (start, data) => if start.toNat ≤ a then data[a - start.toNat]? else none

end Access

/-- Neither the product nor the sum of a range that can be moved goes past 64 bits, and where one of
them does the range is too long or has bytes without an address. -/
theorem span?_eq (address : UInt64) (size words : Nat) :
    span? address size words =
      if size * words ≤ transferLimit ∧
          (size * words = 0 ∨ address.toNat + size * words ≤ top) then some (size * words)
      else none := by
  unfold span? checkedMul
  by_cases hlimit : size * words ≤ transferLimit
  · have hproduct : size * words < UInt64.size := Nat.lt_of_le_of_lt hlimit (by decide)
    have hlast : size * words ≠ 0 → (address.toNat + (size * words - 1) < UInt64.size ↔
        address.toNat + size * words ≤ top) := by
      unfold top
      omega
    rw [if_pos hproduct, Option.filter_some, if_pos (decide_eq_true hlimit), Option.filter_some]
    by_cases hempty : size * words = 0
    · simp [hempty]
    · simp [checkedAdd, hempty, hlimit, hlast hempty]
  · by_cases hproduct : size * words < UInt64.size
    · simp [hproduct, hlimit]
    · simp [hproduct, hlimit]

theorem checkRange_eq_ok {address : UInt64} {size words len : Nat}
    (h : checkRange address size words = .ok len) :
    len = size * words ∧ address.toNat + len ≤ top := by
  rw [checkRange, span?_eq] at h
  by_cases hfits : size * words ≤ transferLimit ∧
      (size * words = 0 ∨ address.toNat + size * words ≤ top)
  · have hlt : address.toNat < top := address.toNat_lt
    rw [if_pos hfits] at h
    cases h
    exact ⟨rfl, by omega⟩
  · rw [if_neg hfits] at h
    cases h

/-- A write loads what it puts into the memory and says so, or it leaves the memory as it is. -/
theorem write_cases (m : Memory) (address : UInt64) (size : Nat) (value : MemoryValue) (words : Nat)
    (raw : Bool) :
    (∃ data, (Access.serve (.write address size value words raw)).placed? = some (address, data) ∧
      bytesOf? size words raw value = some data ∧ address.toNat + data.length ≤ top ∧
      m.write address size value words raw =
        ({ m with writes := m.writes + 1 }.load address data, .ok true)) ∨
    (Access.serve (.write address size value words raw)).placed? = none ∧
      (m.write address size value words raw).1 = m ∧
      (m.write address size value words raw).2 ≠ .ok true := by
  rw [Access.placed?, write]
  cases checkSize size with
  | error fault => exact .inr ⟨rfl, rfl, nofun⟩
  | ok done =>
    cases hform : bytesOf? size words raw value with
    | none => exact .inr ⟨rfl, rfl, by simp⟩
    | some data =>
      cases hrange : checkRange address data.length 1 with
      | error fault => simp [hrange]
      | ok len =>
        have hends : address.toNat + data.length ≤ top := by
          obtain ⟨hlen, hle⟩ := checkRange_eq_ok hrange
          omega
        exact .inl ⟨data, by simp [hrange], rfl, hends, by simp [hrange]⟩

theorem read_bytes (m : Memory) (address : UInt64) (size words : Nat) (raw : Bool) :
    (m.read address size words raw).1.bytes = m.bytes := by
  unfold read
  split <;> rfl

theorem read_bounded {m : Memory} {address : UInt64} {size words : Nat} {raw : Bool}
    {value : MemoryValue} (h : (m.read address size words raw).2 = .ok value) :
    address.toNat + size * words ≤ top := by
  unfold read at h
  split at h
  · cases h
  · next hchecked =>
    cases hsize : checkSize size with
    | error fault =>
      rw [hsize] at hchecked
      cases hchecked
    | ok done =>
      rw [hsize] at hchecked
      obtain ⟨rfl, hends⟩ := checkRange_eq_ok hchecked
      exact hends

theorem bytes_access (m : Memory) (x : Access) :
    (m.access x).bytes =
      match x.placed? with
      | none => m.bytes
      | some (start, data) => m.bytes.store start.toNat data := by
  cases x with
  | load address data => exact bytes_load m address data
  | serve request =>
    cases request with
    | read address size words raw => exact read_bytes m address size words raw
    | write address size value words raw =>
      show (m.write address size value words raw).1.bytes = _
      rcases m.write_cases address size value words raw with
        ⟨data, hplaced, -, -, hwrite⟩ | ⟨hplaced, hwrite, -⟩
      · rw [hplaced, hwrite]
        exact bytes_load _ address data
      · rw [hplaced, hwrite]

theorem bytes_access_apply (m : Memory) (x : Access) (a : UInt64) :
    (m.access x).bytes a = (x.byte? a.toNat).getD (m.bytes a) := by
  rw [bytes_access, Access.byte?]
  cases x.placed? with
  | none => rfl
  | some placed =>
    obtain ⟨start, data⟩ := placed
    show m.bytes.store start.toNat data a = _
    rw [ByteMap.store_apply, Option.bind_some]
    by_cases hle : start.toNat ≤ a.toNat
    · by_cases hlt : a.toNat - start.toNat < data.length
      · simp [hle, hlt]
      · simp [hle, hlt]
    · simp [hle]

/-- After some accesses a byte is the last that was given for its address. -/
theorem bytes_accessAll (m : Memory) (accesses : List Access) (a : UInt64) :
    (m.accessAll accesses).bytes a =
      (accesses.filterMap fun x => x.byte? a.toNat).getLast?.getD (m.bytes a) := by
  induction accesses generalizing m with
  | nil => rfl
  | cons x rest ih =>
    show ((m.access x).accessAll rest).bytes a = _
    rw [ih, bytes_access_apply, List.filterMap_cons]
    cases x.byte? a.toNat with
    | none => rfl
    | some byte =>
      rw [List.getLast?_cons]
      rfl

/-! ## What a memory holds -/

theorem getElem?_dump (m : Memory) (address : UInt64) {len i : Nat} (h : i < len) :
    (m.dump address len)[i]? =
      some (if address.toNat + i < top then m.bytes (UInt64.ofNat (address.toNat + i)) else 0) := by
  have hbyte : (m.dump address len)[i]? = some (m.byteAt (address.toNat + i)) := by
    simp [dump, bytesAt, h]
  rw [hbyte]
  split
  · next ht => rw [bytes, UInt64.toNat_ofNat_of_lt' ht]
  · next ht => rw [byteAt, if_neg ht]

/-- An access keeps to the range of its own data. -/
structure Confined (m : Memory) (x : Access) : Prop where
  outside : ∀ a : UInt64,
    (∀ start data, x.placed? = some (start, data) →
      a.toNat < start.toNat ∨ start.toNat + data.length ≤ a.toNat) →
    (m.access x).bytes a = m.bytes a
  accepted : ∀ address size value words raw, x = .serve (.write address size value words raw) →
    (m.write address size value words raw).2 = .ok true →
    ∃ data, bytesOf? size words raw value = some data ∧ x.placed? = some (address, data) ∧
      address.toNat + data.length ≤ top
  /-- a write that is not accepted puts nothing anywhere -/
  refused : ∀ address size value words raw, x = .serve (.write address size value words raw) →
    (m.write address size value words raw).2 ≠ .ok true → x.placed? = none ∧ m.access x = m
  read : ∀ address size words raw, x = .serve (.read address size words raw) →
    (m.access x).bytes = m.bytes ∧ x.placed? = none ∧
      ∀ value, (m.read address size words raw).2 = .ok value →
        address.toNat + size * words ≤ top

theorem confined (m : Memory) (x : Access) : Confined m x := by
  refine
    { outside := fun a hout => ?_
      accepted := fun address size value words raw hx hok => ?_
      refused := fun address size value words raw hx hno => ?_
      read := fun address size words raw hx => ?_ }
  · rw [bytes_access]
    cases hplaced : x.placed? with
    | none => rfl
    | some placed =>
      obtain ⟨start, data⟩ := placed
      have hapart := hout start data hplaced
      show m.bytes.store start.toNat data a = m.bytes a
      rw [ByteMap.store_apply, dif_neg (by omega)]
  · subst hx
    rcases m.write_cases address size value words raw with
      ⟨data, hplaced, hform, hbound, -⟩ | ⟨-, -, hno⟩
    · exact ⟨data, hform, hplaced, hbound⟩
    · exact absurd hok hno
  · subst hx
    rcases m.write_cases address size value words raw with
      ⟨data, -, -, -, hwrite⟩ | ⟨hplaced, hsame, -⟩
    · rw [hwrite] at hno
      exact absurd rfl hno
    · exact ⟨hplaced, hsame⟩
  · subst hx
    exact ⟨read_bytes m address size words raw, rfl, fun value => read_bounded⟩

structure Holds (accesses : List Access) : Prop where
  /-- the memory goes along with a byte for every address, into which each access stores its data -/
  stored : (new.accessAll accesses).bytes =
    (accesses.filterMap Access.placed?).foldl (fun map p => map.store p.1.toNat p.2) .zero
  length : ∀ address len, ((new.accessAll accesses).dump address len).length = len
  byte : ∀ address len i, i < len → ((new.accessAll accesses).dump address len)[i]? =
    some (if address.toNat + i < top then
      (accesses.filterMap fun x => x.byte? (address.toNat + i)).getLast?.getD 0 else 0)
  confined : ∀ first x rest, accesses = first ++ x :: rest → Confined (new.accessAll first) x

theorem bytes_foldl (m : Memory) (accesses : List Access) :
    (m.accessAll accesses).bytes =
      (accesses.filterMap Access.placed?).foldl (fun map p => map.store p.1.toNat p.2) m.bytes := by
  induction accesses generalizing m with
  | nil => rfl
  | cons x rest ih =>
    show ((m.access x).accessAll rest).bytes = _
    rw [ih, bytes_access, List.filterMap_cons]
    cases x.placed? <;> rfl

/-- A memory is a total function from addresses to bytes, and the last access to an address wins. -/
theorem bytes_of_accesses (accesses : List Access) : Holds accesses := by
  refine
    { stored := ?_
      length := fun address len => length_bytesAt _ _ _
      byte := fun address len i hi => ?_
      confined := fun first x rest _ => confined _ x }
  · rw [bytes_foldl, bytes_new]
  · rw [getElem?_dump _ _ hi, bytes_accessAll, bytes_new]
    split
    · next ht =>
      rw [UInt64.toNat_ofNat_of_lt' ht]
      rfl
    · rfl

/-- What is loaded past the last address is lost, and does not come in at the first. -/
example : (new.load 0xFFFFFFFFFFFFFFFE [1, 2, 3]).dump 0xFFFFFFFFFFFFFFFE 4 = [1, 2, 0, 0] ∧
    (new.load 0xFFFFFFFFFFFFFFFE [1, 2, 3]).dump 0 2 = [0, 0] := by decide

end Memory
end TargetControl
