import TargetControl.Device.Reply

/-!
A memory: bytes at the addresses below 2 ^ 64, zero until they are written.

A word has one to eight bytes, the lowest first.  A request names an address, the size of a word
and a number of words; it is refused if its bytes are too many or reach past the last address.
What a memory holds is `Memory.byteAt`, and every read is put together from it.
-/

namespace TargetControl
namespace Memory

/-- Bytes that were written in one go, and where they begin. -/
structure Extent where
  start : Nat
  data : Array UInt8
deriving Repr

def Extent.byte? (e : Extent) (address : Nat) : Option UInt8 :=
  if e.start ≤ address then e.data[address - e.start]? else none

/-- What can be asked of a memory. -/
inductive Request where
  | read (address : UInt64) (size words : Nat) (raw : Bool)
  | write (address : UInt64) (size : Nat) (value : MemoryValue) (words : Nat) (raw : Bool)
deriving DecidableEq, Repr

end Memory

structure Memory where
  /-- what was written, the latest first -/
  extents : List Memory.Extent
  reads : Nat
  writes : Nat
  shutdowns : Nat
deriving Repr

namespace Memory

def new : Memory := ⟨[], 0, 0, 0⟩

/-- The number of addresses. -/
def top : Nat := UInt64.size

/-- The longest word, in bytes. -/
def widest : Nat := 8

/-- The most bytes that one request moves. -/
def transferLimit : Nat := 1048576

/-- The byte at an address; past the last address all bytes are zero. -/
def byteAt (m : Memory) (address : Nat) : UInt8 :=
  if address < top then (m.extents.findSome? (Extent.byte? · address)).getD 0 else 0

def bytesAt (m : Memory) (address len : Nat) : List UInt8 :=
  (List.range len).map fun i => m.byteAt (address + i)

/-- Puts bytes in place; those past the last address are lost. -/
def load (m : Memory) (address : UInt64) (data : List UInt8) : Memory :=
  { m with extents := ⟨address.toNat, data.toArray⟩ :: m.extents }

def dump (m : Memory) (address : UInt64) (len : Nat) : List UInt8 := m.bytesAt address.toNat len

/-! ## Words -/

/-- The lowest bytes of a word, the lowest first. -/
def encodeWord (size : Nat) (w : UInt64) : List UInt8 :=
  (List.range size).map fun i => UInt8.ofNat (w.toNat / Nat.pow 256 i)

/-- The number that some bytes stand for, the lowest first. -/
def decodeWord (bytes : List UInt8) : UInt64 :=
  UInt64.ofNat (bytes.foldr (fun b n => n * 256 + b.toNat) 0)

def wordsAt (m : Memory) (address size words : Nat) : List UInt64 :=
  (List.range words).map fun j => decodeWord (m.bytesAt (address + j * size) size)

/-! ## Requests -/

/-- Refuses words of a size that there is not. -/
def checkSize (size : Nat) : Except BackendFault Unit :=
  if size = 0 ∨ widest < size then
    .error (.rejected ("unsupported word size " ++ String.ofList (Digits.decimal size)))
  else .ok ()

/-- The product of two 64-bit numbers, if it is one itself. -/
def checkedMul (a b : Nat) : Option Nat := if a * b < UInt64.size then some (a * b) else none

/-- The sum of two 64-bit numbers, if it is one itself. -/
def checkedAdd (a b : Nat) : Option Nat := if a + b < UInt64.size then some (a + b) else none

/-- The number of bytes of some words, if a request can move them and they all have addresses.
It is the last of them whose address has to exist, so a range may end with the last address. -/
def span? (address : UInt64) (size words : Nat) : Option Nat :=
  ((checkedMul size words).filter fun len => decide (len ≤ transferLimit)).filter fun len =>
    len == 0 || (checkedAdd address.toNat (len - 1)).isSome

/-- Refuses a range of bytes that is too long or reaches past the last address. -/
def checkRange (address : UInt64) (size words : Nat) : Except BackendFault Nat :=
  match span? address size words with
  | some len => .ok len
  | none => .error (.rejected "address range out of bounds")

/-- One word by itself is read as a word, any other number of them as a list. -/
def ofWords : List UInt64 → MemoryValue
  | [w] => .word w
  | ws => .words ws

/-- The bytes of a value, if it has the form that a request asks for. -/
def bytesOf? (size words : Nat) (raw : Bool) : MemoryValue → Option (List UInt8)
  | .raw bytes => if raw then some bytes else none
  | .word w => if !raw && words == 1 then some (encodeWord size w) else none
  | .words ws => if !raw && ws.length == words then some (ws.flatMap (encodeWord size)) else none

def read (m : Memory) (address : UInt64) (size words : Nat) (raw : Bool) :
    Memory × Except BackendFault MemoryValue :=
  match (do checkSize size; checkRange address size words : Except BackendFault Nat) with
  | .error fault => (m, .error fault)
  | .ok len =>
    ({ m with reads := m.reads + 1 },
      .ok (if raw then .raw (m.dump address len)
        else ofWords (m.wordsAt address.toNat size words)))

/-- Writes a value.  A value of another form than the request asks for is not written, and that is
no fault. -/
def write (m : Memory) (address : UInt64) (size : Nat) (value : MemoryValue) (words : Nat)
    (raw : Bool) : Memory × Except BackendFault Bool :=
  match checkSize size with
  | .error fault => (m, .error fault)
  | .ok () =>
    match bytesOf? size words raw value with
    | none => (m, .ok false)
    | some bytes =>
      match checkRange address bytes.length 1 with
      | .error fault => (m, .error fault)
      | .ok _ => ({ m with writes := m.writes + 1 }.load address bytes, .ok true)

def serve (m : Memory) : Request → Memory × Except BackendFault Reply
  | .read address size words raw =>
    let (m, outcome) := m.read address size words raw
    (m, outcome.map .memory)
  | .write address size value words raw =>
    let (m, outcome) := m.write address size value words raw
    (m, outcome.map .flag)

def shutdown (m : Memory) : Memory := { m with shutdowns := m.shutdowns + 1 }

/-! ## What loading does -/

@[simp] theorem length_bytesAt (m : Memory) (address len : Nat) :
    (m.bytesAt address len).length = len := by
  simp only [bytesAt, List.length_map, List.length_range]

@[simp] theorem length_encodeWord (size : Nat) (w : UInt64) : (encodeWord size w).length = size := by
  simp only [encodeWord, List.length_map, List.length_range]

theorem byte?_extent (start : Nat) (data : List UInt8) (address : Nat) :
    Extent.byte? ⟨start, data.toArray⟩ address =
      if start ≤ address then data[address - start]? else none := by
  simp only [Extent.byte?, List.getElem?_toArray]

/-- After loading, an address holds the byte that was loaded there, or what it held before. -/
theorem byteAt_load (m : Memory) (address : UInt64) (data : List UInt8) (a : Nat) :
    (m.load address data).byteAt a =
      if h : a < top ∧ address.toNat ≤ a ∧ a - address.toNat < data.length then
        data[a - address.toNat]
      else m.byteAt a := by
  unfold byteAt load
  simp only [List.findSome?_cons, byte?_extent]
  by_cases ht : a < top
  · by_cases hl : address.toNat ≤ a
    · by_cases hd : a - address.toNat < data.length
      · rw [dif_pos ⟨ht, hl, hd⟩]
        simp [ht, hl, List.getElem?_eq_getElem hd]
      · rw [dif_neg fun h => hd h.2.2]
        simp [ht, hl, List.getElem?_eq_none (Nat.le_of_not_lt hd)]
    · rw [dif_neg fun h => hl h.2.1]
      simp [ht, hl]
  · rw [dif_neg fun h => ht h.1]
    simp [ht]

end Memory
end TargetControl
