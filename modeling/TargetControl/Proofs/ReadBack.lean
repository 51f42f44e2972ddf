import Mathlib
import TargetControl.Proofs.Words

/-!
What is read back after a write.

A write that is taken leaves the bytes of its value where it says, and nothing else changes.  A read
of just these bytes finds them again, whatever the size of its words: as they are, or put together to
words anew (`read_loaded`).  So words come back cut to their size, and bytes come back as they were
(`written_back`).

For words the bytes are as many as the request says.  Bytes that are written as they are have only
their own number: neither the size nor the number of words in the request is held against it, so
such a write may reach past the range that the request names, or leave a part of it untouched
(`write_reach`).
-/

namespace TargetControl

namespace MemoryValue

/-- The bytes that stand for a value whose words have some size. -/
def encoded (size : Nat) : MemoryValue → List UInt8
  | .word w => Memory.encodeWord size w
  | .words ws => ws.flatMap (Memory.encodeWord size)
  | .raw bytes => bytes

theorem length_encoded (size : Nat) (value : MemoryValue) :
    (value.encoded size).length = value.extent size := by
  cases value with
  | word w => exact Memory.length_encodeWord size w
  | words ws => exact Memory.length_flatMap_encodeWord size ws
  | raw bytes => rfl

end MemoryValue

namespace Memory

variable {m : Memory} {address : UInt64} {size words : Nat} {raw : Bool} {value : MemoryValue}

/-! ## What a load leaves -/

theorem bytesAt_loaded {data : List UInt8} (h : Spans address data.length) {start len : Nat}
    (hroom : start + len ≤ data.length) :
    (m.load address data).bytesAt (address.toNat + start) len = (data.drop start).take len := by
  apply List.ext_getElem
  · simp only [length_bytesAt, List.length_take, List.length_drop]
    omega
  · intro i hi _
    rw [length_bytesAt] at hi
    have hat : start + i < data.length := by omega
    have hbyte := (byteAt_loaded (m := m) h hat).2
    simp only [bytesAt, List.getElem_map, List.getElem_range, List.getElem_take, List.getElem_drop,
      Nat.add_assoc, hbyte]

theorem dump_loaded {data : List UInt8} (h : Spans address data.length) :
    (m.load address data).dump address data.length = data := by
  have hall : (m.load address data).bytesAt (address.toNat + 0) data.length =
      (data.drop 0).take data.length := bytesAt_loaded h (by omega)
  rw [Nat.add_zero, List.drop_zero, List.take_length] at hall
  exact hall

theorem wordsAt_loaded {data : List UInt8} (h : Spans address data.length)
    (hlength : size * words = data.length) :
    (m.load address data).wordsAt address.toNat size words = grouped size words data := by
  rw [wordsAt, grouped]
  apply List.map_congr_left
  intro j hj
  have hj : j < words := List.mem_range.mp hj
  have hroom : j * size + size ≤ data.length := by
    have hmul : (j + 1) * size ≤ words * size := Nat.mul_le_mul_right size hj
    rw [Nat.succ_mul, Nat.mul_comm words] at hmul
    omega
  rw [bytesAt_loaded h hroom]

/-- A read that covers just what was loaded finds it again. -/
theorem read_loaded {data : List UInt8} (hwide : Wide size) (hspans : Spans address data.length)
    (hlength : size * words = data.length) (raw : Bool) :
    ((m.load address data).read address size words raw).2 =
      .ok (if raw then .raw data else ofWords (grouped size words data)) := by
  rw [read_eq, if_neg (not_not_intro hwide), hlength, if_neg (not_not_intro hspans),
    dump_loaded hspans, wordsAt_loaded hspans hlength]

/-! ## Writes that are taken -/

theorem bytesOf?_eq_encoded (h : value.Suits words raw) (size : Nat) :
    bytesOf? size words raw value = some (value.encoded size) := by
  cases value with
  | word w =>
    obtain ⟨rfl, rfl⟩ := h
    rfl
  | words ws =>
    obtain ⟨rfl, rfl⟩ := h
    simp [bytesOf?, MemoryValue.encoded]
  | raw bytes =>
    cases h
    rfl

theorem write_taken (h : (m.write address size value words raw).2 = .ok true) :
    Wide size ∧ value.Suits words raw ∧ Spans address (value.encoded size).length ∧
      m.write address size value words raw =
        ({ m with writes := m.writes + 1 }.load address (value.encoded size), .ok true) := by
  obtain ⟨hwide, hsuits, hspans⟩ := (write_ok_iff m address size value words raw).mp h
  obtain ⟨data, hform, -, hwrite⟩ := write_of_suits hsuits m address size
  have hdata : data = value.encoded size := by
    rw [bytesOf?_eq_encoded hsuits] at hform
    exact (Option.some.inj hform).symm
  rw [if_neg (not_not_intro hwide), if_neg (not_not_intro hspans), hdata] at hwrite
  rw [← MemoryValue.length_encoded] at hspans
  exact ⟨hwide, hsuits, hspans, hwrite⟩

/-- After a write that is taken, every read of as many bytes finds them. -/
theorem read_written (h : (m.write address size value words raw).2 = .ok true)
    {size' words' : Nat} (hwide : Wide size')
    (hlength : size' * words' = (value.encoded size).length) (raw' : Bool) :
    ((m.write address size value words raw).1.read address size' words' raw').2 =
      .ok (if raw' then .raw (value.encoded size)
        else ofWords (grouped size' words' (value.encoded size))) := by
  obtain ⟨-, -, hspans, hwrite⟩ := write_taken h
  rw [hwrite]
  exact read_loaded hwide hspans hlength raw'

/-! ## Reading back -/

theorem ofWords_eq (ws : List UInt64) :
    ofWords ws = if h : ws.length = 1 then .word ws[0] else .words ws := by
  match ws with
  | [] => rfl
  | [w] => rfl
  | _ :: _ :: _ => simp [ofWords]

/-- What a memory answers when the value of a write is read back. -/
structure WrittenBack (m : Memory) (address : UInt64) (size words : Nat) (raw : Bool)
    (value : MemoryValue) : Prop where
  /-- one word is read as a word, also where it was written as a list -/
  one : ∀ w, value = .word w ∨ value = .words [w] →
    words = 1 ∧ (m.read address size words false).2 = .ok (.word (cut size w))
  many : ∀ ws, value = .words ws → ws.length ≠ 1 →
    words = ws.length ∧ (m.read address size words false).2 = .ok (.words (ws.map (cut size)))
  /-- the bytes of words are those of each word, the lowest first -/
  wordBytes : ∀ ws, value = .words ws ∨ (∃ w, value = .word w ∧ ws = [w]) →
    (m.read address size words true).2 = .ok (.raw (ws.flatMap (encodeWord size)))
  rawBytes : ∀ bytes, value = .raw bytes → ∀ size' words', Wide size' →
    size' * words' = bytes.length → (m.read address size' words' true).2 = .ok (.raw bytes)
  regrouped : ∀ size' words', Wide size' → size' * words' = (value.encoded size).length →
    ∃ ws : List UInt64, ws.length = words' ∧
      (m.read address size' words' false).2 =
        .ok (if h : ws.length = 1 then .word ws[0] else .words ws) ∧
      ∀ j (h : j < ws.length), ws[j].toNat =
        ∑ i ∈ Finset.range size', ((value.encoded size).getD (j * size' + i) 0).toNat * 256 ^ i

/-- What has been written is read back, at every size of words. -/
theorem written_back (h : (m.write address size value words raw).2 = .ok true) :
    WrittenBack (m.write address size value words raw).1 address size words raw value := by
  obtain ⟨hwide, hsuits, -, -⟩ := write_taken h
  -- a value that is no bytes has as many words as the request says
  have hlist : ∀ ws, value = .words ws ∨ (∃ w, value = .word w ∧ ws = [w]) →
      words = ws.length ∧ value.encoded size = ws.flatMap (encodeWord size) := by
    rintro ws (rfl | ⟨w, rfl, rfl⟩)
    · exact ⟨hsuits.2.symm, rfl⟩
    · refine ⟨hsuits.2, ?_⟩
      simp [MemoryValue.encoded]
  have hread : ∀ ws, value = .words ws ∨ (∃ w, value = .word w ∧ ws = [w]) → ∀ raw',
      ((m.write address size value words raw).1.read address size words raw').2 =
        .ok (if raw' then .raw (ws.flatMap (encodeWord size)) else ofWords (ws.map (cut size))) := by
    intro ws hws raw'
    obtain ⟨hwords, hencoded⟩ := hlist ws hws
    have hlength : size * words = (value.encoded size).length := by
      rw [hencoded, hwords, length_flatMap_encodeWord]
    rw [read_written h hwide hlength, hencoded, hwords, grouped_flatMap]
  refine
    { one := fun w hw => ?_
      many := fun ws hws hmany => ?_
      wordBytes := fun ws hws => hread ws hws true
      rawBytes := fun bytes hbytes size' words' hwide' hlength => ?_
      regrouped := fun size' words' hwide' hlength => ?_ }
  · have hws : value = .words [w] ∨ ∃ w', value = .word w' ∧ [w] = [w'] := by
      rcases hw with hw | hw
      · exact .inr ⟨w, hw, rfl⟩
      · exact .inl hw
    exact ⟨(hlist [w] hws).1, hread [w] hws false⟩
  · have hshape : ofWords (ws.map (cut size)) = .words (ws.map (cut size)) := by
      have hlength : (ws.map (cut size)).length ≠ 1 := by
        rw [List.length_map]
        exact hmany
      rw [ofWords_eq, dif_neg hlength]
    have hback := hread ws (.inl hws) false
    rw [hshape] at hback
    exact ⟨(hlist ws (.inl hws)).1, hback⟩
  · subst hbytes
    exact read_written h hwide' hlength true
  · refine ⟨grouped size' words' (value.encoded size), length_grouped _ _ _, ?_, ?_⟩
    · rw [read_written h hwide' hlength, ← ofWords_eq]
      rfl
    · intro j hj
      exact toNat_grouped hwide'.2 hlength hj

/-- Two words are cut to three bytes each, and the six bytes are also three words of two. -/
theorem written_back_odd :
    (new.write 0x1000 3 (.words [0xAABBCCDD, 0x11223344]) 2 false).2 = .ok true ∧
      WrittenBack (new.write 0x1000 3 (.words [0xAABBCCDD, 0x11223344]) 2 false).1 0x1000 3 2 false
        (.words [0xAABBCCDD, 0x11223344]) ∧
      ((new.write 0x1000 3 (.words [0xAABBCCDD, 0x11223344]) 2 false).1.read 0x1000 3 2 false).2 =
        .ok (.words [0xBBCCDD, 0x223344]) ∧
      ((new.write 0x1000 3 (.words [0xAABBCCDD, 0x11223344]) 2 false).1.read 0x1000 2 3 false).2 =
        .ok (.words [0xCCDD, 0x44BB, 0x2233]) := by
  have htaken : (new.write 0x1000 3 (.words [0xAABBCCDD, 0x11223344]) 2 false).2 = .ok true := rfl
  refine ⟨htaken, written_back htaken, ?_, ?_⟩
  · exact ((written_back htaken).many _ rfl (by decide)).2
  · rfl

/-! ## Reach -/

/-- How far a write reaches, compared with the range that its request names. -/
structure Reach (m : Memory) (address : UInt64) (size words : Nat) (raw : Bool)
    (value : MemoryValue) : Prop where
  inside : (m.write address size value words raw).2 = .ok true →
    ∀ i (h : i < (value.encoded size).length),
      (m.write address size value words raw).1.byteAt (address.toNat + i) = (value.encoded size)[i]
  outside : (m.write address size value words raw).2 = .ok true → ∀ a : UInt64,
    a.toNat < address.toNat ∨ address.toNat + (value.encoded size).length ≤ a.toNat →
      (m.write address size value words raw).1.bytes a = m.bytes a
  /-- words fill the range of the request -/
  measured : (m.write address size value words raw).2 = .ok true → raw = false →
    (value.encoded size).length = size * words
  /-- where the range is filled, it can be read, and holds what was written -/
  covered : (m.write address size value words raw).2 = .ok true →
    (value.encoded size).length = size * words →
      ((m.write address size value words raw).1.read address size words raw).2 =
        .ok (if raw then .raw (value.encoded size)
          else ofWords (grouped size words (value.encoded size)))
  /-- what would not fill the range is not written, unless bytes are asked for and given -/
  refused : (raw = true → ∀ bytes, value ≠ .raw bytes) →
    (value.encoded size).length ≠ size * words →
      (m.write address size value words raw).1 = m ∧
        (m.write address size value words raw).2 =
          if Wide size then .ok false else .error (sizeFault size)
  /-- bytes are taken wherever they fit by themselves -/
  unmeasured : ∀ bytes, raw = true → value = .raw bytes →
    ((m.write address size value words raw).2 = .ok true ↔
      Wide size ∧ Spans address bytes.length)

theorem write_reach (m : Memory) (address : UInt64) (size words : Nat) (raw : Bool)
    (value : MemoryValue) : Reach m address size words raw value := by
  refine
    { inside := fun h i hi => ?_
      outside := fun h a hout => ?_
      measured := fun h hraw => ?_
      covered := fun h hlength => ?_
      refused := fun hform hlength => ?_
      unmeasured := fun bytes hraw hvalue => ?_ }
  · obtain ⟨-, -, hspans, hwrite⟩ := write_taken h
    rw [hwrite]
    exact (byteAt_loaded hspans hi).2
  · obtain ⟨-, -, -, hwrite⟩ := write_taken h
    rw [hwrite, bytes_load, ByteMap.store_apply, dif_neg (by omega)]
    rfl
  · obtain ⟨-, hsuits, -, -⟩ := write_taken h
    rw [hraw] at hsuits
    rw [MemoryValue.length_encoded, MemoryValue.extent_of_suits hsuits]
  · obtain ⟨hwide, -, -, -⟩ := write_taken h
    exact read_written h hwide hlength.symm raw
  · have hsuits : ¬ value.Suits words raw := by
      intro hsuits
      cases raw with
      | false =>
        apply hlength
        rw [MemoryValue.length_encoded, MemoryValue.extent_of_suits hsuits]
      | true =>
        cases value with
        | word | words => cases hsuits.1
        | raw bytes => exact hform rfl bytes rfl
    rw [write_of_not_suits hsuits]
    exact ⟨rfl, rfl⟩
  · subst hraw hvalue
    rw [write_ok_iff]
    constructor
    · rintro ⟨hwide, -, hspans⟩
      exact ⟨hwide, hspans⟩
    · rintro ⟨hwide, hspans⟩
      exact ⟨hwide, rfl, hspans⟩

/-- Five bytes for one word of four: the byte behind the range of the request changes. -/
theorem bytes_overrun :
    (new.write 0x10 4 (.raw [1, 2, 3, 4, 5]) 1 true).2 = .ok true ∧
      new.byteAt (0x10 + 4 * 1) = 0 ∧
      (new.write 0x10 4 (.raw [1, 2, 3, 4, 5]) 1 true).1.byteAt (0x10 + 4 * 1) = 5 :=
  ⟨rfl, rfl, rfl⟩

end Memory
end TargetControl
