import Mathlib
import TargetControl.Proofs.Storage

/-!
Which requests a memory takes.

A request is looked at in a fixed order: the size of its words, then, of a write, the form of its
value, then the range of its bytes.  The length of that range is a product for a read and the length
of the encoded value for a write.  `requests_judged` says for both when they are taken, what stands
in the answer when they are not, and that nothing at all has changed then.  It also says that the
bytes of a write that is taken all have addresses, so loading them drops none.
-/

namespace TargetControl

/-! ## What a value is made of -/

namespace MemoryValue

/-- Whether a value has the form that a request asks for. -/
def Suits (words : Nat) (raw : Bool) : MemoryValue → Prop
  | .word _ => raw = false ∧ words = 1
  | .words ws => raw = false ∧ ws.length = words
  | .raw _ => raw = true

/-- The number of bytes of a value whose words have some size. -/
def extent (size : Nat) : MemoryValue → Nat
  | .word _ => size
  | .words ws => size * ws.length
  | .raw bytes => bytes.length

instance (words : Nat) (raw : Bool) (value : MemoryValue) : Decidable (value.Suits words raw) :=
  match value with
  | .word _ | .words _ => inferInstanceAs (Decidable (_ ∧ _))
  | .raw _ => inferInstanceAs (Decidable (_ = _))

theorem extent_of_suits {words : Nat} {value : MemoryValue} (h : value.Suits words false)
    (size : Nat) : value.extent size = size * words := by
  cases value with
  | word w =>
    obtain ⟨-, hwords⟩ := h
    rw [hwords, Nat.mul_one]
    rfl
  | words ws =>
    obtain ⟨-, hwords⟩ := h
    rw [← hwords]
    rfl
  | raw bytes => cases h

end MemoryValue

namespace Memory

theorem length_flatMap_encodeWord (size : Nat) (ws : List UInt64) :
    (ws.flatMap (encodeWord size)).length = size * ws.length := by
  induction ws with
  | nil => simp
  | cons w rest ih =>
    rw [List.flatMap_cons, List.length_append, ih, length_encodeWord, List.length_cons,
      Nat.mul_succ, Nat.add_comm]

theorem bytesOf?_of_suits {words : Nat} {raw : Bool} {value : MemoryValue}
    (h : value.Suits words raw) (size : Nat) :
    ∃ data, bytesOf? size words raw value = some data ∧ data.length = value.extent size := by
  cases value with
  | word w =>
    obtain ⟨rfl, rfl⟩ := h
    exact ⟨encodeWord size w, rfl, length_encodeWord size w⟩
  | words ws =>
    obtain ⟨rfl, rfl⟩ := h
    refine ⟨ws.flatMap (encodeWord size), ?_, length_flatMap_encodeWord size ws⟩
    simp [bytesOf?]
  | raw bytes =>
    cases h
    exact ⟨bytes, rfl, rfl⟩

theorem bytesOf?_of_not_suits {words : Nat} {raw : Bool} {value : MemoryValue}
    (h : ¬ value.Suits words raw) (size : Nat) : bytesOf? size words raw value = none := by
  cases value with
  | word w | words ws =>
    simp only [MemoryValue.Suits] at h
    simp only [bytesOf?, Bool.and_eq_true, Bool.not_eq_true', beq_iff_eq, if_neg h]
  | raw bytes => exact if_neg h

/-! ## The two checks -/

/-- The sizes that a word can have. -/
def Wide (size : Nat) : Prop := 1 ≤ size ∧ size ≤ 8

/-- A range of bytes that is short enough and ends at the last address or before it. -/
def Spans (address : UInt64) (len : Nat) : Prop :=
  len ≤ 2 ^ 20 ∧ (len = 0 ∨ address.toNat + len ≤ 2 ^ 64)

instance (size : Nat) : Decidable (Wide size) := inferInstanceAs (Decidable (_ ∧ _))

instance (address : UInt64) (len : Nat) : Decidable (Spans address len) :=
  inferInstanceAs (Decidable (_ ∧ _))

def sizeFault (size : Nat) : BackendFault :=
  .rejected ("unsupported word size " ++ String.ofList (Digits.decimal size))

def rangeFault : BackendFault := .rejected "address range out of bounds"

theorem checkSize_eq (size : Nat) :
    checkSize size = if Wide size then .ok () else .error (sizeFault size) := by
  unfold checkSize
  by_cases h : Wide size
  · have hsmall : ¬ (size = 0 ∨ widest < size) := by
      obtain ⟨hpos, hle⟩ := h
      simp only [widest]
      omega
    rw [if_neg hsmall, if_pos h]
  · have hlarge : size = 0 ∨ widest < size := by
      simp only [Wide] at h
      simp only [widest]
      omega
    rw [if_pos hlarge, if_neg h]
    rfl

theorem checkRange_eq (address : UInt64) (size words : Nat) :
    checkRange address size words =
      if Spans address (size * words) then .ok (size * words) else .error rangeFault := by
  have hspan : span? address size words =
      if Spans address (size * words) then some (size * words) else none :=
    span?_eq address size words
  rw [checkRange, hspan]
  by_cases h : Spans address (size * words)
  · rw [if_pos h, if_pos h]
  · rw [if_neg h, if_neg h]
    rfl

/-! ## Reads -/

theorem read_eq (m : Memory) (address : UInt64) (size words : Nat) (raw : Bool) :
    m.read address size words raw =
      if ¬ Wide size then (m, .error (sizeFault size))
      else if ¬ Spans address (size * words) then (m, .error rangeFault)
      else ({ m with reads := m.reads + 1 },
        .ok (if raw then .raw (m.dump address (size * words))
          else ofWords (m.wordsAt address.toNat size words))) := by
  unfold read
  rw [checkSize_eq, checkRange_eq]
  by_cases hwide : Wide size
  · by_cases hspans : Spans address (size * words)
    · rw [if_pos hwide, if_pos hspans, if_neg (not_not_intro hwide), if_neg (not_not_intro hspans)]
      rfl
    · rw [if_pos hwide, if_neg hspans, if_neg (not_not_intro hwide), if_pos hspans]
      rfl
  · rw [if_neg hwide, if_pos hwide]
    rfl

theorem read_ok_iff (m : Memory) (address : UInt64) (size words : Nat) (raw : Bool) :
    (∃ value, (m.read address size words raw).2 = .ok value) ↔
      Wide size ∧ Spans address (size * words) := by
  rw [read_eq]
  by_cases hwide : Wide size
  · by_cases hspans : Spans address (size * words)
    · simp [hwide, hspans]
    · simp [hwide, hspans]
  · simp [hwide]

/-! ## Writes -/

theorem write_of_suits {words : Nat} {raw : Bool} {value : MemoryValue}
    (h : value.Suits words raw) (m : Memory) (address : UInt64) (size : Nat) :
    ∃ data, bytesOf? size words raw value = some data ∧ data.length = value.extent size ∧
      m.write address size value words raw =
        if ¬ Wide size then (m, .error (sizeFault size))
        else if ¬ Spans address (value.extent size) then (m, .error rangeFault)
        else ({ m with writes := m.writes + 1 }.load address data, .ok true) := by
  obtain ⟨data, hform, hlength⟩ := bytesOf?_of_suits h size
  refine ⟨data, hform, hlength, ?_⟩
  unfold write
  rw [checkSize_eq]
  by_cases hwide : Wide size
  · simp only [if_pos hwide, hform, checkRange_eq, Nat.mul_one, hlength,
      if_neg (not_not_intro hwide)]
    by_cases hspans : Spans address (value.extent size)
    · simp only [if_pos hspans, if_neg (not_not_intro hspans)]
    · simp only [if_neg hspans, if_pos hspans]
  · simp only [if_neg hwide, if_pos hwide]

theorem write_of_not_suits {words : Nat} {raw : Bool} {value : MemoryValue}
    (h : ¬ value.Suits words raw) (m : Memory) (address : UInt64) (size : Nat) :
    m.write address size value words raw =
      (m, if Wide size then .ok false else .error (sizeFault size)) := by
  unfold write
  rw [checkSize_eq]
  by_cases hwide : Wide size
  · simp only [if_pos hwide, bytesOf?_of_not_suits h]
  · simp only [if_neg hwide]

theorem write_ok_iff (m : Memory) (address : UInt64) (size : Nat) (value : MemoryValue)
    (words : Nat) (raw : Bool) :
    (m.write address size value words raw).2 = .ok true ↔
      Wide size ∧ value.Suits words raw ∧ Spans address (value.extent size) := by
  by_cases hsuits : value.Suits words raw
  · obtain ⟨data, -, -, hwrite⟩ := write_of_suits hsuits m address size
    rw [hwrite]
    by_cases hwide : Wide size
    · by_cases hspans : Spans address (value.extent size)
      · simp [hwide, hsuits, hspans]
      · simp [hwide, hspans]
    · simp [hwide]
  · rw [write_of_not_suits hsuits]
    by_cases hwide : Wide size
    · simp [hwide, hsuits]
    · simp [hwide]

/-- The bytes of a write that is taken all have addresses, and are found there afterwards. -/
theorem byteAt_loaded {m : Memory} {address : UInt64} {data : List UInt8}
    (h : Spans address data.length) {i : Nat} (hi : i < data.length) :
    address.toNat + i < 2 ^ 64 ∧ (m.load address data).byteAt (address.toNat + i) = data[i] := by
  have hbelow : address.toNat + i < 2 ^ 64 := by
    obtain ⟨-, hnone | hend⟩ := h
    · omega
    · omega
  refine ⟨hbelow, ?_⟩
  have hoffset : address.toNat + i - address.toNat = i := by omega
  have hcovered : address.toNat + i < top ∧ address.toNat ≤ address.toNat + i ∧
      address.toNat + i - address.toNat < data.length := by
    refine ⟨hbelow, by omega, by omega⟩
  rw [byteAt_load, dif_pos hcovered]
  simp only [hoffset]

/-! ## Counters -/

/-- The answers to the requests of a run, each with its request. -/
def answers (m : Memory) : List Access → List (Request × Except BackendFault Reply)
  | [] => []
  | .load address data :: rest => (m.load address data).answers rest
  | .serve request :: rest => (request, (m.serve request).2) :: (m.serve request).1.answers rest

def isTakenRead : Request × Except BackendFault Reply → Bool
  | (.read .., .ok _) => true
  | _ => false

def isTakenWrite : Request × Except BackendFault Reply → Bool
  | (.write .., .ok (.flag true)) => true
  | _ => false

theorem counts_serve (m : Memory) (request : Request) :
    (m.serve request).1.reads =
        m.reads + (if isTakenRead (request, (m.serve request).2) then 1 else 0) ∧
      (m.serve request).1.writes =
        m.writes + (if isTakenWrite (request, (m.serve request).2) then 1 else 0) := by
  cases request with
  | read address size words raw =>
    simp only [serve, read_eq]
    by_cases hwide : Wide size
    · by_cases hspans : Spans address (size * words)
      · simp [hwide, hspans, Except.map, isTakenRead, isTakenWrite]
      · simp [hwide, hspans, Except.map, isTakenRead, isTakenWrite]
    · simp [hwide, Except.map, isTakenRead, isTakenWrite]
  | write address size value words raw =>
    by_cases hsuits : value.Suits words raw
    · obtain ⟨data, -, -, hwrite⟩ := write_of_suits hsuits m address size
      simp only [serve, hwrite]
      by_cases hwide : Wide size
      · by_cases hspans : Spans address (value.extent size)
        · simp [hwide, hspans, Except.map, isTakenRead, isTakenWrite, load]
        · simp [hwide, hspans, Except.map, isTakenRead, isTakenWrite]
      · simp [hwide, Except.map, isTakenRead, isTakenWrite]
    · simp only [serve, write_of_not_suits hsuits]
      by_cases hwide : Wide size
      · simp [hwide, Except.map, isTakenRead, isTakenWrite]
      · simp [hwide, Except.map, isTakenRead, isTakenWrite]

theorem counts_accessAll (m : Memory) (accesses : List Access) :
    (m.accessAll accesses).reads = m.reads + (m.answers accesses).countP isTakenRead ∧
      (m.accessAll accesses).writes = m.writes + (m.answers accesses).countP isTakenWrite := by
  induction accesses generalizing m with
  | nil => exact ⟨rfl, rfl⟩
  | cons x rest ih =>
    cases x with
    | load address data => exact ih (m.load address data)
    | serve request =>
      obtain ⟨hreads, hwrites⟩ := counts_serve m request
      obtain ⟨hreads', hwrites'⟩ := ih (m.serve request).1
      have hall : m.accessAll (.serve request :: rest) = (m.serve request).1.accessAll rest := rfl
      rw [hall, answers, List.countP_cons, List.countP_cons]
      omega

/-! ## Requests -/

/-- How a memory answers a read and a write with the same address, size and number of words. -/
structure Judged (m : Memory) (address : UInt64) (size words : Nat) (raw : Bool)
    (value : MemoryValue) : Prop where
  read : (∃ v, (m.read address size words raw).2 = .ok v) ↔
    Wide size ∧ Spans address (size * words)
  /-- the size is looked at first -/
  readRefused : ¬ (Wide size ∧ Spans address (size * words)) →
    m.read address size words raw =
      (m, .error (if Wide size then rangeFault else sizeFault size))
  write : (m.write address size value words raw).2 = .ok true ↔
    Wide size ∧ value.Suits words raw ∧ Spans address (value.extent size)
  writeSize : ¬ Wide size → m.write address size value words raw = (m, .error (sizeFault size))
  /-- a value of another form is no fault, wherever it should have gone -/
  writeForm : Wide size → ¬ value.Suits words raw →
    m.write address size value words raw = (m, .ok false)
  writeRange : Wide size → value.Suits words raw → ¬ Spans address (value.extent size) →
    m.write address size value words raw = (m, .error rangeFault)
  stored : Wide size → value.Suits words raw → Spans address (value.extent size) →
    ∃ data, bytesOf? size words raw value = some data ∧ data.length = value.extent size ∧
      m.write address size value words raw =
        ({ m with writes := m.writes + 1 }.load address data, .ok true) ∧
      ∀ i (h : i < data.length), address.toNat + i < 2 ^ 64 ∧
        (m.write address size value words raw).1.byteAt (address.toNat + i) = data[i]
  /-- a value that is no bytes is written exactly where it could be read -/
  alike : raw = false → value.Suits words raw →
    ((m.write address size value words raw).2 = .ok true ↔
      ∃ v, (m.read address size words raw).2 = .ok v)

theorem judged (m : Memory) (address : UInt64) (size words : Nat) (raw : Bool)
    (value : MemoryValue) : Judged m address size words raw value := by
  refine
    { read := read_ok_iff m address size words raw
      readRefused := fun hnot => ?_
      write := write_ok_iff m address size value words raw
      writeSize := fun hwide => ?_
      writeForm := fun hwide hsuits => ?_
      writeRange := fun hwide hsuits hspans => ?_
      stored := fun hwide hsuits hspans => ?_
      alike := fun hraw hsuits => ?_ }
  · rw [read_eq]
    by_cases hwide : Wide size
    · have hspans : ¬ Spans address (size * words) := fun hspans => hnot ⟨hwide, hspans⟩
      simp [hwide, hspans]
    · simp [hwide]
  · by_cases hsuits : value.Suits words raw
    · obtain ⟨data, -, -, hwrite⟩ := write_of_suits hsuits m address size
      rw [hwrite, if_pos hwide]
    · rw [write_of_not_suits hsuits, if_neg hwide]
  · rw [write_of_not_suits hsuits, if_pos hwide]
  · obtain ⟨data, -, -, hwrite⟩ := write_of_suits hsuits m address size
    rw [hwrite, if_neg (not_not_intro hwide), if_pos hspans]
  · obtain ⟨data, hform, hlength, hwrite⟩ := write_of_suits hsuits m address size
    rw [if_neg (not_not_intro hwide), if_neg (not_not_intro hspans)] at hwrite
    refine ⟨data, hform, hlength, hwrite, fun i hi => ?_⟩
    rw [hwrite]
    exact byteAt_loaded (hlength ▸ hspans) hi
  · subst hraw
    rw [write_ok_iff, read_ok_iff, MemoryValue.extent_of_suits hsuits]
    constructor
    · rintro ⟨hwide, -, hspans⟩
      exact ⟨hwide, hspans⟩
    · rintro ⟨hwide, hspans⟩
      exact ⟨hwide, hsuits, hspans⟩

/-- Every request is judged as it should be, and the counters tell how many were taken. -/
theorem requests_judged (m : Memory) :
    (∀ address size words raw value, Judged m address size words raw value) ∧
      ∀ accesses,
        (m.accessAll accesses).reads = m.reads + (m.answers accesses).countP isTakenRead ∧
          (m.accessAll accesses).writes = m.writes + (m.answers accesses).countP isTakenWrite := by
  constructor
  · intro address size words raw value
    exact judged m address size words raw value
  · intro accesses
    exact counts_accessAll m accesses

/-- The last address can be written, and what would reach past it is refused. -/
example : (new.write 0xFFFFFFFFFFFFFFFF 1 (.word 0xab) 1 false).2 = .ok true ∧
    (new.write 0xFFFFFFFFFFFFFFFF 2 (.word 0xffff) 1 false).2 = .error rangeFault ∧
    (new.write 0xFFFFFFFFFFFFFFFF 2 (.word 0xffff) 2 false).2 = .ok false := ⟨rfl, rfl, rfl⟩

end Memory
end TargetControl
