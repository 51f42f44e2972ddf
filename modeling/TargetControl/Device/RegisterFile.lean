import TargetControl.Device.Reply
import TargetControl.Text.Keyed

/-!
A register file: words under a fixed set of names, all zero at first.
-/

namespace TargetControl
namespace RegisterFile

/-- What can be asked of a register file. -/
inductive Request where
  | read (name : String)
  | write (name : String) (value : UInt64)
deriving DecidableEq, Repr

end RegisterFile

structure RegisterFile where
  values : Keyed String UInt64
  shutdowns : Nat
deriving Repr

namespace RegisterFile

def new (names : List String) : RegisterFile := ⟨Keyed.ofPairs (names.map (·, 0)), 0⟩

/-- The registers of a small processor. -/
def standardNames : List String :=
  (List.range 13).map (fun n => String.ofList ('r' :: Digits.decimal n)) ++
    ["sp", "lr", "pc", "cpsr"]

def value? (f : RegisterFile) (name : String) : Option UInt64 := Keyed.find? name f.values

def read (f : RegisterFile) (name : String) : Except BackendFault UInt64 :=
  match f.value? name with
  | some w => .ok w
  | none => .error (.rejected ("unknown register '" ++ name ++ "'"))

/-- Writes a register.  One that there is not is not made. -/
def write (f : RegisterFile) (name : String) (value : UInt64) : RegisterFile × Bool :=
  match f.value? name with
  | some _ => ({ f with values := Keyed.insert name value f.values }, true)
  | none => (f, false)

def serve (f : RegisterFile) : Request → RegisterFile × Except BackendFault Reply
  | .read name => (f, (f.read name).map .word)
  | .write name value =>
    let (f, effect) := f.write name value
    (f, .ok (.flag effect))

def shutdown (f : RegisterFile) : RegisterFile := { f with shutdowns := f.shutdowns + 1 }

/-- A write changes one register, and only if it is there. -/
theorem value?_write (f : RegisterFile) (name name' : String) (value : UInt64) :
    (f.write name value).1.value? name' =
      if name' = name then (f.value? name).map fun _ => value else f.value? name' := by
  unfold write
  cases h : f.value? name with
  | none =>
    by_cases hn : name' = name
    · subst hn
      simp [h]
    · simp [hn]
  | some w => simp only [value?, Keyed.find?_insert, Option.map_some]

end RegisterFile
end TargetControl
