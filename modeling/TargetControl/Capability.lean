/-!
The six capabilities a backend can lend to a target, and the slots that hold the backends.

A target has one slot for each capability.  A slot is empty or holds what one backend is known by.
-/

namespace TargetControl

/-- What a backend can do for a target. -/
inductive Capability where
  | execution
  | memory
  | register
  | signal
  | monitor
  | remoteMemory
deriving DecidableEq, Repr, Inhabited

namespace Capability

/-- Every capability, in the order in which a target releases them. -/
def all : List Capability := [.execution, .memory, .register, .signal, .monitor, .remoteMemory]

/-- The name of a capability in messages and data. -/
def name : Capability → String
  | .execution => "execution"
  | .memory => "memory"
  | .register => "register"
  | .signal => "signal"
  | .monitor => "monitor"
  | .remoteMemory => "remote_memory"

/-- The name of a capability in descriptions. -/
def label : Capability → String
  | .execution => "Execution"
  | .memory => "Memory"
  | .register => "Register"
  | .signal => "Signal"
  | .monitor => "Monitor"
  | .remoteMemory => "RemoteMemory"

/-- The place of a capability in the order. -/
def rank : Capability → Nat
  | .execution => 0
  | .memory => 1
  | .register => 2
  | .signal => 3
  | .monitor => 4
  | .remoteMemory => 5

instance : LT Capability := ⟨fun a b => a.rank < b.rank⟩

instance (a b : Capability) : Decidable (a < b) := inferInstanceAs (Decidable (a.rank < b.rank))

def ofName? (s : String) : Option Capability := all.find? fun kind => kind.name = s

theorem ofName?_name (k : Capability) : ofName? k.name = some k := by
  cases k <;> rfl

theorem mem_all (k : Capability) : k ∈ all := by
  cases k <;> decide

end Capability

/-- What each slot of a target holds. -/
def Slots (α : Type) := Capability → Option α

namespace Slots

variable {α : Type}

def empty : Slots α := fun _ => none

/-- The slots with something in one of them. -/
def fill (slots : Slots α) (kind : Capability) (held : α) : Slots α :=
  fun k => if k = kind then some held else slots k

/-- Whether a slot is occupied. -/
def has (slots : Slots α) (kind : Capability) : Bool := (slots kind).isSome

/-- The capabilities whose slots are occupied, in order. -/
def attached (slots : Slots α) : List Capability := Capability.all.filter slots.has

def isEmpty (slots : Slots α) : Bool := slots.attached.isEmpty

/-- The description of slots lists the capabilities they hold. -/
def describe (slots : Slots α) : String :=
  "[" ++ ", ".intercalate (slots.attached.map Capability.label) ++ "]"

@[simp] theorem empty_apply (k : Capability) : (empty : Slots α) k = none := rfl

theorem fill_apply (slots : Slots α) (kind k : Capability) (held : α) :
    slots.fill kind held k = if k = kind then some held else slots k := rfl

theorem has_of_some {slots : Slots α} {k : Capability} {held : α} (h : slots k = some held) :
    slots.has k = true := by
  rw [has, h]
  rfl

theorem has_of_none {slots : Slots α} {k : Capability} (h : slots k = none) :
    slots.has k = false := by
  rw [has, h]
  rfl

theorem mem_attached {slots : Slots α} {k : Capability} :
    k ∈ slots.attached ↔ slots.has k = true := by
  simp only [attached, List.mem_filter, Capability.mem_all, true_and]

end Slots
end TargetControl
