import TargetControl.Failure

/-!
A peripheral: a device for the capabilities that a target only attaches and releases.
-/

namespace TargetControl

structure Peripheral where
  /-- whether releasing it fails -/
  failing : Bool
  shutdowns : Nat
deriving DecidableEq, Repr

namespace Peripheral

def new (failing : Bool) : Peripheral := ⟨failing, 0⟩

/-- Shuts the peripheral down.  It counts also where it fails. -/
def shutdown (p : Peripheral) : Peripheral × Except BackendFault Unit :=
  ({ p with shutdowns := p.shutdowns + 1 },
    if p.failing then .error (.other "connection already closed") else .ok ())

end Peripheral
end TargetControl
