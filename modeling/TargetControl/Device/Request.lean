import TargetControl.Action
import TargetControl.Device.Memory
import TargetControl.Device.Processor
import TargetControl.Device.RegisterFile

/-!
Requests: the actions of a target together with their arguments.
-/

namespace TargetControl

/-- A request for the kind of device that serves it. -/
inductive Request where
  | processor (request : Processor.Request)
  | memory (request : Memory.Request)
  | registers (request : RegisterFile.Request)
deriving DecidableEq, Repr

namespace Request

def action : Request → Action
  | .processor .cont => .cont
  | .processor .stop => .stop
  | .processor .step => .step
  | .processor (.setBreakpoint ..) => .setBreakpoint
  | .processor (.setWatchpoint ..) => .setWatchpoint
  | .processor (.removeBreakpoint _) => .removeBreakpoint
  | .memory (.read ..) => .readMemory
  | .memory (.write ..) => .writeMemory
  | .registers (.read _) => .readRegister
  | .registers (.write ..) => .writeRegister

end Request
end TargetControl
