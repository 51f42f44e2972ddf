import TargetControl.Breakpoint
import TargetControl.Failure
import TargetControl.MemoryValue

/-!
What a device answers to a request.
-/

namespace TargetControl

/-- The answer to a request that a device has taken. -/
inductive Reply where
  /-- the request has been issued -/
  | done
  /-- whether the request had an effect -/
  | flag (effect : Bool)
  | breakpoint (id : BreakpointId)
  | word (w : UInt64)
  | memory (value : MemoryValue)
deriving DecidableEq, Repr

end TargetControl
