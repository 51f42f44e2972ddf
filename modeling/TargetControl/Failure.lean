import TargetControl.Capability
import TargetControl.Files.SystemError
import TargetControl.Lifecycle
import TargetControl.Time.Duration

/-!
Why a request fails, and how each failure reads.

Three kinds of failure reach a caller.  A refusal is raised by the target before any backend is
touched; a backend's own failure is handed on as it is; the others come from attaching, waiting,
initializing and files.  `Failure.message` is the only place where a failure becomes text.
-/

namespace TargetControl

/-! ## Files -/

/-- Why a file operation fails: an error number of the system, or a reason in words. -/
inductive FileFault where
  | system (code : Int)
  | reason (text : String)
deriving DecidableEq, Repr

namespace FileFault

def message : FileFault → String
  | .system code => SystemError.message code
  | .reason text => text

@[match_pattern] def noSuchEntry : FileFault := .system 2

def alreadyExists : FileFault := .system 17

def notADirectory : FileFault := .system 20

def isADirectory : FileFault := .system 21

def noSpace : FileFault := .system 28

def nameTooLong : FileFault := .system 36

def nulInName : FileFault := .reason "file name contained an unexpected NUL byte"

def notText : FileFault := .reason "stream did not contain valid UTF-8"

end FileFault

/-! ## Refusals -/

/-- What stands in the way of an action. -/
inductive Obstacle where
  /-- no backend has been attached for the capability the action needs -/
  | unavailable (kind : Capability)
  /-- the target is in another state than the action needs -/
  | wrongState (expected actual : State)
deriving DecidableEq, Repr

def Obstacle.message : Obstacle → String
  | .unavailable kind => "capability unavailable: no " ++ kind.name ++ " protocol attached"
  | .wrongState expected actual =>
    "wrong state: expected " ++ expected.name ++ ", target is " ++ actual.name

/-- An action that was refused, and why. -/
structure Refusal where
  action : String
  obstacle : Obstacle
deriving DecidableEq, Repr

namespace Refusal

def message (r : Refusal) : String := r.action ++ "() requested but " ++ r.obstacle.message

def isUnavailable (r : Refusal) : Bool :=
  match r.obstacle with
  | .unavailable _ => true
  | .wrongState .. => false

end Refusal

/-! ## Backends -/

/-- How a backend fails. -/
inductive BackendFault where
  | file (fault : FileFault)
  | timeout
  | rejected (reason : String)
  | other (reason : String)
deriving DecidableEq, Repr

def BackendFault.message : BackendFault → String
  | .file fault => "I/O error: " ++ fault.message
  | .timeout => "protocol timeout"
  | .rejected reason => "request rejected by backend: " ++ reason
  | .other reason => "protocol error: " ++ reason

/-! ## Failures -/

/-- Why a call on a target fails. -/
inductive Failure where
  | refused (refusal : Refusal)
  | backend (fault : BackendFault)
  | alreadyAttached (target : String) (kind : Capability)
  | exited (target : String)
  | timedOut (target : String) (limit : Duration)
  | initFailed (target : String) (reason : String)
  | file (path : String) (fault : FileFault)
deriving DecidableEq, Repr

namespace Failure

def message : Failure → String
  | .refused refusal => refusal.message
  | .backend fault => fault.message
  | .alreadyAttached target kind =>
    kind.name ++ " protocol already attached to target '" ++ target ++ "'"
  | .exited target => "target '" ++ target ++ "' exited while waiting for it to stop"
  | .timedOut target limit => "target '" ++ target ++ "' did not stop within " ++ limit.text
  | .initFailed target reason =>
    "initialization of target '" ++ target ++ "' failed: " ++ reason
  | .file path fault => "I/O error at " ++ path ++ ": " ++ fault.message

/-- The failure of the system behind a failure, where there is one. -/
def cause? : Failure → Option FileFault
  | .backend (.file fault) => some fault
  | .file _ fault => some fault
  | _ => none

end Failure
end TargetControl
