import TargetControl.Device.Request

/-!
A guest: a device of any make.

A guest answers as its script says.  The script sees what the guest has been asked before, so it can
stand for any device whose answers hang on its past.  A guest can serve in every slot, may report
any states before it answers, and may do so while it is released as well.
-/

namespace TargetControl

/-- How a guest behaves: its answers, and the states that it reports before it gives them. -/
structure Script where
  /-- the answer to a request after those it has been given -/
  answer : List Request → Request → Except BackendFault Reply × List State
  /-- the outcome of a release after the requests it has been given and its releases so far -/
  release : List Request → Nat → Except BackendFault Unit × List State

/-- A guest that does whatever it is asked, and reports nothing. -/
def Script.silent : Script := ⟨fun _ _ => (.ok .done, []), fun _ _ => (.ok (), [])⟩

structure Guest where
  script : Script
  /-- the requests it was given, oldest first -/
  heard : List Request
  shutdowns : Nat

namespace Guest

def new (script : Script) : Guest := ⟨script, [], 0⟩

/-- A guest after a request, its answer, and the states to be delivered at once. -/
structure Response where
  guest : Guest
  outcome : Except BackendFault Reply
  states : List State

def serve (g : Guest) (request : Request) : Response :=
  let (outcome, states) := g.script.answer g.heard request
  ⟨{ g with heard := g.heard ++ [request] }, outcome, states⟩

/-- Shuts the guest down.  It counts also where it fails. -/
def shutdown (g : Guest) : Guest × Except BackendFault Unit × List State :=
  ({ g with shutdowns := g.shutdowns + 1 }, g.script.release g.heard g.shutdowns)

end Guest
end TargetControl
