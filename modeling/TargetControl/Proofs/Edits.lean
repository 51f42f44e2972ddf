import TargetControl.Operation

/-!
Edits of the entries that stand beside the state.

The entries after some edits are a map from keys to values, and of each key the last edit that is
about it decides.
-/

namespace TargetControl

inductive Edit where
  | set (key : String) (value : Json)
  | remove (key : String)

namespace Edit

def apply (entries : Entries) : Edit → Entries
  | .set key value => entries.insert key value
  | .remove key => entries.erase key

def applyAll (edits : List Edit) (entries : Entries) : Entries := edits.foldl apply entries

/-- What an edit leaves under a key, if it is about that key. -/
def leaves? (key : String) : Edit → Option (Option Json)
  | .set k value => if key = k then some (some value) else none
  | .remove k => if key = k then some none else none

/-- The value most recently set for a key and not removed since, initially the configured one. -/
def latest (configured : Entries) (edits : List Edit) (key : String) : Option Json :=
  (edits.filterMap (leaves? key)).getLast?.getD (configured.find? key)

theorem applyAll_append (first second : List Edit) (entries : Entries) :
    applyAll (first ++ second) entries = applyAll second (applyAll first entries) :=
  List.foldl_append

theorem find?_apply (e : Edit) (entries : Entries) (key : String) :
    (e.apply entries).find? key = (e.leaves? key).getD (entries.find? key) := by
  cases e with
  | set k value =>
    rw [apply, leaves?, Entries.find?_insert]
    split <;> rfl
  | remove k =>
    rw [apply, leaves?, Entries.find?_erase]
    split <;> rfl

theorem find?_applyAll (edits : List Edit) (entries : Entries) (key : String) :
    (applyAll edits entries).find? key = latest entries edits key := by
  induction edits generalizing entries with
  | nil => rfl
  | cons e rest ih =>
    show (applyAll rest (e.apply entries)).find? key = _
    rw [ih, latest, latest, find?_apply, List.filterMap_cons]
    cases e.leaves? key with
    | none => rfl
    | some left =>
      rw [List.getLast?_cons]
      cases (rest.filterMap (leaves? key)).getLast? <;> rfl

end Edit

/-- The edit that a step of a setup makes, if it is one. -/
def SetupStep.edits : SetupStep → List Edit
  | .setEntry key value => [.set key value]
  | .removeEntry key => [.remove key]
  | .nested | .report _ | .attach _ | .offer _ | .act _ | .shutdown => []

/-- The edit that an operation makes, if it is one.  A setup that it runs may make others. -/
def Operation.edits : Operation → List Edit
  | .setEntry key value => [.set key value]
  | .removeEntry key => [.remove key]
  | .install .. | .addSink _ | .attach _ | .init | .shutdown | .report _ | .act _ | .wait _
  | .waitFor .. | .deliver _ | .serve .. | .signal .. | .arm .. | .load .. | .close .. => []

end TargetControl
