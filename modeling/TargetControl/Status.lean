import TargetControl.Decode.Record
import TargetControl.Json.Writer
import TargetControl.Lifecycle

/-!
The status of a target at one moment: its state together with the entries that were set beside it.

The key of the state is reserved.  An entry may be stored under it, but a snapshot leaves the
entry out, so the state in a snapshot is always the target's own.
-/

namespace TargetControl

/-- Entries that are set beside the state of a target, in the order of their keys. -/
structure Entries where
  list : Keyed String Json
  ordered : Keyed.Ordered list
deriving DecidableEq

namespace Entries

def empty : Entries := ⟨[], .nil⟩

def find? (entries : Entries) (key : String) : Option Json := Keyed.find? key entries.list

def insert (entries : Entries) (key : String) (value : Json) : Entries :=
  ⟨Keyed.insert key value entries.list, entries.ordered.insert key value⟩

def erase (entries : Entries) (key : String) : Entries :=
  ⟨Keyed.erase key entries.list, entries.ordered.erase key⟩

/-- The entries that setting the given ones in turn makes; of two equal keys the later wins. -/
def ofPairs (pairs : List (String × Json)) : Entries :=
  pairs.foldl (fun entries p => entries.insert p.1 p.2) empty

def keys (entries : Entries) : List String := Keyed.keys entries.list

theorem list_ofPairs (pairs : List (String × Json)) :
    (ofPairs pairs).list = Keyed.ofPairs pairs := by
  have hfold : ∀ (pairs : List (String × Json)) (entries : Entries),
      (pairs.foldl (fun entries p => entries.insert p.1 p.2) entries).list =
        pairs.foldl (fun acc p => Keyed.insert p.1 p.2 acc) entries.list := by
    intro pairs
    induction pairs with
    | nil => exact fun _ => rfl
    | cons p rest ih => exact fun entries => ih (entries.insert p.1 p.2)
  exact hfold pairs empty

theorem find?_insert (entries : Entries) (key key' : String) (value : Json) :
    (entries.insert key value).find? key' =
      if key' = key then some value else entries.find? key' :=
  Keyed.find?_insert key key' value entries.list

theorem find?_erase (entries : Entries) (key key' : String) :
    (entries.erase key).find? key' = if key' = key then none else entries.find? key' :=
  Keyed.find?_erase key key' entries.list

end Entries

/-- A snapshot: the state and the entries under all other keys. -/
structure Status where
  state : State
  extra : Entries
deriving DecidableEq

namespace Status

/-- The key under which the state stands in a snapshot. -/
def stateKey : String := "state"

def merge (state : State) (entries : Entries) : Status := ⟨state, entries.erase stateKey⟩

/-- The value of a key, the state's among them. -/
def get? (s : Status) (key : String) : Option Json :=
  if key = stateKey then some (.string s.state.name) else s.extra.find? key

/-- The snapshot as one map. -/
def toMap (s : Status) : Entries := s.extra.insert stateKey (.string s.state.name)

/-- The data form: the state first, then the entries in the order of their keys. -/
def toJson (s : Status) : Json :=
  .object ((stateKey, .string s.state.name) :: s.extra.list)

/-! ## Reading -/

open Json (Draft Ending)
open Decode

/-- Reads the members of an object: the state, if it is there, and the other members. -/
def decodeMembers : List (Draft × Draft) → Ending → Option State → List (String × Json) →
    Result (Option State × List (String × Json))
  | [], ending, state, others => (lift ending.finish).map fun _ => (state, others.reverse)
  | (key, value) :: rest, ending, state, others => do
    let key ← lift key.key
    if key = stateKey then
      match state with
      | some _ => unfit (.duplicateField stateKey)
      | none =>
        let s ← variant State.name State.all .text value
        decodeMembers rest ending (some s) others
    else
      let v ← lift (value.read Source.text.room)
      decodeMembers rest ending state ((key, v) :: others)

def decode : Draft → Result Status
  | .object members ending => do
    match ← decodeMembers members ending none [] with
    | (none, _) => unfit (.missingField stateKey)
    | (some state, others) => return ⟨state, .ofPairs (Json.tidyMembers others)⟩
  | d => wrongType "struct TargetStatus" d

theorem find?_merge (state : State) (entries : Entries) (key : String) :
    (merge state entries).extra.find? key =
      if key = stateKey then none else entries.find? key :=
  entries.find?_erase stateKey key

theorem find?_toMap (s : Status) (key : String) : s.toMap.find? key = s.get? key := by
  simp only [toMap, get?, Entries.find?_insert]

end Status
end TargetControl
