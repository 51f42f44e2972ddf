import TargetControl.Files.Tree
import TargetControl.Status
import TargetControl.Toml.Reader

/-!
The configuration of a target.

A configuration is a TOML document, one for each target.  Everything but the name has a default.
The same record is also read from JSON and written to it.
-/

namespace TargetControl

/-- What a target is set up with. -/
structure Config where
  name : String
  orchestrator : String
  /-- where the text log goes -/
  outputDirectory : Option String
  /-- where the event log goes -/
  eventLog : Option String
  /-- entries that are set from the start -/
  status : Entries
deriving DecidableEq

namespace Config

/-- The configuration of a target of which only the name is given. -/
def ofName (name : String) : Config := ⟨name, "orchestrator", none, none, .empty⟩

def logSource (c : Config) : String := c.orchestrator ++ ".targets." ++ c.name

/-- Where the text log is, if there is a directory for it. -/
def logPath (c : Config) : Option String :=
  c.outputDirectory.map fun dir =>
    String.ofList (Path.join dir.toList (c.name ++ ".log").toList)

/-! ## Data form -/

def optionalText : Option String → Json
  | some s => .string s
  | none => .null

def toJson (c : Config) : Json :=
  .object [("name", .string c.name), ("orchestrator", .string c.orchestrator),
    ("output_directory", optionalText c.outputDirectory),
    ("event_log", optionalText c.eventLog), ("status", .object c.status.list)]

open Json (Draft Ending)
open Decode

/-- Reads the members of a map of entries. -/
def decodeEntries (room : Nat) : List (Draft × Draft) → Ending → Entries → Result Entries
  | [], ending, entries => (lift ending.finish).map fun _ => entries
  | (key, value) :: rest, ending, entries => do
    let key ← lift key.key
    let v ← lift (value.read room)
    decodeEntries room rest ending (entries.insert key v.tidy)

/-- Reads a map of entries. -/
def decodeStatus (room : Nat) : Draft → Result Entries
  | .object members ending => decodeEntries room members ending .empty
  | d => wrongType "a map" d

/-- The fields of the record. -/
def fields (source : Source) : List (FieldReader Config) :=
  [ ⟨"name", fun d c => do return { c with name := ← text "a string" d }, none⟩,
    ⟨"orchestrator", fun d c => do return { c with orchestrator := ← text "a string" d },
      some id⟩,
    ⟨"output_directory",
      fun d c => do return { c with outputDirectory := ← optional (text "path string") d },
      some id⟩,
    ⟨"event_log",
      fun d c => do return { c with eventLog := ← optional (text "path string") d },
      some id⟩,
    ⟨"status",
      fun d c => do return { c with status := ← decodeStatus (source.room - 1) d },
      some id⟩ ]

def decode (source : Source) (d : Draft) : Result Config :=
  record source "struct TargetConfig" (fields source) (ofName "") d

/-! ## Documents -/

/-- Why a configuration cannot be had. -/
inductive Error where
  /-- the file cannot be read -/
  | file (failure : Failure)
  /-- the document is no TOML -/
  | unreadable
  /-- the document does not hold a configuration -/
  | unfit (cause : Cause)
deriving DecidableEq, Repr

/-- The configuration in a TOML document. -/
def ofToml (s : String) : Except Error Config :=
  match Toml.document s with
  | none => .error .unreadable
  | some tree =>
    match decode .tree (Draft.ofJson tree) with
    | .ok c => .ok c
    | .error (.unfit cause) => .error (.unfit cause)
    | .error (.flawed _) => .error .unreadable

/-- The configuration in a file. -/
def load (files : FileTree) (path : String) : Except Error Config :=
  match files.readText path.toList with
  | .error fault => .error (.file (.file path fault))
  | .ok s => ofToml s

end Config
end TargetControl
