import TargetControl.Failure
import TargetControl.Files.Path
import TargetControl.Text.Lossy

/-!
A tree of files.

An entry is known by the names on the way to it from the root, which is always a directory.
Operations take paths as texts and walk them name by name, from the root or from the working
directory, so a path leads through a directory only if it is there and is one.  Each operation
either changes the tree or gives the fault that the system would.
-/

namespace TargetControl

/-- What a file holds: a text, or bytes that are none. -/
inductive Content where
  | text (chars : List Char)
  | bytes (data : List UInt8)
deriving DecidableEq, Repr

namespace Content

/-- The UTF-8 bytes of a text. -/
def encode (chars : List Char) : List UInt8 := (String.ofList chars).toUTF8.toList

def ofBytes (data : List UInt8) : Content :=
  match String.fromUTF8? ⟨data.toArray⟩ with
  | some s => .text s.toList
  | none => .bytes data

/-- The content with a text behind it. -/
def append (more : List Char) : Content → Content
  | .text chars => .text (chars ++ more)
  | .bytes data => .bytes (data ++ encode more)

/-- The content as text, with replacement characters where it is none. -/
def shown : Content → List Char
  | .text chars => chars
  | .bytes data => Lossy.decode data

/-- The lines of a content, without the line feeds between them. -/
def lines (content : Content) : List String :=
  ((String.ofList content.shown).splitOn "\n")

end Content

/-- An entry of a tree. -/
inductive FileNode where
  | directory
  | file (content : Content)
  /-- a device that takes everything and keeps nothing -/
  | sink
  /-- a device on which there is no space -/
  | full
deriving DecidableEq, Repr

/-- A tree of files with a working directory. -/
structure FileTree where
  working : List String
  entries : List (List String × FileNode)
deriving Repr

namespace FileTree

/-! ## Entries -/

/-- The entry with the given names. -/
def get? (t : FileTree) (names : List String) : Option FileNode :=
  if names = [] then some .directory
  else (t.entries.find? fun e => e.1 = names).map Prod.snd

/-- Replaces an entry in a list, or adds it at the end. -/
def put (names : List String) (node : FileNode) :
    List (List String × FileNode) → List (List String × FileNode)
  | [] => [(names, node)]
  | (k, v) :: rest => if k = names then (names, node) :: rest else (k, v) :: put names node rest

/-- The tree with an entry. -/
def set (t : FileTree) (names : List String) (node : FileNode) : FileTree :=
  { t with entries := put names node t.entries }

theorem find?_put (names names' : List String) (node : FileNode)
    (entries : List (List String × FileNode)) :
    ((put names node entries).find? fun e => e.1 = names').map Prod.snd =
      if names' = names then some node
      else (entries.find? fun e => e.1 = names').map Prod.snd := by
  induction entries with
  | nil =>
    simp only [put, List.find?_cons, List.find?_nil]
    by_cases h : names = names'
    · simp [h]
    · simp [h, Ne.symm h]
  | cons e rest ih =>
    obtain ⟨k, v⟩ := e
    simp only [put]
    by_cases hk : k = names
    · subst hk
      simp only [if_true, List.find?_cons]
      by_cases h : k = names'
      · simp [h]
      · simp [h, Ne.symm h]
    · simp only [if_neg hk, List.find?_cons]
      by_cases h : k = names'
      · subst h
        simp [hk]
      · simp [h, ih]

/-- Reading an entry of a tree in which one has been set. -/
theorem get?_set (t : FileTree) {names : List String} (hn : names ≠ []) (node : FileNode)
    (names' : List String) :
    (t.set names node).get? names' = if names' = names then some node else t.get? names' := by
  unfold get?
  by_cases h : names' = []
  · subst h
    simp [Ne.symm hn]
  · simp only [if_neg h]
    exact find?_put names names' node t.entries

/-! ## Walking -/

/-- The longest name of an entry, in bytes. -/
def nameLimit : Nat := 255

/-- The longest path, in bytes. -/
def pathLimit : Nat := 4095

/-- The entry of a name in a directory.  A name that is too long is refused where it is looked up,
and not before. -/
def entry? (t : FileTree) (directory : List String) (name : String) :
    Except FileFault (Option FileNode) :=
  if nameLimit < name.utf8ByteSize then .error .nameTooLong
  else .ok (t.get? (directory ++ [name]))

/-- Goes from a directory along some segments, each of which must be a directory. -/
def walk (t : FileTree) : List String → List String → Except FileFault (List String)
  | at_, [] => .ok at_
  | at_, segment :: rest =>
    if segment = "" ∨ segment = "." then walk t at_ rest
    else if segment = ".." then walk t at_.dropLast rest
    else
      match t.entry? at_ segment with
      | .ok (some .directory) => walk t (at_ ++ [segment]) rest
      | .ok (some _) => .error .notADirectory
      | .ok none => .error .noSuchEntry
      | .error fault => .error fault

/-- Where the last segment of a path leads. -/
inductive Place where
  /-- to a directory that is there: the root, a dot or two dots -/
  | known (names : List String)
  /-- to a name in a directory; `slash` tells whether a slash follows it -/
  | name (directory : List String) (name : String) (slash : Bool)

/-- Splits a path into the segments to walk and its last segment, with the slashes behind it. -/
def splitPath (path : List Char) : List String × Option String × Bool :=
  let segments := (Path.segments path).map String.ofList
  let reversed := segments.reverse
  match reversed.dropWhile (· = "") with
  | [] => ([], none, false)
  | last :: front => (front.reverse, some last, reversed.head? = some "")

/-- Where a path leads. -/
def locate (t : FileTree) (path : List Char) : Except FileFault Place := do
  if path.contains (Char.ofNat 0) then throw .nulInName
  if path = [] then throw .noSuchEntry
  if pathLimit < (String.ofList path).utf8ByteSize then throw .nameTooLong
  let start := if Path.isAbsolute path then [] else t.working
  match splitPath path with
  | (_, none, _) => return .known start
  | (front, some last, slash) =>
    let directory ← t.walk start front
    if last = "." then return .known directory
    else if last = ".." then return .known directory.dropLast
    else return .name directory last slash

/-! ## Operations -/

def makeDirectory (t : FileTree) (path : List Char) : Except FileFault FileTree := do
  match ← t.locate path with
  | .known _ => throw .alreadyExists
  | .name directory name _ =>
    match ← t.entry? directory name with
    | some _ => throw .alreadyExists
    | none => return t.set (directory ++ [name]) .directory

def isDirectory (t : FileTree) (path : List Char) : Bool :=
  match t.locate path with
  | .ok (.known _) => true
  | .ok (.name directory name _) =>
    match t.entry? directory name with
    | .ok (some .directory) => true
    | _ => false
  | .error _ => false

/-- Makes a directory and those on the way to it that are missing.  What has been made stays also
where the rest fails. -/
def makeDirectories : Nat → FileTree → List Char → FileTree × Except FileFault Unit
  | 0, t, _ => (t, .ok ())
  | fuel + 1, t, path =>
    if path = [] then (t, .ok ())
    else
      match t.makeDirectory path with
      | .ok t => (t, .ok ())
      | .error .noSuchEntry =>
        match Path.parent? path with
        | none => (t, .error (.reason "failed to create whole tree"))
        | some parent =>
          match makeDirectories fuel t parent with
          | (t, .error fault) => (t, .error fault)
          | (t, .ok ()) =>
            match t.makeDirectory path with
            | .ok t => (t, .ok ())
            | .error fault => (t, if t.isDirectory path then .ok () else .error fault)
      | .error fault => (t, if t.isDirectory path then .ok () else .error fault)

def makeAll (t : FileTree) (path : List Char) : FileTree × Except FileFault Unit :=
  makeDirectories (path.length + 1) t path

/-- Opens a file for writing at its end: the tree with the file in it, and the file's names.  A
slash at the end asks for a directory, whatever stands in front of it. -/
def openAppend (t : FileTree) (path : List Char) : Except FileFault (FileTree × List String) := do
  match ← t.locate path with
  | .known _ => throw .isADirectory
  | .name directory name slash =>
    if slash then throw .isADirectory
    let names := directory ++ [name]
    match ← t.entry? directory name with
    | some .directory => throw .isADirectory
    | some _ => return (t, names)
    | none => return (t.set names (.file (.text [])), names)

/-- Writes at the end of an open file. -/
def write (t : FileTree) (names : List String) (chars : List Char) : Except FileFault FileTree :=
  match t.get? names with
  | some (.file content) => .ok (t.set names (.file (content.append chars)))
  | some .full => .error .noSpace
  | _ => .ok t

def readText (t : FileTree) (path : List Char) : Except FileFault String := do
  match ← t.locate path with
  | .known _ => throw .isADirectory
  | .name directory name slash =>
    match ← t.entry? directory name with
    | none => throw .noSuchEntry
    | some .directory => throw .isADirectory
    | some (.file content) =>
      if slash then throw .notADirectory
      else
        match content with
        | .text chars => return String.ofList chars
        | .bytes _ => throw .notText
    | some _ => if slash then throw .notADirectory else return ""

/-! ## Setting up and listing -/

/-- A tree with nothing but the devices and an empty working directory. -/
def scratch : FileTree :=
  { working := ["scratch"]
    entries := [(["dev"], .directory), (["dev", "null"], .sink), (["dev", "full"], .full),
      (["scratch"], .directory)] }

/-- The tree with a file or directory at a path, and the directories on the way to it. -/
def place (t : FileTree) (path : List Char) (content : Option Content) : FileTree :=
  match content with
  | none => (t.makeAll path).1
  | some content =>
    let t := ((Path.parent? path).map fun parent => (t.makeAll parent).1).getD t
    match t.openAppend path with
    | .ok (t, names) => t.set names (.file content)
    | .error _ => t

/-- The entries below the working directory, by their names from there.  A directory is listed
only while it is empty. -/
def listing (t : FileTree) : List (List String × Option Content) :=
  t.entries.filterMap fun (names, node) =>
    if t.working.isPrefixOf names && names ≠ t.working then
      let inside := names.drop t.working.length
      match node with
      | .file content => some (inside, some content)
      | .directory =>
        if t.entries.any fun (other, _) => names.isPrefixOf other && other ≠ names then none
        else some (inside, none)
      | _ => some (inside, some (.text []))
    else none

end FileTree
end TargetControl
