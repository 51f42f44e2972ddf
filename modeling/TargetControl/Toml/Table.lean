import TargetControl.Json.Value

/-!
The tables of a TOML document while it is being read.

A document may open a table in several ways: by a header, by a dotted key, as the parent of
another header, or inline.  A table knows which of them it was, because that decides what may
still be added to it.  Items keep the order in which they were first written; a header that opens
a table which so far was only somebody's parent moves it to the end.
-/

namespace TargetControl
namespace Toml

/-- An item of a table. -/
inductive Node where
  /-- a value, inline tables among them; nothing can be added to it -/
  | value (v : Json)
  /-- a table; `implied` when no header has opened it, `dotted` when a dotted key made it -/
  | table (implied dotted : Bool) (items : List (String × Node))
  /-- an array of tables, each opened by its own header -/
  | tables (elements : List (List (String × Node)))

/-- The items of a table. -/
abbrev Items := List (String × Node)

namespace Items

def find? (key : String) (items : Items) : Option Node :=
  (List.find? (fun item => item.1 = key) items).map Prod.snd

def replace (key : String) (node : Node) (items : Items) : Items :=
  items.map fun item => if item.1 = key then (key, node) else item

/-- The items without the one under a key. -/
def erase (key : String) (items : Items) : Items := items.filter fun item => item.1 ≠ key

/-- Adds an item under a key that is not there yet. -/
def add? (key : String) (node : Node) (items : Items) : Option Items :=
  match items.find? key with
  | some _ => none
  | none => some (items ++ [(key, node)])

/-- Changes the table at the end of a path of keys.  Tables on the way that do not exist are
implied; an array of tables stands for its last element.  `dotted` says that the path is the front
of a dotted key, which must not enter a table that a header has opened.  The change is told whether
its table was made by a dotted key, and gives something back beside the new items. -/
def changeAt {α : Type} (dotted : Bool) (change : Bool → Items → Option (Items × α)) :
    List String → Bool → Items → Option (Items × α)
  | [], isDotted, items => change isDotted items
  | key :: rest, _, items =>
    match items.find? key with
    | none => do
      let (inner, a) ← changeAt dotted change rest dotted []
      return (items ++ [(key, .table true dotted inner)], a)
    | some (.value _) => none
    | some (.tables elements) =>
      match elements.reverse with
      | [] => none
      | last :: front => do
        let (inner, a) ← changeAt dotted change rest false last
        return (items.replace key (.tables (inner :: front).reverse), a)
    | some (.table implied d inner) =>
      if dotted && !implied then none
      else do
        let (inner, a) ← changeAt dotted change rest d inner
        return (items.replace key (.table implied d inner), a)

/-- Puts a value under a dotted key.  A table that a dotted key made takes values only from dotted
keys, and any other table takes none from them. -/
def assign (path : List String) (key : String) (v : Json) (items : Items) : Option Items :=
  (changeAt true (fun isDotted inner =>
    if isDotted = path.isEmpty then none
    else (add? key (.value v) inner).map fun inner => (inner, ())) path false items).map Prod.fst

end Items

mutual

/-- The value of an item. -/
def Node.toJson : Node → Json
  | .value v => v
  | .table _ _ items => .object (Node.itemsToJson items)
  | .tables elements => .array (Node.elementsToJson elements)

def Node.itemsToJson : List (String × Node) → List (String × Json)
  | [] => []
  | (k, node) :: rest => (k, Node.toJson node) :: Node.itemsToJson rest

def Node.elementsToJson : List (List (String × Node)) → List Json
  | [] => []
  | items :: rest => .object (Node.itemsToJson items) :: Node.elementsToJson rest

end

/-- A document up to some line: its finished tables, and the table that is being filled with its
path and whether it is an element of an array.  An empty path is the document itself. -/
structure Draft where
  root : Items
  path : List String
  inArray : Bool
  current : Items

namespace Draft

def start : Draft := ⟨[], [], false, []⟩

/-- A path of keys as its front and its last key. -/
def splitLast : List String → Option (List String × String)
  | [] => none
  | [key] => some ([], key)
  | key :: rest => (splitLast rest).map fun (front, last) => (key :: front, last)

/-- Puts the table that is being filled into its place. -/
def close (d : Draft) : Option Items :=
  match splitLast d.path with
  | none => some d.current
  | some (front, key) =>
    (Items.changeAt false (fun _ items =>
      if d.inArray then
        match items.find? key with
        | none => some (items ++ [(key, .tables [d.current])], ())
        | some (.tables elements) =>
          some (items.replace key (.tables (elements ++ [d.current])), ())
        | some _ => none
      else some (items ++ [(key, .table false false d.current)], ()))
      front false d.root).map Prod.fst

def openTable (path : List String) (d : Draft) : Option Draft := do
  let root ← d.close
  let (front, key) ← splitLast path
  let (root, current) ← Items.changeAt false (fun _ items =>
    match items.find? key with
    | none => some (items, [])
    | some (.table true false inner) => some (items.erase key, inner)
    | some _ => none) front false root
  return ⟨root, path, false, current⟩

/-- Opens a further element of the array of tables of a header. -/
def openElement (path : List String) (d : Draft) : Option Draft := do
  let root ← d.close
  let (front, key) ← splitLast path
  let (root, _) ← Items.changeAt false (fun _ items =>
    match items.find? key with
    | none => some (items, ())
    | some (.tables _) => some (items, ())
    | some _ => none) front false root
  return ⟨root, path, true, []⟩

/-- Puts a value under a key of the table that is being filled. -/
def assign (path : List String) (key : String) (v : Json) (d : Draft) : Option Draft := do
  let current ← d.current.assign path key v
  return { d with current := current }

end Draft
end Toml
end TargetControl
