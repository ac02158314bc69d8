import Forwarding.Storage.Path
import Forwarding.Text.Bytes

/-! A file system: directories and files by their places.

Paths are followed name by name, and each name but the last has to be that of a directory. Making a
directory and replacing a file are the only changes.
-/

set_option autoImplicit false

namespace Forwarding

/-- What can be at a place. -/
inductive Node where
  | directory
  | file (content : Bytes)
  deriving Repr, DecidableEq

/-- The nodes of a file system, and the directory that relative paths start from. -/
structure FileTree where
  here : Location := []
  nodes : List (Location × Node) := []
  deriving Repr, DecidableEq

namespace FileTree

variable (t : FileTree)

/-- The node at a place. The root is always a directory. -/
def at? (l : Location) : Option Node :=
  if l.isEmpty then some .directory else (t.nodes.find? fun entry => entry.1 == l).map (·.2)

def put (l : Location) (node : Node) : FileTree :=
  if (t.at? l).isSome then
    { t with nodes := t.nodes.map fun entry => if entry.1 == l then (l, node) else entry }
  else { t with nodes := t.nodes ++ [(l, node)] }

def isDirectoryAt (l : Location) : Bool := t.at? l == some .directory

def nameLimit : Nat := 255

def pathLimit : Nat := 4095

/-- Nodes by their places as seen from one directory. -/
abbrev Nodes := List (Location × Node)

def inside (name : Text) (nodes : Nodes) : Nodes :=
  nodes.filterMap fun (place, node) =>
    match place with
    | [] => none
    | first :: rest => if first == name then some (rest, node) else none

/-- A place that has been reached, with the nodes as seen from it and from each place above it. -/
structure Reached where
  place : Location
  seen : Nodes
  above : List Nodes

def atRoot : Reached := ⟨[], t.nodes, []⟩

namespace Reached

variable (r : Reached)

def node? : Option Node :=
  if r.above.isEmpty then some .directory
  else (r.seen.find? fun entry => entry.1.isEmpty).map (·.2)

/-- Goes up, which leads from the root to the root. -/
def up : Reached :=
  match r.above with
  | [] => r
  | seen :: above => ⟨r.place.dropLast, seen, above⟩

def down (name : Text) : Reached := ⟨r.place ++ [name], inside name r.seen, r.seen :: r.above⟩

end Reached

/-- Follows names from a place. What the last name leads to need not exist. -/
def walk (r : Reached) : List Text → Except StorageFault.Reason Location
  | [] => .ok r.place
  | name :: rest =>
    match r.node? with
    | none => .error .missing
    | some (.file _) => .error .notDirectory
    | some .directory =>
      if (Bytes.ofText name).length > nameLimit then .error .nameTooLong
      else walk (if name == ['.', '.'] then r.up else r.down name) rest

def find (p : Path) : Except StorageFault.Reason Location :=
  if p.names.any fun name => name.contains '\x00' then .error .nullInName
  else if (Bytes.ofText p.toText).length > pathLimit then .error .nameTooLong
  else walk t.atRoot ((if p.root.isEmpty then t.here else []) ++ p.names)

def node? (p : Path) : Option Node :=
  match t.find p with
  | .error _ => none
  | .ok l => t.at? l

def isFile (p : Path) : Bool :=
  match t.node? p with
  | some (.file _) => true
  | _ => false

def isDirectory (p : Path) : Bool := t.node? p == some .directory

def fault {α : Type} (p : Path) (reason : StorageFault.Reason) : Except StorageFault α :=
  .error ⟨reason, p.toText⟩

def read (p : Path) : Except StorageFault Bytes :=
  match t.find p with
  | .error reason => fault p reason
  | .ok l =>
    match t.at? l with
    | none => fault p .missing
    | some .directory => fault p .isDirectory
    | some (.file content) => .ok content

def makeDirectory (p : Path) : Except StorageFault FileTree :=
  match t.find p with
  | .error reason => fault p reason
  | .ok l =>
    if (t.at? l).isSome then fault p .alreadyExists
    else if t.isDirectoryAt l.dropLast then .ok (t.put l .directory)
    else fault p .missing

/-- How many directories can be made above a directory. -/
def depthLimit : Nat := 975

/-- Makes the directory of some names, last name first, and all directories above it that are
missing, up to some number of them. Those made before a refusal stay. -/
def ensureFrom (root : Text) : Nat → FileTree → List Text → FileTree × Option StorageFault
  | _, t, [] => (t, none)
  | 0, t, names => (t, some ⟨.tooDeep, (Path.mk root names.reverse).toText⟩)
  | depth + 1, t, name :: outer =>
    let p : Path := ⟨root, (name :: outer).reverse⟩
    let settle := fun (t : FileTree) (fault : StorageFault) =>
      if t.isDirectory p then (t, none) else (t, some fault)
    match t.makeDirectory p with
    | .ok made => (made, none)
    | .error fault =>
      if fault.reason == .missing then
        match ensureFrom root depth t outer with
        | (above, some fault) => (above, some fault)
        | (above, none) =>
          match above.makeDirectory p with
          | .ok made => (made, none)
          | .error fault =>
            if fault.reason == .missing then (above, some fault) else settle above fault
      else if fault.reason == .nullInName then (t, some fault)
      else settle t fault

/-- Makes a directory and those above it; nothing happens if it exists. -/
def ensureDirectory (p : Path) : FileTree × Option StorageFault :=
  ensureFrom p.root depthLimit t p.names.reverse

def below (l : Location) : List Location :=
  (t.nodes.map (·.1)).filter fun place => l.isPrefixOf place && l.length < place.length

def namesIn (l : Location) : List Text :=
  let inside := (t.below l).filter fun place => place.length == l.length + 1
  (inside.filterMap List.getLast?).mergeSort Text.le

end FileTree

end Forwarding
