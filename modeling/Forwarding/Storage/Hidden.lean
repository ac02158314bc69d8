import Forwarding.Storage.FileTree

/-! Replacing a file through a hidden one.

The hidden file stands beside the target under a name that is new. It is made, filled and given its
permissions, and then takes the place of the target in one step. When one of these steps is refused, by the
file system or by the device that holds it, the hidden file is removed.
-/

set_option autoImplicit false

namespace Forwarding

open Text

def isDrawn (c : Char) : Bool := "abcdefghijklmnopqrstuvwxyz0123456789_".toList.contains c

/-- Eight characters that are drawn to make the name of a hidden file new. -/
structure Letters where
  text : Text
  count : text.length = 8
  drawn : text.all isDrawn = true
  deriving Repr, DecidableEq

/-- The drawing that stands for all of them where only their number matters. -/
def Letters.any : Letters := ⟨"________".toList, by decide, by decide⟩

/-- The name of a hidden file: a dot, the name of the target, and some letters. -/
def hiddenName (name : Text) (letters : Letters) : Text :=
  '.' :: name ++ '.' :: letters.text ++ ".tmp"

/-- The steps of a replacement that a device can refuse. -/
inductive Replacement where
  | make
  | fill
  | permit
  | move
  deriving Repr, DecidableEq

/-- What a device refuses for reasons of its own, as want of room or of rights. -/
structure Device where
  refuses : Replacement → Option StorageFault.Reason
  /-- How many bytes of a content are written before the rest is refused. -/
  room : Nat

def Device.willing : Device := ⟨fun _ => none, 0⟩

namespace FileTree

variable (t : FileTree)

/-- Takes away the node at a place. -/
def remove (l : Location) : FileTree := { t with nodes := t.nodes.filter fun entry => entry.1 != l }

def makeFile (p : Path) : Except StorageFault (FileTree × Location) :=
  match t.find p with
  | .error reason => fault p reason
  | .ok l => if (t.at? l).isSome then fault p .alreadyExists else .ok (t.put l (.file []), l)

/-- Puts the node at a place in the place of what a path names. -/
def move (l : Location) (p : Path) : Except StorageFault FileTree :=
  if p.names.isEmpty || p.name == ['.', '.'] then fault p .busy
  else match t.find p with
    | .error reason => fault p reason
    | .ok m =>
      if t.isDirectoryAt m then fault p .isDirectory
      else match t.at? l with
        | none => fault p .missing
        | some node => .ok ((t.remove l).put m node)

def hidden (p : Path) (letters : Letters) : Path :=
  ⟨if p.root.isEmpty then ['/'] else p.root, p.parent.locate t.here ++ [hiddenName p.name letters]⟩

def makeHidden (p : Path) : List Letters → Except StorageFault (FileTree × Location)
  | [] => fault p .alreadyExists
  | letters :: rest =>
    match t.makeFile (t.hidden p letters) with
    | .ok made => .ok made
    | .error fault => if fault.reason == .alreadyExists then makeHidden p rest else .error fault

/-- Fills the hidden file at a place and puts it in the place of the target. What is refused comes with
what has been done up to there. -/
def fillAndMove (device : Device) (hidden : Location) (p : Path) (content : Bytes) :
    Except (FileTree × StorageFault) FileTree :=
  match device.refuses .fill with
  | some reason => .error (t.put hidden (.file (content.take device.room)), ⟨reason, p.toText⟩)
  | none =>
    let filled := t.put hidden (.file content)
    match (device.refuses .permit).or (device.refuses .move) with
    | some reason => .error (filled, ⟨reason, p.toText⟩)
    | none =>
      match filled.move hidden p with
      | .error fault => .error (filled, fault)
      | .ok next => .ok next

def replaceThrough (device : Device) (draws : List Letters) (t : FileTree) (p : Path)
    (content : Bytes) : FileTree × Option StorageFault :=
  match device.refuses .make with
  | some reason => (t, some ⟨reason, p.toText⟩)
  | none =>
    match t.makeHidden p draws with
    | .error fault => (t, some fault)
    | .ok (made, hidden) =>
      match made.fillAndMove device hidden p content with
      | .error (left, fault) => (left.remove hidden, some fault)
      | .ok next => (next, none)

end FileTree

end Forwarding
