import Forwarding.Log.Event
import Forwarding.Storage.FileTree

/-! Finding header files under some paths.

A path that names a header file stands for it; a directory stands for everything below it whose name
ends like a header's, ordered by ending first and by place then. What is found twice is kept where
it was found first.
-/

set_option autoImplicit false

namespace Forwarding

open Text

namespace Headers

/-- The endings of header files, in the order in which directories are searched for them. -/
def endings : List Text := [".h", ".hpp", ".hh", ".hxx"]

def isHeaderName (name : Text) : Bool :=
  endings.contains ((Path.suffixOf name).map Char.toLower)

/-- What one path stands for, or nothing if there is no such header or directory. A path that is too
long to look for is refused. -/
def found? (t : FileTree) (p : Path) : Except StorageFault (Option (List Location)) :=
  match t.find p with
  | .error .nameTooLong => .error ⟨.nameTooLong, p.toText⟩
  | _ =>
    let l := p.locate t.here
    if t.isFile p && isHeaderName p.name then .ok (some [l])
    else if t.isDirectory p then
      .ok (some (endings.flatMap fun ending =>
        ((t.below l).filter fun place => ending.isSuffixOf (place.getLast?.getD [])).mergeSort
          Path.locationLe))
    else .ok none

def discover (t : FileTree) (paths : List Text) : Except StorageFault (List Location) := do
  let found ← paths.mapM fun path => found? t (.ofText path)
  return (found.flatMap fun headers => headers.getD []).eraseDups

def discoverEvents (t : FileTree) : List Text → List Event
  | [] => []
  | path :: rest =>
    match found? t (.ofText path) with
    | .error _ => []
    | .ok (some _) => discoverEvents t rest
    | .ok none =>
      .warning .command ("Skipping non-existent path: " ++ path) :: discoverEvents t rest

end Headers

end Forwarding
