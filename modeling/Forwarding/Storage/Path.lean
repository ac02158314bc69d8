import Forwarding.Text.Basic
import Forwarding.Text.Quoted

/-! Paths, and what the file system refuses to do with them.

A path is names separated by slashes, and where they start. Repeated slashes and single dots say nothing and
are dropped when a path is read; double dots are kept, because what they mean depends on the directories. A path
starts at the root when it has a leading slash; exactly two of them are kept.
-/

set_option autoImplicit false

namespace Forwarding

open Text

/-- The slashes a path starts with, none for a relative path, and its names. -/
structure Path where
  root : Text
  names : List Text
  deriving Repr, DecidableEq

/-- The names from the root of the file system to a place in it. -/
abbrev Location := List Text

namespace Path

def isSlash (c : Char) : Bool := c == '/'

def ofText (t : Text) : Path :=
  let root : Text :=
    match (t.takeWhile isSlash).length with
    | 0 => []
    | 2 => ['/', '/']
    | _ => ['/']
  let names := runs (fun c => !isSlash c) (fun c => !isSlash c) t
  ⟨root, names.filter fun name => name != ['.']⟩

/-- The path as text; a relative path without names is a dot. -/
def toText (p : Path) : Text :=
  if p.root.isEmpty && p.names.isEmpty then ['.'] else p.root ++ join "/" p.names

/-- The second path as seen from the first; a path from the root replaces it. -/
def append (p q : Path) : Path :=
  if q.root.isEmpty then ⟨p.root, p.names ++ q.names⟩ else q

def parent (p : Path) : Path := ⟨p.root, p.names.dropLast⟩

def name (p : Path) : Text := p.names.getLast?.getD []

/-- The part of a name from its last dot on, unless the dot is its first or last character. -/
def suffixOf (name : Text) : Text :=
  let ending := (name.reverse.takeWhile (· != '.')).reverse
  if ending.isEmpty || ending.length + 1 ≥ name.length then [] else '.' :: ending

/-- Follows names, going up at double dots, without asking the file system. -/
def follow (here : Location) : List Text → Location
  | [] => here
  | name :: rest =>
    if name == ['.', '.'] then follow here.dropLast rest else follow (here ++ [name]) rest

/-- The place a path leads to, seen from a directory. -/
def locate (here : Location) (p : Path) : Location :=
  follow (if p.root.isEmpty then here else []) p.names

def ofLocation (l : Location) : Path := ⟨['/'], l⟩

/-- The order of places: name by name, each by code points. -/
def locationLe : Location → Location → Bool
  | [], _ => true
  | _ :: _, [] => false
  | a :: l, b :: m => if a == b then locationLe l m else Text.le a b

end Path

/-! ### Refusals, and the words for them -/

namespace StorageFault

/-- The reasons for which an operation on files is refused. -/
inductive Reason where
  | missing
  | busy
  | alreadyExists
  | notDirectory
  | isDirectory
  | nameTooLong
  | nullInName
  /-- Too many directories would have to be made above one another. -/
  | tooDeep
  deriving Repr, DecidableEq

/-- The number and the words of a reason. What is refused before the file system is asked has no
number. -/
def Reason.words : Reason → Option Nat × Text
  | .missing => (some 2, "No such file or directory")
  | .busy => (some 16, "Device or resource busy")
  | .alreadyExists => (some 17, "File exists")
  | .notDirectory => (some 20, "Not a directory")
  | .isDirectory => (some 21, "Is a directory")
  | .nameTooLong => (some 36, "File name too long")
  | .nullInName => (none, "embedded null byte")
  | .tooDeep => (none, "maximum recursion depth exceeded while calling a Python object")

end StorageFault

/-- A refused operation: the reason and the path as it was given. -/
structure StorageFault where
  reason : StorageFault.Reason
  path : Text
  deriving Repr, DecidableEq

def StorageFault.message (fault : StorageFault) : Text :=
  match fault.reason.words with
  | (some number, words) =>
    "[Errno " ++ decimal number ++ "] " ++ words ++ ": " ++ quoted fault.path
  | (none, words) => words

end Forwarding
