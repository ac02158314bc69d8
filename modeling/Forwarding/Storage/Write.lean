import Forwarding.Failure
import Forwarding.Log.Event
import Forwarding.Storage.Hidden
import Forwarding.Text.Lines

/-! Writing text files.

A file is replaced in one step: the text goes to a hidden file beside it first, which then takes its
place. A file that holds the same text already, line ends apart, is left alone; to find that out its
old content is decoded. A dry run only says what would be written.
-/

set_option autoImplicit false

namespace Forwarding

open Text

namespace FileTree

def holds (content : Bytes) (text : Text) : Except DecodeFault Bool := do
  return unixNewlines (← Bytes.toText content) == text

/-- Whether what a path names holds a text, line ends apart. -/
def unchanged (t : FileTree) (p : Path) (text : Text) : Except DecodeFault Bool :=
  match t.node? p with
  | some (.file content) => holds content text
  | _ => .ok false

/-- Whether the hidden file beside what a path names is within the limits for names and paths. -/
def hides (t : FileTree) (p : Path) : Bool :=
  let hidden := t.hidden p .any
  (Bytes.ofText hidden.name).length ≤ nameLimit && (Bytes.ofText hidden.toText).length ≤ pathLimit

/-- What comes of replacing a file through a hidden one, whatever its name, when nothing but the file
system refuses that. -/
def replaceFile (t : FileTree) (p : Path) (content : Bytes) : Except StorageFault FileTree :=
  if p.names.any fun name => name.contains '\x00' then fault p .nullInName
  else if !t.hides p then fault p .nameTooLong
  else if p.names.isEmpty || p.name == ['.', '.'] then fault p .busy
  else match t.find p with
    | .error reason => fault p reason
    | .ok l => if t.isDirectoryAt l then fault p .isDirectory else .ok (t.put l (.file content))

/-- A way of replacing what a path names by a file; it tells what has been refused. -/
abbrev Replacing := FileTree → Path → Bytes → FileTree × Option StorageFault

/-- Replaces a file unless it holds the text already. Directories made on the way stay. -/
def storeBy (replace : Replacing) (t : FileTree) (p : Path) (text : Text) :
    FileTree × Except Failure Bool :=
  let text := unixNewlines text
  match t.ensureDirectory p.parent with
  | (t, some fault) => (t, .error (.storage fault))
  | (t, none) =>
    match t.unchanged p text with
    | .error fault => (t, .error (.encoding fault))
    | .ok true => (t, .ok false)
    | .ok false =>
      match replace t p (Bytes.ofText text) with
      | (t, some fault) => (t, .error (.storage fault))
      | (t, none) => (t, .ok true)

def atOnce : Replacing := fun t p content =>
  match t.replaceFile p content with
  | .error fault => (t, some fault)
  | .ok next => (next, none)

def store (t : FileTree) (p : Path) (text : Text) : FileTree × Except Failure Bool :=
  storeBy atOnce t p text

/-- Writes a text file; the answer says whether the file has changed. -/
def write (t : FileTree) (p : Path) (text : Text) (dryRun : Bool) :
    FileTree × Except Failure Bool :=
  if dryRun then (t, .ok false) else t.store p text

def writeEvents (p : Path) (dryRun : Bool) : Except Failure Bool → List Event
  | .error _ => []
  | .ok changed =>
    if dryRun then [.info .files ("Dry run, would write " ++ p.toText)]
    else if changed then [.info .files ("Wrote " ++ p.toText)]
    else [.debug .files ("Unchanged, not rewritten: " ++ p.toText)]

end FileTree

end Forwarding
