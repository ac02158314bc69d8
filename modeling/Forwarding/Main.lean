import Forwarding.Command.Run

/-! The program: it looks at the files that a run is about, runs the command on them, and carries out
what has changed.

There is no parser of headers here, so that a scan of headers ends with a failure, and no engine for templates, so
that the use of a custom one does.
-/

set_option autoImplicit false

namespace Forwarding.Program

open Text Command

def shown (l : Location) : String := String.ofList (Path.ofLocation l).toText

/-- What is at a place of the file system. -/
def node? (l : Location) : IO (Option Node) := do
  match ← (IO.FS.readBinFile (shown l)).toBaseIO with
  | .ok content => return some (.file content.toList)
  | .error (.noFileOrDirectory ..) => return none
  | .error _ => return some .directory

/-- Adds what is at a place, and above it, to what is known of the file system. -/
def look (tree : FileTree) (l : Location) : IO FileTree :=
  ((List.range l.length).map fun n => l.take (n + 1)).foldlM (fun tree place => do
    if (tree.at? place).isSome || !tree.isDirectoryAt place.dropLast then return tree
    match ← node? place with
    | some node => return tree.put place node
    | none => return tree) tree

/-- Carries out what has changed. A file is written beside its place first. -/
def carryOut (before after : FileTree) : IO Unit :=
  after.nodes.forM fun (place, node) => do
    if before.at? place == some node then return
    match node with
    | .directory => IO.FS.createDirAll (shown place)
    | .file content =>
      let beside := shown (place.dropLast ++ ['.' :: (place.getLast?.getD [] ++ ".part")])
      IO.FS.writeBinFile beside ⟨content.toArray⟩
      IO.FS.rename beside (shown place)

def usage : Text :=
  "usage: " ++ programName ++ " " ++ join " " (named.map fun (name, _) => "[" ++ name ++ "]")

/-- Tells how a run has ended, and gives its exit status. -/
def report (outcome : Outcome) : IO UInt32 := do
  IO.eprint (String.ofList outcome.console)
  match outcome.ending with
  | .exit status => return status.toUInt32
  | .usage fault =>
    IO.eprintln (String.ofList (usage ++ "\n" ++ programName ++ ": error: " ++ fault.message))
    return 2
  | .escaped failure =>
    IO.eprintln (String.ofList failure.message)
    return 1

/-- Runs the command in the current directory. -/
def run (arguments : List Text) : IO UInt32 := do
  match Command.read arguments with
  | .ok .help =>
    IO.println (String.ofList usage)
    return 0
  | .error fault => report { ending := .usage fault, tree := {} }
  | .ok (.run o) =>
    let directory := toString (← IO.currentDir)
    let here := (Path.ofText directory.toList).names
    let places := (paths (settingOf here o) o).map (Path.locate here)
    let tree ← (here :: places).foldlM look { here }
    let around : Surroundings :=
      { host := { environment := [("cwd", .text directory.toList)] }
        bundledSource := "open_mp.proxies"
        parser := none
        engine := fun _ _ _ => .error (.rendering "RuntimeError" "no engine for templates") }
    let outcome := Command.run around tree arguments
    carryOut tree outcome.tree
    report outcome

end Forwarding.Program

def main (arguments : List String) : IO UInt32 :=
  Forwarding.Program.run (arguments.map String.toList)
