import Forwarding.Command.Arguments
import Forwarding.Discovery.Scan
import Forwarding.Log.Routing
import Forwarding.Storage.FileTree

/-! What a run of the command has done so far, and how it can end.

A run changes the file system, logs events, and asks a parser for headers. Every event that the
routing lets through is kept; if there is a log file, its line is also appended there, until another
file takes that place.
-/

set_option autoImplicit false

namespace Forwarding

open Text

namespace FileTree

/-- Makes an empty file, or empties the one that is there. -/
def create (t : FileTree) (p : Path) : Except StorageFault FileTree :=
  match t.find p with
  | .error reason => fault p reason
  | .ok l => if t.isDirectoryAt l then fault p .isDirectory else .ok (t.put l (.file []))

def append (t : FileTree) (l : Location) (content : Bytes) : FileTree :=
  match t.at? l with
  | some (.file before) => t.put l (.file (before ++ content))
  | _ => t

end FileTree

namespace Command

/-- How a run ends: with an exit status, because its arguments are refused, or by a failure that
nothing in it handles. -/
inductive Ending where
  | exit (status : Nat)
  | usage (fault : UsageFault)
  | escaped (failure : Failure)
  deriving Repr, DecidableEq

structure Progress where
  tree : FileTree
  routing : Routing
  /-- Where the log file is, while entries are written to it. -/
  logPlace : Option Location := none
  events : List Event := []
  calls : List ParseCall := []

namespace Progress

variable (p : Progress)

def logOne (e : Event) : Progress :=
  if p.routing.delivers e.level then
    let line := Bytes.ofText (p.routing.line e.source.name e.level e.message)
    { p with
      events := p.events ++ [e]
      tree := match p.logPlace with
        | none => p.tree
        | some l => p.tree.append l line }
  else p

def log (events : List Event) : Progress := events.foldl logOne p

/-- Goes on with a changed file system. A log file whose place has been taken gets no more
entries. -/
def withTree (tree : FileTree) : Progress :=
  { p with
    tree
    logPlace := p.logPlace.filter fun l => tree.at? l == p.tree.at? l }

/-- The path of a log file as it is opened: from the root, with its double dots followed. -/
def logPath (here : Location) (given : Text) : Path :=
  let path := Path.ofText given
  ⟨if path.root.isEmpty then ['/'] else path.root, path.locate here⟩

/-- What the events so far have written to the console. -/
def console : Text := p.events.flatMap fun e => p.routing.line e.source.name e.level e.message

/-- Before the first step: the log is set up as the options say. -/
def start (tree : FileTree) (o : Options) : Except Failure Progress := do
  let format ← Routing.format? (some o.logFormat)
  let level ← Routing.level? (Level.ofOptions o.logLevel o.verbose o.quiet)
  match o.logFile with
  | none | some [] => return { tree, routing := { level, format, toFile := false } }
  | some file =>
    let path := logPath tree.here file
    match tree.create path with
    | .error fault => throw (.storage fault)
    | .ok tree =>
      return { tree, routing := { level, format, toFile := true }, logPlace := some path.names }

end Progress

/-- The steps of a run: they change the progress, and may end the run. -/
abbrev Steps := ExceptT Ending (StateM Progress)

namespace Steps

def log (events : List Event) : Steps Unit := modify fun p => p.log events

def tree : Steps FileTree := return (← get).tree

def setTree (tree : FileTree) : Steps Unit := modify fun p => p.withTree tree

def exit {α : Type} (status : Nat) : Steps α := throw (.exit status)

/-- Logs that something has failed and ends the run. -/
def fail {α : Type} (message : Text) (failure : Failure) (status : Nat) : Steps α := do
  log [.failed .command message failure]
  exit status

end Steps

end Command

end Forwarding
