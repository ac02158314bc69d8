import Forwarding.Rendition.Sheet
import Forwarding.Storage.Write

/-! Templates: what a rendition is made with.

Two templates are built in, one for each rendition. A directory of templates can replace them. What a file there
means is up to an engine, which is given from outside; it can look up other templates, since the text of one can
take in another.
-/

set_option autoImplicit false

namespace Forwarding

open Text

/-- The two renditions. -/
inductive Target where
  | unit
  | module
  deriving Repr, DecidableEq

namespace Target

def templateName : Target → Text
  | .unit => "proxies.cpp.j2"
  | .module => "proxies.py.j2"

def word : Target → Text
  | .unit => "C++"
  | .module => "Python"

/-- The part of the log that its entries are in. -/
def source : Target → Source
  | .unit => .unit
  | .module => .module

def path (s : Setting) : Target → Path
  | .unit => s.unitPath
  | .module => s.modulePath

def rendition : Target → Sheet → Text
  | .unit => Rendition.unit
  | .module => Rendition.module

end Target

inductive Template where
  | builtIn (target : Target)
  | custom (text : Text)
  deriving Repr, DecidableEq

namespace Template

/-- What makes a text out of a custom template and a sheet, with a way to find templates by their names. -/
abbrev Engine := (Text → Except Failure Template) → Text → Sheet → Except Failure Text

/-- A directory of templates, with the engine for them. -/
structure Directory where
  path : Path
  engine : Engine

/-- The names on the way to a template; there is no way up. -/
def names? (name : Text) : Option (List Text) :=
  let names := (Path.ofText name).names
  if names.contains ['.', '.'] then none else some names

def package (name : Text) : Except Failure Target :=
  match [Target.unit, .module].find? fun target => names? name == some [target.templateName] with
  | some target => .ok target
  | none => .error (.templateMissing name)

/-- Finds a template by its name, first in the directory and then among the built-in ones. -/
def Directory.find (dir : Directory) (t : FileTree) (name : Text) : Except Failure Template :=
  match (names? name).bind fun names => t.node? (dir.path.append ⟨[], names⟩) with
  | some (.file content) =>
    match Bytes.toText content with
    | .error fault => .error (.encoding fault)
    | .ok text => .ok (.custom (unixNewlines text))
  | _ => (package name).map .builtIn

def directory? (engine : Engine) (t : FileTree) (s : Setting) : Option Directory :=
  (s.templatesDir.filter t.isDirectory).map fun path => ⟨path, engine⟩

def setupEvents (t : FileTree) (s : Setting) : List Event :=
  match s.templatesDir with
  | none => []
  | some dir =>
    if t.isDirectory dir then []
    else [.warning .files ("Templates directory " ++ dir.toText ++
      " does not exist; using package templates")]

end Template

def Table.render (t : Table) (tree : FileTree) (dir : Option Template.Directory) (s : Setting) (template : Text)
    (forwarders : List Forwarder) : Except Failure Text := do
  let sheet := Sheet.ofTable s t forwarders
  match dir with
  | none => return (← Template.package template).rendition sheet
  | some dir =>
    match ← dir.find tree template with
    | .builtIn target => return target.rendition sheet
    | .custom text => dir.engine (dir.find tree) text sheet

/-- Renders a table and writes the result. The output directory is made before anything is rendered,
also in a dry run. -/
def Table.emit (t : Table) (tree : FileTree) (dir : Option Template.Directory) (s : Setting) (target : Target)
    (forwarders : List Forwarder) : FileTree × Except Failure Bool :=
  match tree.ensureDirectory s.outputDir with
  | (tree, some fault) => (tree, .error (.storage fault))
  | (tree, none) =>
    match t.render tree dir s target.templateName forwarders with
    | .error failure => (tree, .error failure)
    | .ok text => tree.write (target.path s) text s.dryRun

def Table.emitEvents (s : Setting) (target : Target) (count : Nat) (outcome : Except Failure Bool) :
    List Event :=
  match outcome with
  | .error _ => []
  | .ok changed =>
    FileTree.writeEvents (target.path s) s.dryRun (.ok changed) ++
      [.info target.source ("Emitted " ++ decimal count ++ " " ++ target.word ++ " trampoline(s) to " ++
        (target.path s).toText)]

end Forwarding
