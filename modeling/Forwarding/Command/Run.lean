import Forwarding.Command.Progress
import Forwarding.Discovery.Composite
import Forwarding.Manifest
import Forwarding.Rendition.Template
import Forwarding.Storage.Headers
import Forwarding.Table.Bundled
import Forwarding.Table.Reader
import Forwarding.Table.Writer

/-! A run of the command, from its arguments to its exit status.

The tables are read and turned into forwarders first, so that nothing is written for a table that is
not valid. Then headers are scanned if some are given, and at last the renditions and the manifest are
written, unless the run is dry. Each part that can fail has an exit status of its own.
-/

set_option autoImplicit false

namespace Forwarding

open Text

namespace Command

/-- What a run finds around it. -/
structure Surroundings where
  host : Host := {}
  /-- Where the bundled table is said to come from. -/
  bundledSource : Text
  /-- The parser of headers, if there is one. -/
  parser : Option HeaderParser
  /-- The engine for custom templates. -/
  engine : Template.Engine

def programName : Text := "proxy-binding-generator"

/-- The setting of a run; its directories are given from the root. -/
def settingOf (here : Location) (o : Options) : Setting :=
  let resolve := fun (t : Text) => Path.ofLocation ((Path.ofText t).locate here)
  { outputDir := resolve o.outputDir.content
    templatesDir := (o.templatesDir.filter fun t => !t.isEmpty).map resolve
    stem := o.stem
    exportMacro := o.exportMacro
    callingConvention := o.callingConvention
    extraIncludes := o.includes
    withModule := o.withModule
    dryRun := o.dryRun }

namespace Steps

/-- The path that an operand gives. Nothing handles that it gives none. -/
def pathOf : Operand → Steps Text
  | .text t => return t
  | .nothing => throw (.escaped .notPath)

/-- The setting of a run. Nothing handles a directory with a null character in its name. -/
def setting (o : Options) : Steps Setting := do
  let _ ← pathOf o.outputDir
  let s := settingOf (← tree).here o
  let directories := s.outputDir :: s.templatesDir.toList
  match directories.find? fun dir => dir.names.any fun name => name.contains '\x00' with
  | some dir => throw (.escaped (.storage ⟨.nullInName, dir.toText⟩))
  | none => return s

def templates (around : Surroundings) (s : Setting) : Steps (Option Template.Directory) := do
  let tree ← tree
  match s.templatesDir.map tree.find with
  | some (.error .nameTooLong) =>
    let path := (s.templatesDir.map Path.toText).getD []
    fail "Failed to initialize templating" (.storage ⟨.nameTooLong, path⟩) 1
  | _ =>
    log (Template.setupEvents tree s)
    return Template.directory? around.engine tree s

/-- Ends the run because of a table. -/
def invalid {α : Type} (failure : Failure) : Steps α := do
  log [.error .command ("Invalid signature table: " ++ failure.message)]
  exit 2

/-- What a table is about when it cannot be used. -/
def valid {α : Type} (r : Except Fault α) : Steps α :=
  match r with
  | .ok a => return a
  | .error fault => invalid (.table fault)

def readTable (source t : Text) : Steps Table := do
  log (Table.readEvents source t)
  valid (Table.read source t)

/-- Reads a table from a file. What is not UTF-8 ends the run without being handled. -/
def readFile (name : Text) : Steps Table := do
  let path := Path.ofText name
  match (← tree).read path with
  | .error fault =>
    if fault.reason == .nullInName then throw (.escaped (.storage fault))
    else invalid (.storage fault)
  | .ok content =>
    match Bytes.toText content with
    | .error fault => throw (.escaped (.encoding fault))
    | .ok t => readTable path.toText (unixNewlines t)

def readFiles (t : Table) : List Operand → Steps Table
  | [] => return t
  | name :: rest => do
    match t.merge (← readFile (← pathOf name)) with
    | (merged, none) => readFiles merged rest
    | (_, some fault) => invalid (.table fault)

def load (around : Surroundings) (o : Options) : Steps Table := do
  let t ←
    if o.tables.isEmpty then readTable around.bundledSource Table.bundled
    else readFiles {} o.tables
  log [.info .reader ("Loaded " ++ decimal t.rows.length ++ " declaration(s) from " ++
    decimal t.sources.length ++ " table file(s)")]
  return t

def forwarders (t : Table) : Steps (List Forwarder) := do
  log t.forwarderEvents
  valid t.forwarders

/-- Goes on with the result of a part of the scan. -/
def scanned {α : Type} (r : Except Failure α) : Steps α :=
  match r with
  | .ok a => return a
  | .error failure => fail "Failed to scan headers" failure 3

def exclusion (o : Options) : Steps (Option Text.Pattern) :=
  if o.exclude.isEmpty then return none
  else match Text.Pattern.ofText o.exclude with
    | some pattern => return some pattern
    | none => fail "Failed to scan headers" .malformedPattern 3

def discover (around : Surroundings) (o : Options) (headers : List Text) :
    Steps (List Declaration) := do
  log (Scan.splitEvents o.parserArguments)
  let arguments := Scan.splitArguments o.parserArguments
  let exclude ← exclusion o
  if around.parser.isSome && !Operand.allTexts o.filters then
    fail "Failed to scan headers" .notPath 3
  let options : ScanOptions :=
    { here := (← tree).here, filters := Operand.leading o.filters, exclude }
  log (Scan.collectEvents options true around.parser headers)
  modify fun p => { p with calls := Scan.calls arguments around.parser headers }
  scanned (Scan.collect options around.parser headers)

def draftComment : Text := "Draft entries for discovered methods that are not declared yet."

def writeDraft (o : Options) (t : Table) (c : Coverage) (draft : Text) : Steps Unit := do
  let (aliases, rows) ← scanned (Composite.aliases c.missing t.aliases)
  let path := Path.ofText draft
  let text := ({ rows, aliases } : Table).write draftComment
  let (tree, outcome) := (← tree).write path text o.dryRun
  setTree tree
  log (FileTree.writeEvents path o.dryRun outcome)
  let _ ← scanned outcome

/-- Goes on with the result of a search for headers, whose failure nothing handles. -/
def handled {α : Type} (r : Except StorageFault α) : Steps α :=
  match r with
  | .ok a => return a
  | .error fault => throw (.escaped (.storage fault))

def draft? (o : Options) : Option Text := o.draft.filter fun t => !t.isEmpty

/-- Compares a table with headers, if some are given. -/
def coverage (around : Surroundings) (o : Options) (t : Table) : Steps (Option Coverage) := do
  if o.headers.isEmpty then
    if (draft? o).isSome then
      log [.warning .command "--draft-table has no effect without --headers"]
    return none
  else
    let tree ← tree
    let places := Operand.leading o.headers
    log (Headers.discoverEvents tree places)
    let headers ← handled (Headers.discover tree places)
    if !Operand.allTexts o.headers then throw (.escaped .notPath)
    if headers.isEmpty then
      log [.error .command ("No headers found to scan under " ++ join ", " places)]
      exit 3
    let discovered ← discover around o (headers.map fun l => (Path.ofLocation l).toText)
    let c := Coverage.compute t discovered []
    log c.events
    if let some draft := draft? o then writeDraft o t c draft
    return some c

def emit (t : Table) (s : Setting) (dir : Option Template.Directory) (made : List Forwarder) (target : Target) :
    Steps Unit := do
  let (tree, outcome) := t.emit (← tree) dir s target made
  setTree tree
  log (Table.emitEvents s target made.length outcome)
  match outcome with
  | .ok _ => return ()
  | .error failure => fail "Failed to generate files" failure 4

def writeManifest (around : Surroundings) (arguments : List Text) (t : Table) (s : Setting)
    (made : List Forwarder) (c : Option Coverage) : Steps Unit := do
  let document := Manifest.build around.host (programName :: arguments) s t made c
  let (tree, outcome) := (← tree).write s.manifestPath (Manifest.render document) s.dryRun
  setTree tree
  log (FileTree.writeEvents s.manifestPath s.dryRun outcome)
  match outcome with
  | .ok _ => log [Manifest.event t made]
  | .error failure => fail "Failed to emit generation manifest" failure 5

/-- A whole run, once the log is set up. -/
def all (around : Surroundings) (arguments : List Text) (o : Options) : Steps Unit := do
  let s ← setting o
  let dir ← templates around s
  let t ← load around o
  let made ← forwarders t
  let c ← coverage around o t
  if s.dryRun then
    log [.info .command ("Dry-run complete: " ++ decimal made.length ++
      " trampoline(s) validated (no files written).")]
    exit 0
  emit t s dir made .unit
  if s.withModule then emit t s dir made .module
  if o.withManifest then writeManifest around arguments t s made c

end Steps

/-- The result of a run: how it ends, the file system it leaves, what has been logged and shown, and
what has been asked of the parser. -/
structure Outcome where
  ending : Ending
  tree : FileTree
  events : List Event := []
  console : Text := []
  calls : List ParseCall := []

def runWith (around : Surroundings) (tree : FileTree) (arguments : List Text) (o : Options) :
    Outcome :=
  match Progress.start tree o with
  | .error failure => { ending := .escaped failure, tree }
  | .ok start =>
    let (result, p) := (Steps.all around arguments o).run start
    let ending := match result with
      | .ok () => .exit 0
      | .error ending => ending
    { ending, tree := p.tree, events := p.events, console := p.console, calls := p.calls }

def run (around : Surroundings) (tree : FileTree) (arguments : List Text) : Outcome :=
  match read arguments with
  | .error fault => { ending := .usage fault, tree }
  | .ok .help => { ending := .exit 0, tree }
  | .ok (.run o) => runWith around tree arguments o

def paths (s : Setting) (o : Options) : List Path :=
  let given := Operand.leading o.tables ++ Operand.leading o.headers ++ o.draft.toList ++
    o.logFile.toList
  given.map Path.ofText ++ [s.outputDir, s.unitPath, s.modulePath, s.manifestPath] ++
    s.templatesDir.toList.flatMap fun dir =>
      [Target.unit, .module].map fun target => dir.append (.ofText target.templateName)

end Command

end Forwarding
