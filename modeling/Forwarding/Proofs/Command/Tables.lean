import Forwarding.Proofs.Command.Steps
import Forwarding.Proofs.Forwarder

/-! What becomes of a run whose tables cannot be used.

A table is read from a file, decoded, parsed, merged behind the others and at last validated with them.
The file of a table can be the log file, so that what has been logged before decides what is read.
-/

set_option autoImplicit false

namespace Forwarding

open Text Checks

namespace FileTree

def text? (t : FileTree) (name : Text) : Except Failure Text :=
  match t.read (.ofText name) with
  | .error fault => .error (.storage fault)
  | .ok content =>
    match Bytes.toText content with
    | .error fault => .error (.encoding fault)
    | .ok found => .ok (unixNewlines found)

def table? (t : FileTree) (name : Text) : Except Failure Table :=
  match t.text? name with
  | .error failure => .error failure
  | .ok text => (Table.read (Path.ofText name).toText text).mapError .table

def tableEvents (t : FileTree) (name : Text) : List Event :=
  match t.text? name with
  | .error _ => []
  | .ok text => Table.readEvents (Path.ofText name).toText text

/-- What can be wrong with tables whose names a file system takes. -/
inductive TableFailure : Failure → Prop
  | table (fault : Fault) : TableFailure (.table fault)
  | encoding (fault : DecodeFault) : TableFailure (.encoding fault)
  | storage {fault : StorageFault} (named : fault.reason ≠ .nullInName) : TableFailure (.storage fault)

theorem tableFailure_of_mapError {α : Type} {result : Except Fault α} {failure : Failure}
    (failed : result.mapError .table = .error failure) : TableFailure failure := by
  cases result with
  | ok _ => cases failed
  | error fault =>
    cases failed
    exact .table fault

theorem tableFailure_of_text? {t : FileTree} {name : Text} {failure : Failure} (plain : '\x00' ∉ name)
    (failed : t.text? name = .error failure) : TableFailure failure := by
  rw [text?] at failed
  cases here : t.read (.ofText name) with
  | error fault =>
    rw [here] at failed
    cases failed
    -- The null character that would be refused stands in no name of the path.
    refine .storage fun null => ?_
    rw [read] at here
    split at here
    · next lost =>
      cases here
      subst null
      exact find_ne_nullInName (fun part member inside => plain (Path.mem_of_mem_names member inside)) lost
    · split at here <;> cases here <;> cases null
  | ok content =>
    rw [here] at failed
    dsimp only at failed
    cases decoded : Bytes.toText content with
    | error fault =>
      rw [decoded] at failed
      cases failed
      exact .encoding fault
    | ok text =>
      rw [decoded] at failed
      cases failed

theorem tableFailure_of_table? {t : FileTree} {name : Text} {failure : Failure} (plain : '\x00' ∉ name)
    (failed : t.table? name = .error failure) : TableFailure failure := by
  rw [table?] at failed
  cases found : t.text? name with
  | error first =>
    rw [found] at failed
    cases failed
    exact tableFailure_of_text? plain found
  | ok text =>
    rw [found] at failed
    exact tableFailure_of_mapError failed

end FileTree

namespace Command

open FileTree

/-- How a run ends whose steps come out in some way. -/
def endingOf : Except Ending Unit → Ending
  | .ok () => .exit 0
  | .error ending => ending

def tableEnding : Failure → Ending
  | .table _ => .exit 2
  | .storage fault => if fault.reason == .nullInName then .escaped (.storage fault) else .exit 2
  | failure => .escaped failure

namespace Progress

/-- The tables in some files, each merged behind those before it. -/
def tables : Progress → Table → List Operand → Except Failure Table
  | _, merged, [] => .ok merged
  | _, _, .nothing :: _ => .error .notPath
  | p, merged, .text name :: rest =>
    match p.tree.table? name with
    | .error failure => .error failure
    | .ok t =>
      match merged.merge t with
      | (merged, none) => tables (p.log (p.tree.tableEvents name)) merged rest
      | (_, some fault) => .error (.table fault)

def given (p : Progress) (around : Surroundings) (o : Options) : Except Failure Table :=
  if o.tables.isEmpty then (Table.read around.bundledSource Table.bundled).mapError .table
  else p.tables {} o.tables

def usable (p : Progress) (around : Surroundings) (o : Options) : Except Failure Table :=
  match p.given around o with
  | .error failure => .error failure
  | .ok t => (t.validate.map fun _ => t).mapError .table

/-- Where the tables are read: the templates have been set up. -/
def ready (p : Progress) (o : Options) : Progress :=
  p.log (Template.setupEvents p.tree (settingOf p.tree.here o))

end Progress

/-- Options whose directories and tables are paths that a run can look at. -/
structure Proper (t : FileTree) (o : Options) : Prop where
  outputDir : o.outputDir ≠ .nothing
  directories : ∀ dir ∈ (settingOf t.here o).outputDir :: (settingOf t.here o).templatesDir.toList,
    ∀ name ∈ dir.names, '\x00' ∉ name
  templates : ∀ dir ∈ (settingOf t.here o).templatesDir, t.find dir ≠ .error .nameTooLong
  tables : ∀ operand ∈ o.tables, ∃ name, operand = .text name ∧ '\x00' ∉ name

def logPlace? (here : Location) (o : Options) : Option Location :=
  (o.logFile.filter fun t => !t.isEmpty).map fun file => (Path.ofText file).locate here

variable {around : Surroundings} {o : Options} {p q start : Progress} {tree : FileTree} {arguments : List Text}
  {failure : Failure}

/-- Of what can be wrong with tables, only what is not UTF-8 is not handled. -/
theorem tableEnding_of_tableFailure (known : TableFailure failure) (encoded : ∀ fault, failure ≠ .encoding fault) :
    tableEnding failure = .exit 2 := by
  cases known with
  | table fault => rfl
  | encoding fault => exact absurd rfl (encoded fault)
  | storage named => simp [tableEnding, named]

theorem tableFailure_of_tables {names : List Operand} {merged : Table}
    (proper : ∀ operand ∈ names, ∃ name, operand = .text name ∧ '\x00' ∉ name)
    (failed : p.tables merged names = .error failure) : TableFailure failure := by
  induction names generalizing p merged with
  | nil => cases failed
  | cons operand rest ih =>
    rw [List.forall_mem_cons] at proper
    obtain ⟨⟨name, rfl, plain⟩, proper⟩ := proper
    rw [Progress.tables] at failed
    split at failed
    · next first lost =>
      cases failed
      exact tableFailure_of_table? plain lost
    · split at failed
      · exact ih proper failed
      · cases failed
        exact .table _

theorem tableFailure_of_usable (proper : ∀ operand ∈ o.tables, ∃ name, operand = .text name ∧ '\x00' ∉ name)
    (unusable : p.usable around o = .error failure) : TableFailure failure := by
  rw [Progress.usable] at unusable
  split at unusable
  · next first lost =>
    cases unusable
    rw [Progress.given] at lost
    split at lost
    · exact tableFailure_of_mapError lost
    · exact tableFailure_of_tables proper lost
  · exact tableFailure_of_mapError unusable

theorem validate_of_usable {t : Table} (usable : p.usable around o = .ok t) : t.validate = .ok () := by
  rw [Progress.usable] at usable
  split at usable
  · cases usable
  · next found _ =>
    cases checked : found.validate with
    | error fault =>
      rw [checked] at usable
      cases usable
    | ok _ =>
      rw [checked] at usable
      cases usable
      exact checked

namespace Steps

theorem eq_ok_of_mapError {ε ε' α : Type} {f : ε → ε'} {result : Except ε α} {a : α}
    (same : result.mapError f = .ok a) : result = .ok a := by
  cases result with
  | error _ => cases same
  | ok _ => cases same; rfl

/-- What a run has before it looks at headers. -/
structure Preparation where
  setting : Setting
  dir : Option Template.Directory
  table : Table
  made : List Forwarder

/-- What a run does before it looks at headers. -/
def prepare (around : Surroundings) (o : Options) : Steps Preparation := do
  let s ← setting o
  let dir ← templates around s
  let t ← load around o
  let made ← forwarders t
  return ⟨s, dir, t, made⟩

def onlyIf (asked : Bool) (x : Steps Unit) : Steps Unit := if asked then x else pure ()

/-- What a run writes. -/
def deliver (around : Surroundings) (arguments : List Text) (o : Options) (ready : Preparation)
    (c : Option Coverage) : Steps Unit := do
  emit ready.table ready.setting ready.dir ready.made .unit
  onlyIf ready.setting.withModule (emit ready.table ready.setting ready.dir ready.made .module)
  onlyIf o.withManifest (writeManifest around arguments ready.table ready.setting ready.made c)

/-- What a run does once it has looked at headers. -/
def conclude (around : Surroundings) (arguments : List Text) (o : Options) (ready : Preparation)
    (c : Option Coverage) : Steps Unit :=
  if ready.setting.dryRun then do
    log [.info .command ("Dry-run complete: " ++ decimal ready.made.length ++
      " trampoline(s) validated (no files written).")]
    exit 0
  else deliver around arguments o ready c

theorem all_eq (around : Surroundings) (arguments : List Text) (o : Options) : all around arguments o =
    prepare around o >>= fun ready => coverage around o ready.table >>= conclude around arguments o ready := by
  simp only [all, prepare, bind_assoc, pure_bind]
  congr! with s dir t made c
  cases dry : s.dryRun with
  | true =>
    rw [conclude, if_pos dry]
    rfl
  | false =>
    have wet : ¬s.dryRun = true := by simp [dry]
    rw [conclude, if_neg wet, deliver]
    dsimp only [onlyIf]
    cases s.withModule <;> rfl

/-! ### Before the tables -/

theorem quiet_setting (o : Options) (statuses : List Nat) : Quiet statuses (setting o) := by
  refine .bind ?_ fun _ => .bind .tree fun t => ?_
  · cases o.outputDir with
    | text t => exact .pure t
    | nothing => exact .escaped _
  · dsimp only
    split
    · exact .escaped _
    · exact .pure _

theorem quiet_templates (around : Surroundings) (s : Setting) : Quiet [1] (templates around s) := by
  refine .bind .tree fun t => ?_
  split
  · exact .fail _ _ _
  · exact .bind (.log _) fun _ => .pure _

theorem perform_setting (proper : Proper p.tree o) :
    perform (setting o) p = (.ok (settingOf p.tree.here o), p) := by
  cases given : o.outputDir with
  | nothing => exact absurd given proper.outputDir
  | text dir =>
    rw [setting, given, pathOf, perform_bind, perform_pure]
    dsimp only
    rw [perform_bind, perform_tree]
    dsimp only
    split
    · next dir found =>
      have null := List.find?_some found
      obtain ⟨name, member, inside⟩ := List.any_eq_true.mp null
      exact absurd (List.contains_iff_mem.mp inside)
        (proper.directories dir (List.mem_of_find?_eq_some found) name member)
    · rfl

theorem of_perform_setting {s : Setting} (came : perform (setting o) p = (.ok s, q)) :
    s = settingOf p.tree.here o ∧ q = p := by
  rw [setting] at came
  obtain ⟨dir, r, path, rest⟩ := perform_bind_eq_ok_iff.mp came
  have same : r = p := by
    cases given : o.outputDir with
    | nothing =>
      rw [given] at path
      cases path
    | text dir =>
      rw [given] at path
      cases path
      rfl
  subst same
  rw [perform_bind, perform_tree] at rest
  dsimp only at rest
  split at rest
  · cases rest
  · cases rest
    exact ⟨rfl, rfl⟩

theorem perform_templates {s : Setting} (found : ∀ dir ∈ s.templatesDir, p.tree.find dir ≠ .error .nameTooLong) :
    perform (templates around s) p =
      (.ok (Template.directory? around.engine p.tree s), p.log (Template.setupEvents p.tree s)) := by
  rw [templates, perform_bind, perform_tree]
  dsimp only
  split
  · next long =>
    obtain ⟨dir, given, same⟩ := Option.map_eq_some_iff.mp long
    exact absurd same (found dir given)
  · rfl

theorem of_perform_templates {s : Setting} {dir : Option Template.Directory}
    (came : perform (templates around s) p = (.ok dir, q)) :
    dir = Template.directory? around.engine p.tree s ∧ q = p.log (Template.setupEvents p.tree s) := by
  rw [templates, perform_bind, perform_tree] at came
  dsimp only at came
  split at came
  · cases came
  · cases came
    exact ⟨rfl, rfl⟩

/-! ### Tables -/

theorem quiet_invalid {α : Type} (failure : Failure) : Quiet [2] (invalid failure : Steps α) :=
  (Quiet.log _).bind fun _ => .exit _

theorem quiet_valid {α : Type} (result : Except Fault α) : Quiet [2] (valid result) := by
  cases result with
  | ok a => exact .pure a
  | error fault => exact quiet_invalid _

theorem quiet_readTable (source t : Text) : Quiet [2] (readTable source t) :=
  (Quiet.log _).bind fun _ => quiet_valid _

theorem quiet_readFile (name : Text) : Quiet [2] (readFile name) := by
  refine .bind .tree fun t => ?_
  split
  · split
    · exact .escaped _
    · exact quiet_invalid _
  · split
    · exact .escaped _
    · exact quiet_readTable _ _

theorem quiet_readFiles (names : List Operand) (merged : Table) : Quiet [2] (readFiles merged names) := by
  induction names generalizing merged with
  | nil => exact .pure merged
  | cons operand rest ih =>
    rw [readFiles]
    refine .bind ?_ fun name => .bind (quiet_readFile name) fun t => ?_
    · cases operand with
      | nothing => exact .escaped _
      | text name => exact .pure name
    · rcases merged.merge t with ⟨together, _ | fault⟩
      · exact ih together
      · exact quiet_invalid _

theorem quiet_load (around : Surroundings) (o : Options) : Quiet [2] (load around o) := by
  rw [load]
  split
  · exact (quiet_readTable _ _).bind fun t => (Quiet.log _).bind fun _ => .pure t
  · exact (quiet_readFiles _ _).bind fun t => (Quiet.log _).bind fun _ => .pure t

theorem quiet_forwarders (t : Table) : Quiet [2] (forwarders t) := (Quiet.log _).bind fun _ => quiet_valid _

theorem fst_perform_valid {α : Type} (result : Except Fault α) (p : Progress) :
    (perform (valid result) p).1 = (result.mapError Failure.table).mapError tableEnding := by
  cases result <;> rfl

theorem fst_perform_readTable (source t : Text) (p : Progress) :
    (perform (readTable source t) p).1 = ((Table.read source t).mapError Failure.table).mapError tableEnding := by
  rw [readTable, perform_bind, perform_log]
  exact fst_perform_valid _ _

theorem perform_readTable_of_ok {source text : Text} {t : Table} (read : Table.read source text = .ok t)
    (p : Progress) : perform (readTable source text) p = (.ok t, p.log (Table.readEvents source text)) := by
  rw [readTable, perform_bind, perform_log, read]
  rfl

theorem perform_readFile_of_text {name text : Text} (found : p.tree.text? name = .ok text) :
    perform (readFile name) p = perform (readTable (Path.ofText name).toText text) p := by
  rw [text?] at found
  rw [readFile, perform_bind, perform_tree]
  dsimp only
  cases here : p.tree.read (Path.ofText name) with
  | error fault =>
    rw [here] at found
    cases found
  | ok content =>
    rw [here] at found
    dsimp only at found ⊢
    cases decoded : Bytes.toText content with
    | error fault =>
      rw [decoded] at found
      cases found
    | ok t =>
      rw [decoded] at found
      cases found
      rfl

theorem fst_perform_readFile_of_text {name : Text} (failed : p.tree.text? name = .error failure) :
    (perform (readFile name) p).1 = .error (tableEnding failure) := by
  rw [text?] at failed
  rw [readFile, perform_bind, perform_tree]
  dsimp only
  cases here : p.tree.read (Path.ofText name) with
  | error fault =>
    rw [here] at failed
    cases failed
    dsimp only
    rw [tableEnding]
    split <;> rfl
  | ok content =>
    rw [here] at failed
    dsimp only at failed ⊢
    cases decoded : Bytes.toText content with
    | error fault =>
      rw [decoded] at failed
      cases failed
      rfl
    | ok t =>
      rw [decoded] at failed
      cases failed

theorem perform_readFile_of_ok {name : Text} {t : Table} (found : p.tree.table? name = .ok t) :
    perform (readFile name) p = (.ok t, p.log (p.tree.tableEvents name)) := by
  rw [table?] at found
  rw [tableEvents]
  cases here : p.tree.text? name with
  | error failure =>
    rw [here] at found
    cases found
  | ok text =>
    rw [here] at found
    exact (perform_readFile_of_text here).trans (perform_readTable_of_ok (eq_ok_of_mapError found) p)

theorem perform_readFile_of_error {name : Text} (failed : p.tree.table? name = .error failure) :
    (perform (readFile name) p).1 = .error (tableEnding failure) := by
  rw [table?] at failed
  cases here : p.tree.text? name with
  | error first =>
    rw [here] at failed
    cases failed
    exact fst_perform_readFile_of_text here
  | ok text =>
    rw [here] at failed
    dsimp only at failed
    rw [perform_readFile_of_text here, fst_perform_readTable, failed]
    rfl

theorem fst_perform_readFiles (names : List Operand) (merged : Table) (p : Progress) :
    (perform (readFiles merged names) p).1 = (p.tables merged names).mapError tableEnding := by
  induction names generalizing merged p with
  | nil => rfl
  | cons operand rest ih =>
    rw [readFiles]
    cases operand with
    | nothing => rfl
    | text name =>
      rw [pathOf, perform_bind, perform_pure]
      dsimp only
      rw [perform_bind, Progress.tables]
      cases found : p.tree.table? name with
      | error failure =>
        have ends := perform_readFile_of_error found
        generalize perform (readFile name) p = came at ends
        obtain ⟨result, r⟩ := came
        cases ends
        rfl
      | ok t =>
        rw [perform_readFile_of_ok found]
        dsimp only
        rcases merged.merge t with ⟨together, _ | fault⟩
        · exact ih together _
        · rfl

theorem fst_perform_logged {α : Type} (x : Steps α) (events : α → List Event) (p : Progress) :
    (perform (do let a ← x; log (events a); return a) p).1 = (perform x p).1 := by
  rw [perform_bind]
  rcases perform x p with ⟨ending | a, q⟩ <;> rfl

theorem fst_perform_load (around : Surroundings) (o : Options) (p : Progress) :
    (perform (load around o) p).1 = (p.given around o).mapError tableEnding := by
  rw [load, Progress.given]
  split
  · rw [fst_perform_logged, fst_perform_readTable]
  · rw [fst_perform_logged, fst_perform_readFiles]

theorem fst_perform_forwarders (t : Table) (p : Progress) :
    (perform (forwarders t) p).1 = (t.forwarders.mapError Failure.table).mapError tableEnding := by
  rw [forwarders, perform_bind, perform_log]
  exact fst_perform_valid _ _

/-! ### Up to the forwarders -/

theorem quiet_prepare (around : Surroundings) (o : Options) : Quiet [1, 2] (prepare around o) := by
  refine .bind (quiet_setting o _) fun s => .bind ((quiet_templates around s).mono (by decide)) fun dir => ?_
  refine .bind ((quiet_load around o).mono (by decide)) fun t => ?_
  exact .bind ((quiet_forwarders t).mono (by decide)) fun made => .pure _

/-- With a table that cannot be used a run ends before it looks at headers. -/
theorem fst_perform_prepare (proper : Proper p.tree o) (unusable : (p.ready o).usable around o = .error failure) :
    (perform (prepare around o) p).1 = .error (tableEnding failure) := by
  rw [prepare, perform_bind, perform_setting proper]
  dsimp only
  rw [perform_bind, perform_templates proper.templates]
  dsimp only
  rw [← Progress.ready, perform_bind]
  have loads := fst_perform_load around o (p.ready o)
  rw [Progress.usable] at unusable
  generalize perform (load around o) (p.ready o) = came at loads ⊢
  obtain ⟨result, r⟩ := came
  cases given : (p.ready o).given around o with
  | error first =>
    rw [given] at loads unusable
    cases unusable
    cases loads
    rfl
  | ok t =>
    rw [given] at loads unusable
    cases loads
    dsimp only at unusable ⊢
    rw [perform_bind]
    cases checked : t.validate with
    | ok _ =>
      rw [checked] at unusable
      cases unusable
    | error fault =>
      rw [checked] at unusable
      cases unusable
      -- The table has been read, and it is refused only where forwarders are made of its rows.
      have refused : t.forwarders = .error fault := by
        rw [Table.forwarders, checked]
        rfl
      have ends := fst_perform_forwarders t r
      rw [refused] at ends
      generalize perform (forwarders t) r = came at ends ⊢
      obtain ⟨result, _⟩ := came
      cases ends
      rfl

/-- What a run has before it looks at headers: its setting, and a valid table with the forwarders of its rows. -/
theorem of_perform_prepare {ready : Preparation} (came : perform (prepare around o) p = (.ok ready, q)) :
    ready.setting = settingOf p.tree.here o ∧ ready.dir = Template.directory? around.engine p.tree ready.setting ∧
      (p.ready o).usable around o = .ok ready.table ∧ ready.made = ready.table.rows.map Forwarder.make := by
  rw [prepare] at came
  obtain ⟨s, first, setting, came⟩ := perform_bind_eq_ok_iff.mp came
  obtain ⟨settled, same⟩ := of_perform_setting setting
  subst first s
  obtain ⟨dir, second, templates, came⟩ := perform_bind_eq_ok_iff.mp came
  obtain ⟨directory, same⟩ := of_perform_templates templates
  rw [← Progress.ready] at same
  subst second
  obtain ⟨t, r, load, came⟩ := perform_bind_eq_ok_iff.mp came
  obtain ⟨made, last, forwarders, came⟩ := perform_bind_eq_ok_iff.mp came
  cases came
  have given := fst_perform_load around o (p.ready o)
  have valid := fst_perform_forwarders t r
  rw [load] at given
  rw [forwarders] at valid
  have found : (p.ready o).given around o = .ok t := eq_ok_of_mapError given.symm
  have synthesized : t.forwarders = .ok made := eq_ok_of_mapError (eq_ok_of_mapError valid.symm)
  rw [Progress.usable, found]
  cases checked : t.validate with
  | error fault =>
    rw [Table.forwarders, checked] at synthesized
    cases synthesized
  | ok _ =>
    rw [Table.forwarders_of_validate checked] at synthesized
    cases synthesized
    refine ⟨rfl, directory, ?_, rfl⟩
    dsimp only
    rw [checked]
    rfl

end Steps

/-! ### Runs -/

theorem same_of_create {next : FileTree} {path : Path} (grounded : tree.Grounded)
    (created : tree.create path = .ok next) : Same [path.locate tree.here] tree next := by
  rw [create] at created
  split at created
  · cases created
  · next l found =>
    split at created
    · cases created
    · cases created
      rw [← locate_of_find grounded found]
      exact .put tree l _

theorem locate_logPath {here : Location} (down : ['.', '.'] ∉ here) (file : Text) :
    (Progress.logPath here file).locate here = (Path.ofText file).locate here := by
  have root : (Progress.logPath here file).root.isEmpty = false := by
    rw [Progress.logPath]
    dsimp only
    split
    · rfl
    · next given => simpa using given
  rw [Path.locate, root]
  exact Path.follow_of_not_mem (Path.not_mem_locate down _)

/-- Setting up the log makes or empties the log file, and nothing else. -/
theorem same_of_start (grounded : tree.Grounded) (started : Progress.start tree o = .ok start) :
    start.logPlace = logPlace? tree.here o ∧ Same (logPlace? tree.here o).toList tree start.tree := by
  rw [Progress.start] at started
  obtain ⟨format, -, started⟩ := bind_eq_ok.mp started
  obtain ⟨level, -, started⟩ := bind_eq_ok.mp started
  rw [logPlace?]
  split at started
  · next none =>
    cases started
    rw [none]
    exact ⟨rfl, .refl tree⟩
  · next empty =>
    cases started
    rw [empty]
    exact ⟨rfl, .refl tree⟩
  · next file named given =>
    dsimp only at started
    cases created : tree.create (Progress.logPath tree.here file) with
    | error fault =>
      rw [created] at started
      cases started
    | ok made =>
      rw [created] at started
      cases started
      have place : ((some file).filter fun t => !t.isEmpty) = some file := by simpa using named
      rw [given, place, Option.map_some, ← locate_logPath grounded]
      refine ⟨?_, same_of_create grounded created⟩
      rw [locate_logPath grounded]
      rfl

/-- A run ends as its steps do, and leaves the file system that they leave. -/
theorem run_eq {result : Except Ending Unit} (asked : read arguments = .ok (.run o))
    (started : Progress.start tree o = .ok start)
    (came : Steps.perform (Steps.all around arguments o) start = (result, p)) :
    (run around tree arguments).ending = endingOf result ∧ (run around tree arguments).tree = p.tree := by
  have parts : (Steps.all around arguments o).run start = (result, p) := came
  rw [run, asked]
  dsimp only
  rw [runWith, started]
  dsimp only
  rw [parts]
  cases result <;> exact ⟨rfl, rfl⟩

/-- Where the log cannot be set up, nothing has been done before. -/
theorem run_of_not_started {failure : Failure} (asked : read arguments = .ok (.run o))
    (refused : Progress.start tree o = .error failure) :
    run around tree arguments = { ending := .escaped failure, tree } := by
  rw [run, asked]
  dsimp only
  rw [runWith, refused]

/-- A run whose tables cannot be read, decoded, parsed, merged or validated changes no file but the log file, and
has the exit status 2, unless the first failure is that a file is not UTF-8: nothing handles that. -/
theorem run_of_unusable (grounded : tree.Grounded) (asked : read arguments = .ok (.run o))
    (started : Progress.start tree o = .ok start) (proper : Proper start.tree o)
    (unusable : (start.ready o).usable around o = .error failure) :
    ((∀ fault, failure ≠ .encoding fault) → (run around tree arguments).ending = .exit 2) ∧
    (∀ fault, failure = .encoding fault → (run around tree arguments).ending = .escaped failure) ∧
    Same (logPlace? tree.here o).toList tree (run around tree arguments).tree := by
  obtain ⟨place, opened⟩ := same_of_start grounded started
  have ends := Steps.fst_perform_prepare proper unusable
  have logged := (Steps.quiet_prepare around o).logged start
  -- The rest of the steps is not reached.
  have whole : Steps.perform (Steps.all around arguments o) start =
      (.error (tableEnding failure), (Steps.perform (Steps.prepare around o) start).2) := by
    rw [Steps.all_eq, Steps.perform_bind]
    generalize Steps.perform (Steps.prepare around o) start = came at ends ⊢
    obtain ⟨result, r⟩ := came
    cases ends
    rfl
  obtain ⟨ending, left⟩ := run_eq asked started whole
  rw [ending, left]
  refine ⟨tableEnding_of_tableFailure (tableFailure_of_usable proper.tables unusable), ?_,
    opened.trans (place ▸ logged.tree)⟩
  rintro fault rfl
  rfl

/-- A file system with two tables that give one name to two types, and one that is not UTF-8. -/
def damaged : FileTree where
  here := ["work"]
  nodes := [
    (["work"], .directory),
    (["work", "one.proxies"], .file (Bytes.ofText "using Grid = Map<int, Cell>;\n")),
    (["work", "two.proxies"], .file (Bytes.ofText "using Grid = Map<int, Row>;\n")),
    (["work", "bad.proxies"], .file [0xff])]

theorem exists_start (around : Surroundings) (tree : FileTree) (o : Options) (here : Location) (failure : Failure)
    (fails : (Progress.start tree o).toOption.map (fun start =>
      (start.tree.here, (start.ready o).usable around o)) = some (here, .error failure)) :
    ∃ start, Progress.start tree o = .ok start ∧ start.tree.here = here ∧
      (start.ready o).usable around o = .error failure := by
  cases started : Progress.start tree o with
  | error failure =>
    rw [started] at fails
    cases fails
  | ok start =>
    rw [started] at fails
    obtain ⟨here, unusable⟩ := Prod.mk.inj (Option.some.inj fails)
    exact ⟨start, rfl, here, unusable⟩

def bare : Surroundings where
  bundledSource := "bundled"
  parser := none
  engine := fun _ text _ => .ok text

/-- A run of two tables that contradict one another, with a log file. -/
def contradicting : Options where
  tables := [.text "one.proxies", .text "two.proxies"]
  logFile := some "run.log"

theorem run_of_unusable_contradicting : ∃ start failure, damaged.Grounded ∧
    read ["--table", "one.proxies", "--table", "two.proxies", "--log-file", "run.log"] = .ok (.run contradicting) ∧
    Progress.start damaged contradicting = .ok start ∧ Proper start.tree contradicting ∧
    (start.ready contradicting).usable bare contradicting = .error failure ∧
    (run bare damaged ["--table", "one.proxies", "--table", "two.proxies", "--log-file", "run.log"]).ending =
      .exit 2 := by
  have grounded : damaged.Grounded := by decide
  have asked : read ["--table", "one.proxies", "--table", "two.proxies", "--log-file", "run.log"] =
      .ok (.run contradicting) := by decide +kernel
  obtain ⟨start, started, here, unusable⟩ := exists_start bare damaged contradicting ["work"]
    (.table ⟨.aliasRedefined "Grid" none, some "two.proxies:1"⟩) (by decide +kernel)
  have proper : Proper start.tree contradicting := by
    refine ⟨nofun, ?_, nofun, ?_⟩
    · rw [here]
      decide +kernel
    · simp [contradicting]
  exact ⟨start, _, grounded, asked, started, proper, unusable,
    (run_of_unusable grounded asked started proper unusable).1 nofun⟩

/-- A run of a table that is not UTF-8. -/
def undecodable : Options where
  tables := [.text "bad.proxies"]

/-- A file that is not UTF-8 is not among what ends a run with the exit status 2. -/
theorem undecodable_escapes : ∃ start fault, damaged.Grounded ∧
    read ["--table", "bad.proxies"] = .ok (.run undecodable) ∧
    Progress.start damaged undecodable = .ok start ∧ Proper start.tree undecodable ∧
    (start.ready undecodable).usable bare undecodable = .error (.encoding fault) ∧
    (run bare damaged ["--table", "bad.proxies"]).ending ≠ .exit 2 := by
  obtain ⟨start, started, here, unusable⟩ := exists_start bare damaged undecodable ["work"]
    (.encoding (.invalidStart 0xff 0)) (by decide +kernel)
  refine ⟨start, _, by decide, by decide +kernel, started, ⟨nofun, ?_, nofun, ?_⟩, unusable, by decide +kernel⟩
  · rw [here]
    decide +kernel
  · simp [undecodable]

end Command

end Forwarding
