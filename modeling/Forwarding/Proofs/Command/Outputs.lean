import Forwarding.Proofs.Command.Tables
import Forwarding.Proofs.Document
import Forwarding.Proofs.Rendition.Agreement

/-! What a run leaves in the file system.

Up to the renditions a run only logs, but for a draft of the methods that are missing from the table, which is the
last thing that can fail before them. From then on each step writes one file, and no two of them the same.
-/

set_option autoImplicit false

namespace Forwarding

open Text

namespace Path

/-- The last character of a place. -/
def tip (l : Location) : Option Char := l.getLast?.bind List.getLast?

/-- A file in a directory is known by the end of its name. -/
theorem tip_locate_append (ending : Text) {last : Char} (ends : ending.getLast? = some last) (noDot : last ≠ '.')
    (oneName : ∀ c ∈ ending, isSlash c = false) (dir : Path) (t : Text) (here : Location) :
    tip ((dir.append (.ofText (t ++ ending))).locate here) = some last := by
  have given : ending ≠ [] := by
    rintro rfl
    cases ends
  have dot : ending ≠ ['.'] := by
    rintro rfl
    exact noDot (Option.some.inj ends).symm
  obtain ⟨front, named⟩ := exists_getLast?_names given dot oneName t
  have whole : (front ++ ending).getLast? = some last := by
    rw [List.getLast?_append, ends]
    rfl
  have down : front ++ ending ≠ ['.', '.'] := by
    intro same
    rw [same] at whole
    exact noDot (Option.some.inj whole).symm
  have behind : (dir.append (.ofText (t ++ ending))).names.getLast? = some (front ++ ending) := by
    rw [append]
    split
    · rw [List.getLast?_append, named]
      rfl
    · exact named
  rw [tip, getLast?_locate behind down, Option.bind_some, whole]

end Path

namespace Command

open FileTree Progress

def renditionPlace (here : Location) (o : Options) (target : Target) : Location :=
  (target.path (settingOf here o)).locate here

def manifestPlace (here : Location) (o : Options) : Location := (settingOf here o).manifestPath.locate here

/-- Where a run writes what it makes of a table. -/
def outputPlaces (here : Location) (o : Options) : List Location :=
  renditionPlace here o .unit :: (if o.withModule then [renditionPlace here o .module] else []) ++
    if o.withManifest then [manifestPlace here o] else []

/-- Where a run writes what it finds in headers. -/
def draftPlaces (here : Location) (o : Options) : List Location :=
  if o.headers.isEmpty then [] else (Steps.draft? o).toList.map fun draft => (Path.ofText draft).locate here

variable (here : Location) (o : Options)

theorem unit_mem_outputPlaces : renditionPlace here o .unit ∈ outputPlaces here o :=
  List.mem_append_left _ List.mem_cons_self

theorem module_subset_outputPlaces :
    (if o.withModule then [renditionPlace here o .module] else []) ⊆ outputPlaces here o := fun _ member =>
  List.mem_append_left _ (List.mem_cons_of_mem _ member)

theorem manifest_subset_outputPlaces :
    (if o.withManifest then [manifestPlace here o] else []) ⊆ outputPlaces here o :=
  List.subset_append_right _ _

theorem tip_unit : Path.tip (renditionPlace here o .unit) = some 'p' :=
  Path.tip_locate_append ".cpp" rfl (by decide) (by decide) _ _ _

theorem tip_module : Path.tip (renditionPlace here o .module) = some 'y' :=
  Path.tip_locate_append ".py" rfl (by decide) (by decide) _ _ _

theorem tip_manifest : Path.tip (manifestPlace here o) = some 'n' :=
  Path.tip_locate_append "manifest.json" rfl (by decide) (by decide) _ [] _

theorem not_mem_ite {asked : Bool} {l m : Location} (other : l ≠ m) : l ∉ if asked then [m] else [] := by
  split
  · simpa using other
  · exact List.not_mem_nil

theorem unit_ne_module : renditionPlace here o .unit ≠ renditionPlace here o .module := fun same => by
  have tips := tip_unit here o
  rw [same, tip_module] at tips
  exact absurd tips (by decide)

theorem manifest_ne_rendition (target : Target) : manifestPlace here o ≠ renditionPlace here o target := fun same => by
  have tips := tip_manifest here o
  rw [same] at tips
  cases target with
  | unit => exact absurd (tips.symm.trans (tip_unit here o)) (by decide)
  | module => exact absurd (tips.symm.trans (tip_module here o)) (by decide)

variable {here o}

variable {around : Surroundings} {arguments : List Text} {p q start : Progress} {tree next : FileTree}
  {places : List Location} {l : Location} {text : Text} {events : List Event} {t : Table} {s : Setting}
  {dir : Option Template.Directory} {made : List Forwarder} {target : Target}

namespace Progress

theorem withTree_self (p : Progress) : p.withTree p.tree = p := by
  cases p with
  | mk tree routing logPlace events calls =>
    cases logPlace <;> simp [withTree]

theorem log_append (p : Progress) (events more : List Event) : p.log (events ++ more) = (p.log events).log more :=
  List.foldl_append

/-- When a changed file system has been logged, only the log and the changed places differ. -/
theorem reaches_written (keeps : Keeps places p.tree next) (events : List Event) :
    Reaches places p ((p.withTree next).log events) :=
  (reaches_withTree p keeps).trans (logged_log _ _).reaches

theorem Reaches.holds (reaches : Reaches places p q) (holds : p.tree.Holds l text) (log : l ∉ p.logPlace.toList)
    (away : l ∉ places) : q.tree.Holds l text :=
  holds.keep reaches.tree fun member => (List.mem_append.mp member).elim log away

/-- What is at a place that is not the log file stays there while the log goes on. -/
theorem holds_written (holds : next.Holds l text) (away : l ∉ p.logPlace.toList) (events : List Event) :
    ((p.withTree next).log events).tree.Holds l text := by
  have logged := (logged_log (p.withTree next) events).tree.keeps
  exact holds.keep logged fun member => away (logPlace_withTree p next member)

end Progress

namespace Steps

/-- Changes the file system and logs how that went. -/
def change (operation : FileTree → FileTree × Except Failure Bool) (events : Except Failure Bool → List Event) :
    Steps (Except Failure Bool) := do
  let (next, outcome) := operation (← Steps.tree)
  setTree next
  log (events outcome)
  return outcome

theorem perform_change (operation : FileTree → FileTree × Except Failure Bool)
    (events : Except Failure Bool → List Event) (p : Progress) :
    perform (change operation events) p = (.ok (operation p.tree).2,
      (p.withTree (operation p.tree).1).log (events (operation p.tree).2)) := rfl

/-- A dry run logs what would be written. The file system that is logged is the one that was there. -/
theorem perform_change_of_dryRun (path : Path) (text : Text) (events : Except Failure Bool → List Event)
    (p : Progress) : perform (change (fun tree => tree.write path text true) events) p =
      (.ok (.ok false), p.log (events (.ok false))) := by
  have stays : p.withTree (p.tree.write path text true).1 = p := withTree_self p
  rw [perform_change, stays]
  rfl

theorem writeDraft_eq (o : Options) (t : Table) (c : Coverage) (draft : Text) : writeDraft o t c draft =
    scanned (Composite.aliases c.missing t.aliases) >>= fun (aliases, rows) =>
      change (fun tree => tree.write (.ofText draft) (({ rows, aliases } : Table).write draftComment) o.dryRun)
        (writeEvents (.ofText draft) o.dryRun) >>= fun outcome => scanned outcome >>= fun _ => pure () := rfl

theorem emit_eq (t : Table) (s : Setting) (dir : Option Template.Directory) (made : List Forwarder)
    (target : Target) :
    emit t s dir made target =
    change (fun tree => t.emit tree dir s target made) (Table.emitEvents s target made.length) >>= fun
      | .ok _ => pure ()
      | .error failure => fail "Failed to generate files" failure 4 := rfl

theorem writeManifest_eq (around : Surroundings) (arguments : List Text) (t : Table) (s : Setting)
    (made : List Forwarder) (c : Option Coverage) : writeManifest around arguments t s made c =
    change (fun tree => tree.write s.manifestPath
        (Manifest.render (Manifest.build around.host (programName :: arguments) s t made c)) s.dryRun)
        (writeEvents s.manifestPath s.dryRun) >>= fun
      | .ok _ => log [Manifest.event t made]
      | .error failure => fail "Failed to emit generation manifest" failure 5 := rfl

theorem quiet_scanned {α : Type} (result : Except Failure α) : Quiet [3] (scanned result) := by
  cases result with
  | ok a => exact .pure a
  | error failure => exact .fail _ _ _

theorem quiet_exclusion (o : Options) : Quiet [3] (exclusion o) := by
  rw [exclusion]
  split
  · exact .pure _
  split
  · exact .pure _
  · exact .fail _ _ _

theorem quiet_discover (around : Surroundings) (o : Options) (headers : List Text) :
    Quiet [3] (discover around o headers) := by
  rw [discover]
  refine .bind (.log _) fun _ => .bind (quiet_exclusion o) fun exclude => ?_
  have scan : Quiet [3] (do
      let options : ScanOptions := { here := (← Steps.tree).here, filters := Operand.leading o.filters, exclude }
      log (Scan.collectEvents options true around.parser headers)
      modify fun p => { p with calls := Scan.calls (Scan.splitArguments o.parserArguments) around.parser headers }
      scanned (Scan.collect options around.parser headers)) := by
    refine .bind .tree fun t => .bind (.log _) fun _ => .bind ?_ fun _ => quiet_scanned _
    exact ⟨fun p => ⟨rfl, .refl _⟩, fun p n ends => by cases ends⟩
  dsimp only
  split
  · exact .bind (.fail _ _ _) fun _ => scan
  · exact scan

/-! ### The draft -/

/-- Steps that can write at some places, and that have written nothing when they end the run with the status 3. -/
structure Drafting (here : Location) (places : List Location) {α : Type} (x : Steps α) : Prop where
  reaches : ∀ {p q a}, p.tree.here = here → perform x p = (.ok a, q) → Reaches places p q
  exits : ∀ {p q n}, p.tree.here = here → perform x p = (.error (.exit n), q) → n = 3 ∧ Reaches [] p q

namespace Drafting

variable {α β : Type} {x : Steps α} {f : α → Steps β} {here : Location}

theorem of_quiet (quiet : Quiet [3] x) : Drafting here places x where
  reaches {p q a} _ came := by
    have logged := quiet.logged p
    rw [came] at logged
    exact logged.reaches
  exits {p q n} _ came := by
    have logged := quiet.logged p
    rw [came] at logged
    exact ⟨List.mem_singleton.mp (quiet.exits p n (by rw [came])), logged.reaches⟩

theorem bind (first : Quiet [3] x) (rest : ∀ a, Drafting here places (f a)) : Drafting here places (x >>= f) where
  reaches {p q b} at_ came := by
    obtain ⟨a, r, before, came⟩ := perform_bind_eq_ok_iff.mp came
    have logged := first.logged p
    rw [before] at logged
    exact logged.reaches.trans ((rest a).reaches (logged.tree.here.trans at_) came)
  exits {p q n} at_ came := by
    have logged := first.logged p
    rcases perform_bind_eq_error_iff.mp came with ends | ⟨a, r, before, came⟩
    · have quiet : Drafting here places x := of_quiet first
      exact quiet.exits at_ ends
    · rw [before] at logged
      obtain ⟨status, reaches⟩ := (rest a).exits (logged.tree.here.trans at_) came
      exact ⟨status, logged.reaches.trans reaches⟩

theorem followed (draft : Drafting here places x) (b : β) : Drafting here places (x >>= fun _ => pure b) where
  reaches {p q b'} at_ came := by
    obtain ⟨a, r, before, came⟩ := perform_bind_eq_ok_iff.mp came
    cases came
    exact draft.reaches at_ before
  exits {p q n} at_ came := by
    rcases perform_bind_eq_error_iff.mp came with ends | ⟨a, r, -, came⟩
    · exact draft.exits at_ ends
    · cases came

end Drafting

theorem drafting_written {here : Location} (grounded : ['.', '.'] ∉ here) (path : Path) (text : Text)
    (dryRun : Bool) : Drafting here [path.locate here]
      (change (fun tree => tree.write path text dryRun) (writeEvents path dryRun) >>= fun outcome =>
        scanned outcome >>= fun _ => pure ()) := by
  have written : ∀ p : Progress, p.tree.here = here → _ := fun p at_ =>
    write_cases (show p.tree.Grounded by rw [Grounded, at_]; exact grounded) path text dryRun
  constructor
  · intro p q a at_ came
    rw [perform_bind, perform_change] at came
    dsimp only at came
    rcases written p at_ with ⟨failure, failed, -⟩ | ⟨changed, done, keeps, -⟩
    · rw [failed] at came
      cases came
    · rw [done] at came
      cases came
      rw [← at_]
      exact reaches_written keeps _
  · intro p q n at_ came
    rw [perform_bind, perform_change] at came
    dsimp only at came
    rcases written p at_ with ⟨failure, failed, keeps⟩ | ⟨changed, done, -, -⟩
    · rw [failed] at came
      cases came
      exact ⟨rfl, (reaches_written keeps _).trans (logged_log _ _).reaches⟩
    · rw [done] at came
      cases came

theorem drafting_writeDraft {here : Location} (grounded : ['.', '.'] ∉ here) (o : Options) (t : Table)
    (c : Coverage) (draft : Text) :
    Drafting here [(Path.ofText draft).locate here] (writeDraft o t c draft) := by
  rw [writeDraft_eq]
  exact .bind (quiet_scanned _) fun _ => drafting_written grounded _ _ _

theorem quiet_writeDraft {o : Options} (dry : o.dryRun = true) (t : Table) (c : Coverage) (draft : Text) :
    Quiet [3] (writeDraft o t c draft) := by
  rw [writeDraft_eq, dry]
  refine .bind (quiet_scanned _) fun (aliases, rows) => .bind ?_ fun outcome =>
    .bind (quiet_scanned outcome) fun _ => .pure ()
  refine ⟨fun p => ?_, fun p n ends => by cases ends⟩
  rw [perform_change_of_dryRun]
  exact logged_log _ _

theorem quiet_handled {α : Type} (result : Except StorageFault α) : Quiet [3] (handled result) := by
  cases result with
  | ok a => exact .pure a
  | error fault => exact .escaped _

/-! ### Comparing with headers -/

/-- Compares a table with headers, without a draft. -/
def look (around : Surroundings) (o : Options) (t : Table) : Steps (Option Coverage) :=
  if o.headers.isEmpty then do
    if (draft? o).isSome then
      log [.warning .command "--draft-table has no effect without --headers"]
    return none
  else do
    let tree ← Steps.tree
    let places := Operand.leading o.headers
    log (Headers.discoverEvents tree places)
    let headers ← handled (Headers.discover tree places)
    if !Operand.allTexts o.headers then throw (.escaped .notPath)
    if headers.isEmpty then
      log [.error .command ("No headers found to scan under " ++ join ", " places)]
      exit 3
    let discovered ← discover around o (headers.map fun l => (Path.ofLocation l).toText)
    let c := Coverage.compute t discovered []
    log c.events
    return some c

theorem coverage_eq (around : Surroundings) (o : Options) (t : Table) : coverage around o t =
    look around o t >>= fun c =>
      match c, draft? o with
      | some c, some draft => writeDraft o t c draft >>= fun _ => pure (some c)
      | c, _ => pure c := by
  rw [coverage, look]
  dsimp only
  split
  · split <;> rfl
  simp only [bind_assoc]
  congr! with tree _ headers
  split
  · rfl
  split
  · rfl
  simp only [bind_assoc, pure_bind]
  congr! with discovered _
  split
  · next draft asked => rw [asked]
  · next none => rw [Option.eq_none_iff_forall_ne_some.mpr none]

theorem quiet_look (around : Surroundings) (o : Options) (t : Table) : Quiet [3] (look around o t) := by
  rw [look]
  dsimp only
  split
  · split
    · exact .bind (.log _) fun _ => .pure none
    · exact .pure none
  refine .bind .tree fun tree => .bind (.log _) fun _ => .bind (quiet_handled _) fun headers => ?_
  split
  · exact .escaped _
  split
  · exact .bind (.log _) fun _ => .exit _
  · exact .bind (quiet_discover _ _ _) fun discovered => .bind (.log _) fun _ => .pure _

/-- Only the draft is written while headers are compared with a table. -/
theorem drafting_coverage {here : Location} (grounded : ['.', '.'] ∉ here) (around : Surroundings) (o : Options)
    (t : Table) : Drafting here (draftPlaces here o) (coverage around o t) := by
  rw [draftPlaces]
  split
  · next none =>
    rw [coverage, if_pos none]
    refine .of_quiet ?_
    dsimp only
    split
    · exact .bind (.log _) fun _ => .pure _
    · exact .pure _
  · rw [coverage_eq]
    refine .bind (quiet_look around o t) fun c => ?_
    split
    · next draft asked =>
      rw [asked]
      exact (drafting_writeDraft grounded _ _ _ _).followed _
    · exact .of_quiet (.pure _)

theorem quiet_coverage (around : Surroundings) {o : Options} (dry : o.dryRun = true) (t : Table) :
    Quiet [3] (coverage around o t) := by
  rw [coverage_eq]
  refine .bind (quiet_look around o t) fun c => ?_
  split
  · exact .bind (quiet_writeDraft dry _ _ _) fun _ => .pure _
  · exact .pure _

/-! ### The renditions and the manifest -/

theorem of_emit (grounded : p.tree.Grounded) (wet : s.dryRun = false)
    (came : perform (emit t s dir made target) p = (.ok (), q)) : ∃ before text, Keeps [] p.tree before ∧
      t.render before dir s target.templateName made = .ok text ∧
      Reaches [(target.path s).locate p.tree.here] p q ∧
      ((target.path s).locate p.tree.here ∉ p.logPlace.toList →
        q.tree.Holds ((target.path s).locate p.tree.here) text) := by
  rw [emit_eq, perform_bind, perform_change] at came
  dsimp only at came
  -- The templates are looked up behind the making of directories, so the rendition depends on what that left.
  have ensured := keeps_ensureDirectory p.tree s.outputDir
  cases made? : t.emit p.tree dir s target made with
  | mk next outcome =>
    rw [made?] at came
    rw [Table.emit] at made?
    split at made?
    · cases made?
      cases came
    · next before directory =>
      rw [directory] at ensured
      split at made?
      · cases made?
        cases came
      · next text rendered =>
        rw [wet] at made?
        rcases write_cases (ensured.grounded grounded) (target.path s) text false with
          ⟨failure, failed, -⟩ | ⟨changed, done, keeps, holds⟩
        · rw [made?] at failed
          cases failed
          cases came
        · rw [made?, ensured.here] at keeps holds
          rw [made?] at done
          cases done
          cases came
          refine ⟨before, text, ensured, rendered, reaches_written ?_ _, fun away => ?_⟩
          · exact (ensured.mono (List.nil_subset _)).trans keeps
          · exact holds_written (holds rfl) away _

theorem of_emit_exit {n : Nat} (came : perform (emit t s dir made target) p = (.error (.exit n), q)) : n = 4 := by
  rw [emit_eq, perform_bind, perform_change] at came
  dsimp only at came
  split at came
  · cases came
  · cases came
    rfl

theorem of_writeManifest {c : Option Coverage} (grounded : p.tree.Grounded) (wet : s.dryRun = false)
    (came : perform (writeManifest around arguments t s made c) p = (.ok (), q)) :
    Reaches [s.manifestPath.locate p.tree.here] p q ∧ (s.manifestPath.locate p.tree.here ∉ p.logPlace.toList →
      q.tree.Holds (s.manifestPath.locate p.tree.here)
        (Manifest.render (Manifest.build around.host (programName :: arguments) s t made c))) := by
  rw [writeManifest_eq, perform_bind, perform_change, wet] at came
  dsimp only at came
  rcases write_cases grounded s.manifestPath
      (Manifest.render (Manifest.build around.host (programName :: arguments) s t made c)) false with
    ⟨failure, failed, -⟩ | ⟨changed, done, keeps, holds⟩
  · rw [failed] at came
    cases came
  · rw [done] at came
    cases came
    dsimp only
    rw [← log_append]
    exact ⟨reaches_written keeps _, fun away => holds_written (holds rfl) away _⟩

theorem of_writeManifest_exit {c : Option Coverage} {n : Nat}
    (came : perform (writeManifest around arguments t s made c) p = (.error (.exit n), q)) : n = 5 := by
  rw [writeManifest_eq, perform_bind, perform_change] at came
  dsimp only at came
  split at came
  · cases came
  · cases came
    rfl

theorem of_onlyIf_emit {asked : Bool} (grounded : p.tree.Grounded) (wet : s.dryRun = false)
    (came : perform (onlyIf asked (emit t s dir made target)) p = (.ok (), q)) :
    Reaches (if asked then [(target.path s).locate p.tree.here] else []) p q ∧
    (asked = true → ∃ before text, Keeps [] p.tree before ∧
      t.render before dir s target.templateName made = .ok text ∧
      ((target.path s).locate p.tree.here ∉ p.logPlace.toList →
        q.tree.Holds ((target.path s).locate p.tree.here) text)) := by
  cases asked with
  | true =>
    obtain ⟨before, text, kept, rendered, reaches, holds⟩ := of_emit grounded wet came
    exact ⟨reaches, fun _ => ⟨before, text, kept, rendered, holds⟩⟩
  | false =>
    cases came
    exact ⟨(Logged.refl p).reaches, nofun⟩

theorem of_onlyIf_writeManifest {asked : Bool} {c : Option Coverage} (grounded : p.tree.Grounded)
    (wet : s.dryRun = false)
    (came : perform (onlyIf asked (writeManifest around arguments t s made c)) p = (.ok (), q)) :
    Reaches (if asked then [s.manifestPath.locate p.tree.here] else []) p q ∧
    (asked = true → s.manifestPath.locate p.tree.here ∉ p.logPlace.toList →
      q.tree.Holds (s.manifestPath.locate p.tree.here)
        (Manifest.render (Manifest.build around.host (programName :: arguments) s t made c))) := by
  cases asked with
  | true =>
    obtain ⟨reaches, holds⟩ := of_writeManifest grounded wet came
    exact ⟨reaches, fun _ => holds⟩
  | false =>
    cases came
    exact ⟨(Logged.refl p).reaches, nofun⟩

theorem of_onlyIf_exit {asked : Bool} {x : Steps Unit} {ending : Ending}
    (came : perform (onlyIf asked x) p = (.error ending, q)) : perform x p = (.error ending, q) := by
  cases asked with
  | true => exact came
  | false => cases came

theorem of_deliver_exit {ready : Preparation} {c : Option Coverage} {n : Nat}
    (came : perform (deliver around arguments o ready c) p = (.error (.exit n), q)) : n = 4 ∨ n = 5 := by
  rw [deliver] at came
  rcases perform_bind_eq_error_iff.mp came with unit | ⟨_, r, -, came⟩
  · exact .inl (of_emit_exit unit)
  rcases perform_bind_eq_error_iff.mp came with module | ⟨_, r', -, came⟩
  · exact .inl (of_emit_exit (of_onlyIf_exit module))
  · exact .inr (of_writeManifest_exit (of_onlyIf_exit came))

end Steps

/-- A place holds a rendition as the file system had it made, in which only the log, the draft and some places had
been written. -/
def Rendered (o : Options) (log : List Location) (tree : FileTree) (dir : Option Template.Directory) (t : Table)
    (made : List Forwarder) (after : FileTree) (target : Target) (earlier : List Location) : Prop :=
  ∃ before text, Keeps (log ++ (draftPlaces tree.here o ++ earlier)) tree before ∧
    t.render before dir (settingOf tree.here o) target.templateName made = .ok text ∧
    after.Holds (renditionPlace tree.here o target) text

/-- What is left behind when a run has written all it can make of a table. The file of the manifest is read as the
document of the run, which lists the symbols of the rows in order. -/
structure Delivered (around : Surroundings) (arguments : List Text) (o : Options) (log : List Location)
    (tree : FileTree) (dir : Option Template.Directory) (t : Table) (made : List Forwarder) (after : FileTree) :
    Prop where
  unit : Rendered o log tree dir t made after .unit []
  module : o.withModule = true → Rendered o log tree dir t made after .module [renditionPlace tree.here o .unit]
  manifest : o.withManifest = true → ∃ content text coverage entries,
    let document := Manifest.build around.host (programName :: arguments) (settingOf tree.here o) t made coverage
    after.at? (manifestPlace tree.here o) = some (.file content) ∧ Bytes.toText content = .ok text ∧
      Document.read (unixNewlines text) = some document ∧ document.field? "trampolines" = some (.list entries) ∧
      entries.map (Document.field? "symbol") = t.rows.map fun d => some (.text d.symbol)
  frame : Keeps (log ++ (draftPlaces tree.here o ++ outputPlaces tree.here o)) tree after

open Steps

/-- The file of a manifest is read as its document, which lists the symbols of the rows. -/
theorem exists_document_of_holds {c : Option Coverage} (rows : made = t.rows.map Forwarder.make)
    (holds : tree.Holds l (Manifest.render (Manifest.build around.host (programName :: arguments) s t made c))) :
    ∃ content text entries,
      let document := Manifest.build around.host (programName :: arguments) s t made c
      tree.at? l = some (.file content) ∧ Bytes.toText content = .ok text ∧
        Document.read (unixNewlines text) = some document ∧ document.field? "trampolines" = some (.list entries) ∧
        entries.map (Document.field? "symbol") = t.rows.map fun d => some (.text d.symbol) := by
  obtain ⟨entries, listed, symbols⟩ := Table.exists_trampolines around.host (programName :: arguments) s t c
  rw [← rows] at listed
  obtain ⟨content, text, held, decoded, same⟩ := holds
  exact ⟨content, text, entries, held, decoded, Document.read_of_unixNewlines same, listed, symbols⟩

theorem delivered_of_deliver {ready : Preparation} {c : Option Coverage} (grounded : p.tree.Grounded)
    (wet : o.dryRun = false) (setting : ready.setting = settingOf p.tree.here o)
    (made : ready.made = ready.table.rows.map Forwarder.make)
    (apart : ∀ l ∈ outputPlaces p.tree.here o, l ∉ p.logPlace.toList)
    (reaches : Reaches (draftPlaces p.tree.here o) p q) {r : Progress}
    (came : perform (deliver around arguments o ready c) q = (.ok (), r)) :
    Delivered around arguments o p.logPlace.toList p.tree ready.dir ready.table ready.made r.tree := by
  rw [deliver, setting] at came
  -- Each step starts where the one before it ended, with the same current directory.
  obtain ⟨_, one, unit, came⟩ := perform_bind_eq_ok_iff.mp came
  obtain ⟨_, two, module, came⟩ := perform_bind_eq_ok_iff.mp came
  have toUnit := of_emit (reaches.tree.grounded grounded) wet unit
  rw [reaches.tree.here] at toUnit
  obtain ⟨before, text, ensured, rendered, written, holds⟩ := toUnit
  have toOne : Reaches (draftPlaces p.tree.here o ++ [renditionPlace p.tree.here o .unit]) p one :=
    (reaches.mono (List.subset_append_left _ _)).trans (written.mono (List.subset_append_right _ _))
  have toModule := of_onlyIf_emit (toOne.tree.grounded grounded) wet module
  rw [toOne.tree.here] at toModule
  obtain ⟨writtenModule, module⟩ := toModule
  have here : two.tree.here = p.tree.here := writtenModule.tree.here.trans toOne.tree.here
  have toManifest := of_onlyIf_writeManifest (writtenModule.tree.grounded (toOne.tree.grounded grounded)) wet came
  rw [here] at toManifest
  obtain ⟨writtenManifest, manifest⟩ := toManifest
  -- The log file is none of the outputs, at any time.
  have away {l : Location} (output : l ∈ outputPlaces p.tree.here o) :
      l ∉ q.logPlace.toList ∧ l ∉ one.logPlace.toList ∧ l ∉ two.logPlace.toList :=
    ⟨fun member => apart l output (reaches.logPlace member),
      fun member => apart l output (toOne.logPlace member),
      fun member => apart l output (toOne.logPlace (writtenModule.logPlace member))⟩
  have unitOutput := unit_mem_outputPlaces p.tree.here o
  constructor
  · refine ⟨before, text, ?_, rendered, ?_⟩
    · rw [List.append_nil]
      exact reaches.tree.trans (ensured.mono (List.nil_subset _))
    · -- What is written later has another place, by the ends of the names.
      have atOne := holds (away unitOutput).1
      have atTwo := writtenModule.holds atOne (away unitOutput).2.1 (not_mem_ite (unit_ne_module _ _))
      exact writtenManifest.holds atTwo (away unitOutput).2.2 (not_mem_ite (Ne.symm (manifest_ne_rendition _ _ _)))
  · intro asked
    have output : renditionPlace p.tree.here o .module ∈ outputPlaces p.tree.here o :=
      module_subset_outputPlaces _ _ (by simp [asked])
    obtain ⟨before, text, ensured, rendered, holds⟩ := module asked
    refine ⟨before, text, toOne.tree.trans (ensured.mono (List.nil_subset _)), rendered, ?_⟩
    exact writtenManifest.holds (holds (away output).2.1) (away output).2.2
      (not_mem_ite (Ne.symm (manifest_ne_rendition _ _ _)))
  · intro asked
    have output : manifestPlace p.tree.here o ∈ outputPlaces p.tree.here o :=
      manifest_subset_outputPlaces _ _ (by simp [asked])
    obtain ⟨content, text, entries, document⟩ := exists_document_of_holds made (manifest asked (away output).2.2)
    exact ⟨content, text, c, entries, document⟩
  · have within {places : List Location} (outputs : places ⊆ outputPlaces p.tree.here o) :
        places ⊆ draftPlaces p.tree.here o ++ outputPlaces p.tree.here o :=
      List.subset_append_of_subset_right _ outputs
    have unitWithin : draftPlaces p.tree.here o ++ [renditionPlace p.tree.here o .unit] ⊆
        draftPlaces p.tree.here o ++ outputPlaces p.tree.here o :=
      List.append_subset.mpr ⟨List.subset_append_left _ _,
        within (List.cons_subset.mpr ⟨unitOutput, List.nil_subset _⟩)⟩
    exact ((toOne.mono unitWithin).trans (writtenModule.mono (within (module_subset_outputPlaces _ _)))).trans
      (writtenManifest.mono (within (manifest_subset_outputPlaces _ _))) |>.tree

/-! ### Runs -/

variable {result : Except Ending Unit} {last : Progress}

theorem eq_of_endingOf {n : Nat} (ends : endingOf result = .exit n) :
    result = .error (.exit n) ∨ n = 0 ∧ result = .ok () := by
  cases result with
  | error ending =>
    cases ends
    exact .inl rfl
  | ok _ =>
    cases ends
    exact .inr ⟨rfl, rfl⟩

/-- Only the status 0 stands for steps that have all been done. -/
theorem eq_exit_of_endingOf {n : Nat} (fault : n ≠ 0) (ends : endingOf result = .exit n) :
    result = .error (.exit n) :=
  (eq_of_endingOf ends).resolve_right fun done => fault done.1

/-- A run ends in what it does before it looks at headers, while it does, or behind that. -/
theorem perform_all_cases (came : perform (all around arguments o) start = (result, last)) :
    (∃ ending, perform (prepare around o) start = (.error ending, last) ∧ result = .error ending) ∨
    ∃ ready one, perform (prepare around o) start = (.ok ready, one) ∧
      ((∃ ending, perform (coverage around o ready.table) one = (.error ending, last) ∧ result = .error ending) ∨
      ∃ c two, perform (coverage around o ready.table) one = (.ok c, two) ∧
        perform (conclude around arguments o ready c) two = (result, last)) := by
  rw [all_eq, perform_bind] at came
  split at came
  · next ready one prepared =>
    refine .inr ⟨ready, one, prepared, ?_⟩
    rw [perform_bind] at came
    split at came
    · next c two covered => exact .inr ⟨c, two, covered, came⟩
    · next ending two failed =>
      cases came
      exact .inl ⟨ending, failed, rfl⟩
  · next ending one failed =>
    cases came
    exact .inl ⟨ending, failed, rfl⟩

theorem logged_of_prepare {came : Except Ending Preparation}
    (prepared : perform (prepare around o) start = (came, p)) : start.Logged p := by
  have logged := (quiet_prepare around o).logged start
  rwa [prepared] at logged

theorem quiet_conclude {ready : Preparation} {c : Option Coverage} (dry : ready.setting.dryRun = true) :
    Quiet [0] (conclude around arguments o ready c) := by
  rw [conclude, if_pos dry]
  exact .bind (.log _) fun _ => .exit _

theorem logged_of_dryRun (dry : o.dryRun = true) (came : perform (all around arguments o) start = (result, last)) :
    start.Logged last := by
  rcases perform_all_cases came with ⟨ending, prepared, -⟩ | ⟨ready, one, prepared, rest⟩
  · exact logged_of_prepare prepared
  have first := logged_of_prepare prepared
  obtain ⟨setting, -⟩ := of_perform_prepare prepared
  have covers := (quiet_coverage around dry ready.table).logged one
  rcases rest with ⟨ending, failed, -⟩ | ⟨c, two, covered, came⟩
  · rw [failed] at covers
    exact first.trans covers
  · rw [covered] at covers
    have concludes : Quiet [0] (conclude around arguments o ready c) := quiet_conclude (by rw [setting]; exact dry)
    have closes := concludes.logged two
    rw [came] at closes
    exact (first.trans covers).trans closes

/-- The exit statuses 1 to 3 come up before a rendition is written, the last of them perhaps on the way to a
draft. Only a dry run is ended with the status 0. -/
theorem of_perform_exit {n : Nat} (grounded : start.tree.Grounded)
    (came : perform (all around arguments o) start = (.error (.exit n), last)) :
    (n = 1 ∨ n = 2 → start.Logged last) ∧ (n = 3 → Reaches [] start last) ∧ (n = 0 → o.dryRun = true) := by
  rcases perform_all_cases came with ⟨ending, prepared, same⟩ | ⟨ready, one, prepared, rest⟩
  · cases same
    have logged := logged_of_prepare prepared
    have status := (quiet_prepare around o).exits start n (by rw [prepared])
    exact ⟨fun _ => logged, fun _ => logged.reaches, by rintro rfl; simp at status⟩
  have first := logged_of_prepare prepared
  rcases rest with ⟨ending, failed, same⟩ | ⟨c, two, covered, came⟩
  · cases same
    have drafting := drafting_coverage grounded around o ready.table
    obtain ⟨status, reaches⟩ := drafting.exits first.tree.here failed
    exact ⟨by omega, fun _ => first.reaches.trans reaches, by omega⟩
  · obtain ⟨setting, -⟩ := of_perform_prepare prepared
    cases dry : o.dryRun with
    | true =>
      have concludes : Quiet [0] (conclude around arguments o ready c) := quiet_conclude (by rw [setting]; exact dry)
      have status := List.mem_singleton.mp (concludes.exits two n (by rw [came]))
      exact ⟨by omega, by omega, fun _ => rfl⟩
    | false =>
      rw [conclude, setting, if_neg (by simp [settingOf, dry])] at came
      have status := of_deliver_exit came
      exact ⟨by omega, by omega, by omega⟩

/-- A run that is not dry ends well only when it has written all it can make of its table. -/
theorem of_perform_ok {opened : Progress} (grounded : opened.tree.Grounded) (setUp : opened.Logged start)
    (wet : o.dryRun = false) (apart : ∀ l ∈ outputPlaces opened.tree.here o, l ∉ opened.logPlace.toList)
    (came : perform (all around arguments o) start = (.ok (), last)) :
    ∃ t made, (start.ready o).usable around o = .ok t ∧ t.forwarders = .ok made ∧
      Delivered around arguments o opened.logPlace.toList opened.tree
        (Template.directory? around.engine start.tree (settingOf opened.tree.here o)) t made last.tree := by
  have here := setUp.tree.here
  rcases perform_all_cases came with ⟨ending, -, same⟩ | ⟨ready, one, prepared, ⟨ending, -, same⟩ | rest⟩
  · cases same
  · cases same
  obtain ⟨c, two, covered, came⟩ := rest
  have first := setUp.trans (logged_of_prepare prepared)
  obtain ⟨setting, directory, usable, made⟩ := of_perform_prepare prepared
  rw [here] at setting
  rw [setting] at directory
  have drafting : Drafting opened.tree.here _ _ := drafting_coverage grounded around o ready.table
  have reaches := first.reaches.trans (drafting.reaches first.tree.here covered)
  rw [conclude, if_neg (by rw [setting]; simp [settingOf, wet])] at came
  refine ⟨ready.table, ready.made, usable, ?_, ?_⟩
  · rw [made]
    exact Table.forwarders_of_validate (validate_of_usable usable)
  · rw [← directory]
    exact delivered_of_deliver grounded wet setting made apart reaches came

/-- A file system with one table. -/
def orderly : FileTree where
  here := ["work"]
  nodes := [
    (["work"], .directory),
    (["work", "one.proxies"], .file (Bytes.ofText "using Grid = Map<int, Cell>;\nPROXY(A&, void, f, Grid);\n"))]

/-- A run that writes all there is, with a log file. -/
def complete : Options where
  tables := [.text "one.proxies"]
  withModule := true
  logFile := some "run.log"

end Command

end Forwarding
