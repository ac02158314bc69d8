import Forwarding.Log.Delivery
import Forwarding.Proofs.Text.Bytes

/-! What is written to a log follows from the configuration in force.

Configuring sets one level in three places and one format in every handler, so that delivery through handlers
comes to the same as writing each entry once by a routing. No handler of the file stands before its end, so that
it only ever appends.

The stream and the file are then read off the requests. Each entry that the last configuration lets through adds
one record to the stream, unless the format, though it has been accepted, cannot be applied to it. The file holds
what the stream has got from the last configuration that names it up to the next one.
-/

set_option autoImplicit false

namespace Forwarding

open Text

theorem Bytes.ofText_replicate_null (n : Nat) : Bytes.ofText (List.replicate n '\x00') = List.replicate n 0 := by
  induction n with
  | zero => rfl
  | succ n ih =>
    rw [List.replicate_succ, List.replicate_succ, ← ih]
    rfl

/-- A handler that does not stand before the end of the file appends. -/
theorem Transcript.overwrite_of_le {content bytes : Bytes} {place : Nat} (behind : content.length ≤ place) :
    overwrite content place bytes = content ++ List.replicate (place - content.length) 0 ++ bytes := by
  have past : content.length ≤ place + bytes.length := Nat.le_add_right_of_le behind
  rw [overwrite, List.take_of_length_le behind, List.drop_eq_nil_of_le past, List.append_nil]

theorem Transcript.overwrite_ofText {content : Text} {place : Nat}
    (behind : (Bytes.ofText content).length ≤ place) (line : Text) :
    overwrite (Bytes.ofText content) place (Bytes.ofText line) =
      Bytes.ofText (content ++ List.replicate (place - (Bytes.ofText content).length) '\x00' ++ line) := by
  rw [overwrite_of_le behind, Bytes.ofText_append, Bytes.ofText_append, Bytes.ofText_replicate_null]

def Routing.handlers (r : Routing) (reached : Nat) : List Handler :=
  (Sink.stream :: if r.toFile then [.file reached] else []).map fun sink => ⟨r.level, r.format, sink⟩

namespace Log

/-- The loggers and the handlers that stand for a log. -/
def delivery (log : Log) : Delivery where
  rootLevel := (log.routing.map Routing.level).getD Level.warning
  packageLevel := (log.routing.map Routing.level).getD Level.unset
  handlers := log.routing.elim [] fun r => r.handlers log.reached
  written := ⟨log.stream, log.file.map Bytes.ofText⟩

/-- The file is no longer than what the routing in force has written. -/
def Within (log : Log) : Prop := ∀ r, log.routing = some r → r.toFile = true →
  ∀ content, log.file = some content → (Bytes.ofText content).length ≤ log.reached

variable {log : Log} {r : Routing} {name message : Text} {level : Int}

/-! ### What an entry changes -/

@[simp] theorem routing_add (log : Log) (name : Text) (level : Int) (message : Text) :
    (log.add name level message).routing = log.routing := by
  cases inForce : log.routing with
  | none => simp [add, inForce]
  | some r => cases toFile : r.toFile <;> simp [add, inForce, toFile, addToFile]

theorem stream_add (log : Log) (name : Text) (level : Int) (message : Text) :
    (log.add name level message).stream =
      log.stream ++ log.routing.elim [] fun r => r.line name level message := by
  cases inForce : log.routing with
  | none => simp [add, inForce]
  | some r => cases toFile : r.toFile <;> simp [add, inForce, toFile, addToFile]

theorem file_add_of_toFile (inForce : log.routing = some r) (toFile : r.toFile = true) (name : Text) (level : Int)
    (message : Text) :
    (log.add name level message).file = (log.addToFile (r.line name level message)).file ∧
      (log.add name level message).reached = (log.addToFile (r.line name level message)).reached := by
  simp [add, inForce, toFile]

theorem file_add_of_not_toFile (aside : ∀ r, log.routing = some r → r.toFile = false) (name : Text) (level : Int)
    (message : Text) : (log.add name level message).file = log.file := by
  cases inForce : log.routing with
  | none => simp [add, inForce]
  | some r => simp [add, inForce, aside r inForce]

/-! ### Handlers write what a routing does -/

theorem configure_delivery (log : Log) (given : Level.Given) (format : Option Text) (toFile : Bool) :
    (log.delivery.configure given format toFile).1 = (log.configure given.setting format toFile).1.delivery := by
  rw [Delivery.configure, configure]
  cases Routing.format? format with
  | error failure => rfl
  | ok format => cases toFile <;> cases Routing.level? given.setting <;> rfl

theorem takes_delivery (inForce : log.routing = some r) (name : Text) (level : Int) :
    log.delivery.takes name level = r.delivers level := by
  have effective : log.delivery.effective name = r.level := by
    simp only [Delivery.effective, Delivery.levels, delivery, inForce, Option.map_some, Option.getD_some]
    by_cases unset : r.level = Level.unset <;> split <;> simp [unset]
  rw [Delivery.takes, effective, Routing.delivers]

theorem addToFile_nil (log : Log) : log.addToFile [] = log := by
  cases log
  simp [addToFile, Bytes.ofText]

theorem add_of_line_eq_nil (inForce : log.routing = some r) (silent : r.line name level message = []) :
    log.add name level message = log := by
  rw [add, inForce]
  dsimp only
  rw [silent, addToFile_nil, ite_self, List.append_nil]

theorem handleAll_of_none {handlers : List Handler} {w : Transcript}
    (lost : ∀ h ∈ handlers, LogFormat.apply h.format name level message = none) :
    Delivery.handleAll name level message handlers w = (w, handlers) := by
  induction handlers with
  | nil => rfl
  | cons h rest ih =>
    rw [List.forall_mem_cons] at lost
    have here : h.handle w name level message = (w, h) := by simp [Handler.handle, lost.1]
    simp only [Delivery.handleAll, here, ih lost.2]

theorem handle_of_some {sink : Sink} {w : Transcript} {text : Text} (taken : r.level ≤ level)
    (written : LogFormat.apply r.format name level message = some text) :
    (⟨r.level, r.format, sink⟩ : Handler).handle w name level message =
      ((w.put (text ++ ['\n']) sink).1, ⟨r.level, r.format, (w.put (text ++ ['\n']) sink).2⟩) := by
  simp only [Handler.handle, if_pos taken, written]

theorem line_of_some {text : Text} (taken : r.delivers level = true)
    (written : LogFormat.apply r.format name level message = some text) :
    r.line name level message = text ++ ['\n'] := by
  simp [Routing.line, taken, written]

theorem delivery_of_routing (inForce : log.routing = some r) : log.delivery =
    { rootLevel := r.level, packageLevel := r.level, handlers := r.handlers log.reached,
      written := log.delivery.written } := by
  simp [delivery, inForce]

theorem put_stream (log : Log) (line : Text) : log.delivery.written.put line .stream =
    ({ log with stream := log.stream ++ line }.delivery.written, .stream) := rfl

theorem put_file (log : Log) (within : log.Within) (inForce : log.routing = some r) (toFile : r.toFile = true)
    {line : Text} (some : line ≠ []) : log.delivery.written.put line (.file log.reached) =
      ((log.addToFile line).delivery.written, .file (log.addToFile line).reached) := by
  have here : (log.file.map Bytes.ofText).map (Transcript.overwrite · log.reached (Bytes.ofText line)) =
      (log.addToFile line).file.map Bytes.ofText := by
    rw [addToFile, Option.map_map, Option.map_map]
    refine Option.map_congr fun content found => ?_
    rw [Function.comp_apply, Function.comp_apply,
      Transcript.overwrite_ofText (within r inForce toFile content found), if_neg (by simpa using some)]
  rw [Transcript.put, delivery, here]
  rfl

/-- The stream gets the line in any case, and the file if the routing writes to it. -/
theorem handleAll_of_some (within : log.Within) (inForce : log.routing = some r) {text : Text}
    (taken : r.delivers level = true) (written : LogFormat.apply r.format name level message = some text) :
    Delivery.handleAll name level message (r.handlers log.reached) log.delivery.written =
      ((log.add name level message).delivery.written, r.handlers (log.add name level message).reached) := by
  have reaches : r.level ≤ level := by simp [Routing.delivers] at taken; exact taken.2
  rw [add, inForce]
  dsimp only
  rw [line_of_some taken written]
  cases toFile : r.toFile with
  | false =>
    simp only [Routing.handlers, toFile, Bool.false_eq_true, if_false, List.map_cons, List.map_nil,
      Delivery.handleAll, handle_of_some reaches written, put_stream]
  | true =>
    -- What the stream has got does not matter to the file.
    have file := put_file { log with stream := log.stream ++ (text ++ ['\n']) } within inForce toFile
      (List.append_ne_nil_of_right_ne_nil text (List.cons_ne_nil '\n' []))
    simp only [Routing.handlers, toFile, if_true, List.map_cons, List.map_nil,
      Delivery.handleAll, handle_of_some reaches written, put_stream, file]
    rfl

theorem log_delivery (within : log.Within) (name : Text) (level : Int) (message : Text) :
    log.delivery.log name level message = (log.add name level message).delivery := by
  cases inForce : log.routing with
  | none =>
    have none : log.delivery.handlers = [] := by simp [delivery, inForce]
    have same : log.add name level message = log := by simp [add, inForce]
    rw [Delivery.log, same, none]
    split <;> simp [Delivery.handleAll, ← none]
  | some r =>
    rw [Delivery.log, takes_delivery inForce]
    have handlers : log.delivery.handlers = r.handlers log.reached := by simp [delivery, inForce]
    split
    case isFalse refused =>
      rw [add_of_line_eq_nil inForce (by simp [Routing.line, refused])]
    next taken =>
    rw [handlers]
    cases written : LogFormat.apply r.format name level message with
    | none =>
      have lost : ∀ h ∈ r.handlers log.reached, LogFormat.apply h.format name level message = none := by
        simp only [Routing.handlers, List.forall_mem_map]
        exact fun _ _ => written
      rw [handleAll_of_none lost, add_of_line_eq_nil inForce (by simp [Routing.line, taken, written]), ← handlers]
    | some text =>
      rw [handleAll_of_some within inForce taken written, delivery_of_routing inForce,
        delivery_of_routing ((routing_add ..).trans inForce)]

theorem within_configure (within : log.Within) (given : Level.Setting) (format : Option Text) (toFile : Bool) :
    (log.configure given format toFile).1.Within := by
  rw [configure]
  cases Routing.format? format with
  | error failure => exact within
  | ok format =>
    cases Routing.level? given with
    | error failure =>
      cases toFile with
      | false => exact within
      | true =>
        rintro r - - content ⟨⟩
        exact Nat.zero_le _
    | ok level =>
      rintro r ⟨⟩ opened content found
      cases toFile with
      | false => cases opened
      | true =>
        cases found
        exact Nat.le_refl 0

theorem within_addToFile {content : Text} (behind : (Bytes.ofText content).length ≤ log.reached)
    (found : log.file = some content) (line : Text) : ∀ next, (log.addToFile line).file = some next →
      (Bytes.ofText next).length ≤ (log.addToFile line).reached := by
  rintro next added
  simp only [addToFile, found, Option.map_some, Option.some.injEq] at added ⊢
  subst added
  split
  · next silent => exact Nat.le_add_right_of_le behind
  · rw [Bytes.ofText_append, Bytes.ofText_append, Bytes.ofText_replicate_null, List.length_append,
      List.length_append, List.length_replicate]
    omega

theorem within_add (within : log.Within) (name : Text) (level : Int) (message : Text) :
    (log.add name level message).Within := by
  intro r inForce toFile next added
  rw [routing_add] at inForce
  obtain ⟨file, reached⟩ := file_add_of_toFile inForce toFile name level message
  rw [file] at added
  rw [reached]
  cases found : log.file with
  | none => simp [addToFile, found] at added
  | some content => exact within_addToFile (within r inForce toFile content found) found _ next added

/-! ### Requests -/

def perform (log : Log) : Request → Log
  | .configure given format toFile => (log.configure given.setting format toFile).1
  | .entry name level message => log.add name level message

/-- Performs requests by routing, one after the other. -/
def run (log : Log) (requests : List Request) : Log := requests.foldl perform log

theorem perform_delivery (within : log.Within) (q : Request) :
    log.delivery.perform q = (log.perform q).delivery := by
  cases q with
  | configure given format toFile => exact configure_delivery log given format toFile
  | entry name level message => exact log_delivery within name level message

theorem within_perform (within : log.Within) (q : Request) : (log.perform q).Within := by
  cases q with
  | configure given format toFile => exact within_configure within given.setting format toFile
  | entry name level message => exact within_add within name level message

/-- Delivery through handlers comes to the same as routing. -/
theorem run_delivery (within : log.Within) (requests : List Request) :
    log.delivery.run requests = (log.run requests).delivery := by
  induction requests generalizing log with
  | nil => rfl
  | cons q rest ih =>
    rw [Delivery.run, run, List.foldl_cons, List.foldl_cons, perform_delivery within]
    exact ih (within_perform within q)

end Log

/-! ### What follows from the requests alone -/

def Level.Setting.isNumber : Level.Setting → Bool
  | .number _ => true
  | .text _ | .other _ => false

namespace LogFormat

/-- Whether a piece of a format says nothing but what an entry holds. -/
def Piece.isOfEntry : Piece → Bool
  | .literal _ => true
  | .directive d => ["levelname".toList, "levelno".toList, "name".toList, "message".toList].contains d.field

/-- A format that says nothing but what an entry holds. -/
def OfEntry (format : Text) : Prop := ∀ found ∈ pieces format, ∀ piece ∈ found, piece.isOfEntry = true

instance (format : Text) : Decidable (OfEntry format) :=
  inferInstanceAs (Decidable (∀ found ∈ pieces format, ∀ piece ∈ found, piece.isOfEntry = true))

/-- Whether a piece has a text for every entry: a number and a text can both be written as texts. -/
def Piece.isTextual (piece : Piece) : Bool :=
  piece.isOfEntry && match piece with
    | .literal _ => true
    | .directive d => ['s', 'r', 'a'].contains d.conversion

/-- Whether a format is well formed and writes everything as text. -/
def isTextual (format : Text) : Bool := (pieces format).any fun found => found.all Piece.isTextual

theorem Piece.exists_apply {piece : Piece} (textual : piece.isTextual = true) (name : Text) (level : Int)
    (message : Text) : ∃ text, piece.apply (fields name level message) = some text := by
  cases piece with
  | literal c => exact ⟨[c], rfl⟩
  | directive d =>
    rw [isTextual, isOfEntry, Bool.and_eq_true, List.contains_iff_mem, List.contains_iff_mem] at textual
    obtain ⟨field, conversion⟩ := textual
    have found : ∃ value, (fields name level message).lookup d.field = some value := by
      simp only [List.mem_cons, List.not_mem_nil, or_false] at field
      rcases field with same | same | same | same <;> exact ⟨_, by rw [same]; rfl⟩
    obtain ⟨value, found⟩ := found
    refine ⟨d.pad false [] (d.cut (d.asText value)), ?_⟩
    rw [apply, found, Option.bind_some]
    simp only [List.mem_cons, List.not_mem_nil, or_false] at conversion
    rcases conversion with same | same | same <;> simp [Directive.apply, same]

theorem exists_mapM_apply {found : List Piece} (textual : found.all Piece.isTextual = true) (name : Text)
    (level : Int) (message : Text) :
    ∃ texts, found.mapM (Piece.apply (fields name level message)) = some texts := by
  induction found with
  | nil => exact ⟨[], rfl⟩
  | cons piece rest ih =>
    rw [List.all_cons, Bool.and_eq_true] at textual
    obtain ⟨first, here⟩ := piece.exists_apply textual.1 name level message
    obtain ⟨texts, later⟩ := ih textual.2
    exact ⟨first :: texts, by rw [List.mapM_cons, here, later]; rfl⟩

/-- The ordinary format and all others that write everything as text lose no entry. -/
theorem exists_apply {format : Text} (textual : isTextual format = true) (name : Text) (level : Int)
    (message : Text) : ∃ text, LogFormat.apply format name level message = some text := by
  rw [isTextual, Option.any_eq_true] at textual
  obtain ⟨found, parts, textual⟩ := textual
  obtain ⟨texts, written⟩ := exists_mapM_apply textual name level message
  exact ⟨texts.flatten, by rw [apply, parts]; simp [written]⟩

example : isTextual ordinary = true := by decide +kernel

end LogFormat

namespace Log

namespace Request

def routing? : Request → Option Routing
  | .configure given format toFile =>
    match Routing.format? format, Routing.level? given.setting with
    | .ok format, .ok level => some { level, format, toFile }
    | _, _ => none
  | .entry _ _ _ => none

def NamesFile (q : Request) : Prop := ∃ r, q.routing? = some r ∧ r.toFile = true

/-- A configuration with a number for its level and a format that is refused or says what entries hold, or an
entry of the package with a positive level. -/
def Usual : Request → Prop
  | .configure given format _ => given.setting.isNumber = true ∧
      ∀ text ∈ format, LogFormat.isValid text = true → LogFormat.OfEntry text
  | .entry name level _ => Source.isWithin name = true ∧ 0 < level

instance : (q : Request) → Decidable q.Usual
  | .configure given format _ => inferInstanceAs (Decidable (given.setting.isNumber = true ∧
      ∀ text ∈ format, LogFormat.isValid text = true → LogFormat.OfEntry text))
  | .entry name level _ => inferInstanceAs (Decidable (Source.isWithin name = true ∧ 0 < level))

/-- What a request adds to the stream while a routing is in force. -/
def record (r : Routing) : Request → Text
  | .configure _ _ _ => []
  | .entry name level message => r.line name level message

end Request

def lastRouting (past : List Request) : Option Routing := (past.filterMap Request.routing?).getLast?

/-- The requests between the last configuration that names the file and the next one. -/
structure Stretch (past before : List Request) (q : Request) (between after : List Request) : Prop where
  parts : past = before ++ q :: (between ++ after)
  names : q.NamesFile
  silent : ∀ p ∈ between, p.routing? = none
  next : ∀ p, after.head? = some p → p.routing? ≠ none
  aside : ∀ p ∈ after, ¬ p.NamesFile

theorem exists_stretch {past : List Request} (named : ∃ q ∈ past, q.NamesFile) :
    ∃ before q between after, Stretch past before q between after := by
  induction past with
  | nil => simp at named
  | cons first rest ih =>
    by_cases later : ∃ q ∈ rest, q.NamesFile
    · obtain ⟨before, q, between, after, stretch⟩ := ih later
      exact ⟨first :: before, q, between, after, { stretch with parts := by rw [stretch.parts]; rfl }⟩
    · have here : first.NamesFile := by
        obtain ⟨q, member, names⟩ := named
        rcases List.mem_cons.mp member with rfl | inside
        · exact names
        · exact absurd ⟨q, inside, names⟩ later
      have parts := List.takeWhile_append_dropWhile (p := fun p : Request => p.routing?.isNone) (l := rest)
      refine ⟨[], first, rest.takeWhile fun p => p.routing?.isNone, rest.dropWhile fun p => p.routing?.isNone,
        by rw [parts]; rfl, here, fun p member => ?_, fun p head none => ?_, fun p member names => ?_⟩
      · simpa using List.all_eq_true.mp List.all_takeWhile p member
      · have stops := List.head?_dropWhile_not (fun p : Request => p.routing?.isNone) rest
        simp [head, none] at stops
      · exact later ⟨p, (List.dropWhile_suffix _).subset member, names⟩

variable {log : Log} {r : Routing} {q : Request} {content : Text}

theorem lastRouting_cons (q : Request) (rest : List Request) :
    lastRouting (q :: rest) = (lastRouting rest).or q.routing? := by
  rw [lastRouting, List.filterMap_cons]
  cases found : q.routing? with
  | none => rw [Option.or_none]; rfl
  | some r =>
    simp only [List.getLast?_cons, lastRouting]
    cases (rest.filterMap Request.routing?).getLast? <;> rfl

/-- A configuration that does not succeed changes nothing. -/
theorem configure_of_routing?_eq_none {given : Level.Given} {format : Option Text} {toFile : Bool}
    (usual : (Request.configure given format toFile).Usual)
    (none : (Request.configure given format toFile).routing? = none) :
    (log.configure given.setting format toFile).1 = log := by
  have number := usual.1
  rw [Request.routing?] at none
  rw [configure]
  cases accepted : Routing.format? format with
  | error failure => rfl
  | ok format =>
    cases setting : given.setting with
    | number level => simp [accepted, setting, Routing.level?] at none
    | text value => simp [setting, Level.Setting.isNumber] at number
    | other shown => simp [setting, Level.Setting.isNumber] at number

theorem configure_of_routing?_eq_some {given : Level.Given} {format : Option Text} {toFile : Bool}
    (found : (Request.configure given format toFile).routing? = some r) :
    (log.configure given.setting format toFile).1 =
      { log with routing := some r, reached := 0, file := if r.toFile then some [] else log.file } := by
  rw [Request.routing?] at found
  rw [configure]
  cases accepted : Routing.format? format with
  | error failure => simp [accepted] at found
  | ok format =>
    cases number : Routing.level? given.setting with
    | error failure => simp [accepted, number] at found
    | ok level =>
      simp only [accepted, number, Option.some.injEq] at found
      subst found
      cases toFile <;> rfl

theorem stream_perform (log : Log) (q : Request) :
    (log.perform q).stream = log.stream ++ log.routing.elim [] q.record := by
  cases q with
  | configure given format toFile =>
    have same : (log.perform (.configure given format toFile)).stream = log.stream := by
      simp only [perform, configure]
      repeat' split
      all_goals rfl
    rw [same]
    cases log.routing <;> simp [Request.record]
  | entry name level message => exact stream_add log name level message

theorem routing_perform (usual : q.Usual) : (log.perform q).routing = q.routing?.or log.routing := by
  cases q with
  | configure given format toFile =>
    cases found : (Request.configure given format toFile).routing? with
    | none => rw [perform, configure_of_routing?_eq_none usual found, Option.none_or]
    | some r => rw [perform, configure_of_routing?_eq_some found, Option.some_or]
  | entry name level message => exact routing_add log name level message

theorem run_append (log : Log) (s t : List Request) : log.run (s ++ t) = (log.run s).run t :=
  List.foldl_append

/-- What is in force is what the last configuration that has succeeded says. -/
theorem routing_run {past : List Request} (usual : ∀ q ∈ past, q.Usual) :
    (log.run past).routing = (lastRouting past).or log.routing := by
  induction past generalizing log with
  | nil => rfl
  | cons q rest ih =>
    rw [List.forall_mem_cons] at usual
    rw [lastRouting_cons, Option.or_assoc, ← routing_perform usual.1]
    exact ih usual.2

/-! ### The file -/

/-- A log whose routing stands at the end of the file. -/
structure Follows (log : Log) (r : Routing) (content : Text) : Prop where
  routing : log.routing = some r
  toFile : r.toFile = true
  file : log.file = some content
  reached : log.reached = (Bytes.ofText content).length

theorem follows_perform (found : q.routing? = some r) (toFile : r.toFile = true) : (log.perform q).Follows r [] := by
  cases q with
  | configure given format named =>
    rw [perform, configure_of_routing?_eq_some found, toFile]
    exact ⟨rfl, toFile, rfl, rfl⟩
  | entry name level message => cases found

theorem Follows.perform (follows : log.Follows r content) (usual : q.Usual) (silent : q.routing? = none) :
    (log.perform q).Follows r (content ++ q.record r) := by
  cases q with
  | configure given format named =>
    rw [Log.perform, configure_of_routing?_eq_none usual silent, Request.record, List.append_nil]
    exact follows
  | entry name level message =>
    obtain ⟨file, reached⟩ := file_add_of_toFile follows.routing follows.toFile name level message
    refine ⟨(routing_add ..).trans follows.routing, follows.toFile, ?_, ?_⟩
    · rw [Log.perform, file, addToFile, follows.file, follows.reached]
      simp [Request.record]
    · rw [Log.perform, reached, addToFile, follows.reached, ← List.length_append, ← Bytes.ofText_append]
      rfl

/-- While no configuration succeeds, the stream and the file get the same records. -/
theorem Follows.run {between : List Request} (follows : log.Follows r content) (usual : ∀ q ∈ between, q.Usual)
    (silent : ∀ q ∈ between, q.routing? = none) :
    (log.run between).Follows r (content ++ between.flatMap (Request.record r)) ∧
      (log.run between).stream = log.stream ++ between.flatMap (Request.record r) := by
  induction between generalizing log content with
  | nil => simpa [Log.run] using follows
  | cons q rest ih =>
    rw [List.forall_mem_cons] at usual silent
    obtain ⟨later, stream⟩ := ih (follows.perform usual.1 silent.1) usual.2 silent.2
    rw [List.append_assoc] at later
    rw [stream_perform, follows.routing, List.append_assoc] at stream
    exact ⟨later, stream⟩

/-- A log that does not write to its file. -/
def Aside (log : Log) : Prop := ∀ r, log.routing = some r → r.toFile = false

theorem Aside.perform (aside : log.Aside) (usual : q.Usual) (unnamed : ¬ q.NamesFile) :
    (log.perform q).Aside ∧ (log.perform q).file = log.file := by
  cases q with
  | configure given format named =>
    cases found : (Request.configure given format named).routing? with
    | none =>
      rw [Log.perform, configure_of_routing?_eq_none usual found]
      exact ⟨aside, rfl⟩
    | some r =>
      have stays : r.toFile = false := Bool.eq_false_iff.mpr fun toFile => unnamed ⟨r, found, toFile⟩
      rw [Log.perform, configure_of_routing?_eq_some found, stays]
      exact ⟨by rintro _ ⟨⟩; exact stays, rfl⟩
  | entry name level message =>
    exact ⟨fun r found => aside r ((routing_add ..).symm.trans found),
      file_add_of_not_toFile aside name level message⟩

theorem Aside.run {past : List Request} (aside : log.Aside) (usual : ∀ q ∈ past, q.Usual)
    (unnamed : ∀ q ∈ past, ¬ q.NamesFile) : (log.run past).file = log.file := by
  induction past generalizing log with
  | nil => rfl
  | cons q rest ih =>
    rw [List.forall_mem_cons] at usual unnamed
    obtain ⟨still, file⟩ := aside.perform usual.1 unnamed.1
    exact (ih still usual.2 unnamed.2).trans file

/-- The next configuration ends what is written to the file. -/
theorem file_run_of_next {after : List Request} (usual : ∀ q ∈ after, q.Usual)
    (next : ∀ q, after.head? = some q → q.routing? ≠ none) (unnamed : ∀ q ∈ after, ¬ q.NamesFile) :
    (log.run after).file = log.file := by
  cases after with
  | nil => rfl
  | cons q rest =>
    rw [List.forall_mem_cons] at usual unnamed
    obtain ⟨r, found⟩ := Option.ne_none_iff_exists'.mp (next q rfl)
    have stays : r.toFile = false := Bool.eq_false_iff.mpr fun toFile => unnamed.1 ⟨r, found, toFile⟩
    cases q with
    | configure given format named =>
      have first : log.perform (.configure given format named) = { log with routing := some r, reached := 0 } := by
        rw [perform, configure_of_routing?_eq_some found, stays]
        rfl
      have aside : (log.perform (.configure given format named)).Aside := by
        rw [first]
        rintro _ ⟨⟩
        exact stays
      exact (aside.run usual.2 unnamed.2).trans (by rw [first])
    | entry name level message => cases found

/-! ### What handlers have written -/

def delivered (past : List Request) : Delivery := Delivery.run {} past

theorem within_start : ({} : Log).Within := by
  rintro r ⟨⟩

theorem delivered_eq (past : List Request) : delivered past = (({} : Log).run past).delivery :=
  run_delivery within_start past

theorem stream_delivered (past : List Request) : (delivered past).written.stream = (({} : Log).run past).stream := by
  rw [delivered_eq, delivery]

theorem file_delivered (past : List Request) :
    (delivered past).written.file = (({} : Log).run past).file.map Bytes.ofText := by
  rw [delivered_eq, delivery]

theorem stream_delivered_concat {past : List Request} (usual : ∀ q ∈ past, q.Usual) (q : Request) :
    (delivered (past ++ [q])).written.stream =
      (delivered past).written.stream ++ (lastRouting past).elim [] q.record := by
  have routing : (({} : Log).run past).routing = lastRouting past := by rw [routing_run usual, Option.or_none]
  rw [stream_delivered, stream_delivered, run_append, ← routing]
  exact stream_perform _ q

/-- What an entry with a positive level adds: one record, if its level is let through and the format can be applied. -/
theorem line_of_pos {name message : Text} {level : Int} (positive : 0 < level) :
    r.line name level message = if r.level ≤ level then
      ((LogFormat.apply r.format name level message).map (· ++ ['\n'])).getD [] else [] := by
  rw [Routing.line, Routing.delivers, decide_eq_true positive, Bool.true_and]
  cases LogFormat.apply r.format name level message <;> simp

theorem perform_of_refused (d : Delivery) {text : Text} (given : text ≠ []) (refused : LogFormat.isValid text = false)
    (level : Level.Given) (toFile : Bool) : d.perform (.configure level (some text) toFile) = d := by
  have format : Routing.format? (some text) = .error (.logFormat text) := by
    cases text with
    | nil => exact absurd rfl given
    | cons c rest => simp [Routing.format?, refused]
  simp [Delivery.perform, Delivery.configure, format]

theorem file_of_stretch {past before between after : List Request} (usual : ∀ q ∈ past, q.Usual)
    (stretch : Stretch past before q between after) : ∃ text,
      (delivered (before ++ q :: between)).written.stream = (delivered (before ++ [q])).written.stream ++ text ∧
        (delivered past).written.file = some (Bytes.ofText text) := by
  obtain ⟨r, found, toFile⟩ := stretch.names
  rw [stretch.parts] at usual ⊢
  simp only [List.forall_mem_append, List.forall_mem_cons] at usual
  obtain ⟨-, -, within, behind⟩ := usual
  have named : ((({} : Log).run before).perform q).Follows r [] := follows_perform found toFile
  obtain ⟨follows, stream⟩ := named.run within stretch.silent
  refine ⟨between.flatMap (Request.record r), ?_, ?_⟩
  · rw [stream_delivered, stream_delivered, run_append, run_append]
    exact stream
  · have file := (file_run_of_next behind stretch.next stretch.aside).trans follows.file
    have parts : ({} : Log).run (before ++ q :: (between ++ after)) =
        ((((({} : Log).run before).perform q).run between).run after) := by
      simp only [run, List.foldl_append, List.foldl_cons]
    rw [file_delivered, parts, file]
    rfl

theorem file_of_unnamed {past : List Request} (usual : ∀ q ∈ past, q.Usual)
    (unnamed : ∀ q ∈ past, ¬ q.NamesFile) : (delivered past).written.file = none := by
  have aside : ({} : Log).Aside := by rintro r ⟨⟩
  rw [file_delivered, aside.run usual unnamed]
  rfl

theorem delivered_once (past : List Request) (usual : ∀ q ∈ past, q.Usual) :
    (∀ name level message, (Request.entry name level message).Usual →
      (delivered (past ++ [.entry name level message])).written.stream = (delivered past).written.stream ++
        match lastRouting past with
        | none => []
        | some r =>
          if r.level ≤ level then
            ((LogFormat.apply r.format name level message).map (· ++ ['\n'])).getD []
          else []) ∧
    (∀ given format toFile, (delivered (past ++ [.configure given format toFile])).written.stream =
      (delivered past).written.stream) ∧
    (∀ format, LogFormat.isTextual format = true → ∀ name level message,
      ∃ text, LogFormat.apply format name level message = some text) ∧
    (∀ given text toFile, text ≠ [] → LogFormat.isValid text = false →
      delivered (past ++ [.configure given (some text) toFile]) = delivered past) ∧
    (∀ before q between after, Stretch past before q between after → ∃ text,
      (delivered (before ++ q :: between)).written.stream = (delivered (before ++ [q])).written.stream ++ text ∧
        (delivered past).written.file = some (Bytes.ofText text)) ∧
    ((∃ q ∈ past, q.NamesFile) → ∃ before q between after, Stretch past before q between after) ∧
    ((∀ q ∈ past, ¬ q.NamesFile) → (delivered past).written.file = none) := by
  refine ⟨fun name level message entry => ?_, fun given format toFile => ?_,
    fun format => LogFormat.exists_apply, fun given text toFile some refused => ?_,
    fun before q between after => file_of_stretch usual, exists_stretch, file_of_unnamed usual⟩
  · rw [stream_delivered_concat usual]
    cases lastRouting past with
    | none => rfl
    | some r => exact congrArg _ (line_of_pos entry.2)
  · rw [stream_delivered_concat usual]
    cases lastRouting past <;> exact List.append_nil _
  · rw [delivered, Delivery.run, List.foldl_append]
    exact perform_of_refused _ some refused given toFile

/-! A log that is set up three times, twice with its file, and once with a format that is refused. -/

namespace Morning

def before : List Request :=
  [.entry "proxy_binding_generator" 50 "early", .configure (.named "debug") (some "%(message)s") true,
    .entry "proxy_binding_generator.table" 20 "one"]

def naming : Request := .configure (.number 15) (some "%(name)s|%(message)s") true

def between : List Request :=
  [.entry "proxy_binding_generator.table" 15 "two", .configure .nothing (some "plain") true,
    .entry "proxy_binding_generator.files" 14 "three"]

def after : List Request := [.configure (.named "Notset") none false]

def past : List Request := before ++ naming :: (between ++ after)

theorem usual : ∀ q ∈ past, q.Usual := by decide +kernel

theorem stretch : Stretch past before naming between after where
  parts := rfl
  names := ⟨_, rfl, rfl⟩
  silent := by decide +kernel
  next := by decide +kernel
  aside := by
    rintro p member ⟨r, found, toFile⟩
    rw [List.mem_singleton.mp member] at found
    cases found
    cases toFile

end Morning

theorem delivered_once_morning :
    (∀ q ∈ Morning.past, q.Usual) ∧ (Request.entry "proxy_binding_generator" 1 "four").Usual ∧
      (delivered (Morning.past ++ [.entry "proxy_binding_generator" 1 "four"])).written.stream =
        (delivered Morning.past).written.stream ++ "Level 1: four\n".toList ∧
      Stretch Morning.past Morning.before Morning.naming Morning.between Morning.after ∧
      ∃ text, (delivered (Morning.before ++ Morning.naming :: Morning.between)).written.stream =
          (delivered (Morning.before ++ [Morning.naming])).written.stream ++ text ∧
        (delivered Morning.past).written.file = some (Bytes.ofText text) := by
  have entry : (Request.entry "proxy_binding_generator" 1 "four").Usual := by decide +kernel
  have last : lastRouting Morning.past = some ⟨0, LogFormat.ordinary, false⟩ := by decide +kernel
  have text : LogFormat.apply LogFormat.ordinary "proxy_binding_generator" 1 "four" = some "Level 1: four".toList := by
    decide +kernel
  obtain ⟨stream, -, -, -, file, -⟩ := delivered_once Morning.past Morning.usual
  refine ⟨Morning.usual, entry, (stream _ _ _ entry).trans ?_, Morning.stretch, file _ _ _ _ Morning.stretch⟩
  simp only [last, text]
  rfl

/-- A format with a percent sign at its end is accepted, and loses every entry. -/
theorem not_delivered_once : ¬ ∀ (past : List Request) (name : Text) (level : Int) (message : Text) (r : Routing),
    (∀ q ∈ past, q.Usual) → (Request.entry name level message).Usual → lastRouting past = some r →
      r.level ≤ level →
      (delivered (past ++ [.entry name level message])).written.stream ≠ (delivered past).written.stream := by
  intro all
  exact all [.configure .nothing (some "%(levelname)s: %(message)s 100%") true] "proxy_binding_generator" 20 "done"
    ⟨20, "%(levelname)s: %(message)s 100%", true⟩ (by decide +kernel) (by decide +kernel) (by decide +kernel)
    (by decide) (by decide +kernel)

end Log

end Forwarding
