import Forwarding.Log.Event
import Forwarding.Log.Routing

/-! Delivery of log entries: from a logger through handlers to a stream and, if wanted, a file.

Loggers are named by their place under the root. Only the root and the logger of the package have a level of
their own, and all handlers are those of the root. A logger takes an entry if the first level that is set on its
way to the root lets it through; each handler then asks for its own level and writes the entry in its format,
or loses it if the format cannot be applied.

Configuring opens the file, which empties it, before anything else is changed. New handlers then take the place
of the old ones, and the level is set for the root, the package and the handlers.
-/

set_option autoImplicit false

namespace Forwarding

open Text

/-- Whether a logger of this name is the package's own, or one below it. -/
def Source.isWithin (name : Text) : Bool := name == common || (common ++ ['.']).isPrefixOf name

/-- Where a handler writes. -/
inductive Sink where
  | stream
  /-- The log file as it has been opened once, with how far it has been written since. -/
  | file (reached : Nat)
  deriving Repr, DecidableEq

/-- What has been written to the stream and to the file, if that has been opened. -/
structure Transcript where
  stream : Text := []
  file : Option Bytes := none
  deriving Repr, DecidableEq

namespace Transcript

/-- Puts bytes at a place of a file. What is missing before that place is filled up with zeros. -/
def overwrite (content : Bytes) (place : Nat) (bytes : Bytes) : Bytes :=
  content.take place ++ List.replicate (place - content.length) 0 ++ bytes ++
    content.drop (place + bytes.length)

def openFile (w : Transcript) : Transcript := { w with file := some [] }

def put (w : Transcript) (line : Text) : Sink → Transcript × Sink
  | .stream => ({ w with stream := w.stream ++ line }, .stream)
  | .file reached =>
    let bytes := Bytes.ofText line
    ({ w with file := w.file.map (overwrite · reached bytes) }, .file (reached + bytes.length))

end Transcript

structure Handler where
  level : Int
  format : Text
  sink : Sink
  deriving Repr, DecidableEq

/-- Writes an entry that a logger has taken. -/
def Handler.handle (h : Handler) (w : Transcript) (name : Text) (level : Int) (message : Text) :
    Transcript × Handler :=
  if h.level ≤ level then
    match LogFormat.apply h.format name level message with
    | none => (w, h)
    | some text =>
      let (w, sink) := w.put (text ++ ['\n']) h.sink
      (w, { h with sink })
  else (w, h)

/-- The loggers with the handlers of the root, and what has been written. -/
structure Delivery where
  rootLevel : Int := Level.warning
  packageLevel : Int := Level.unset
  handlers : List Handler := []
  written : Transcript := {}
  deriving Repr, DecidableEq

namespace Delivery

variable (d : Delivery)

/-- The levels on the way from a logger to the root. -/
def levels (name : Text) : List Int :=
  if Source.isWithin name then [d.packageLevel, d.rootLevel] else [d.rootLevel]

def effective (name : Text) : Int := ((d.levels name).find? (· != Level.unset)).getD Level.unset

/-- Whether a logger takes an entry. One whose level is not positive it never takes. -/
def takes (name : Text) (level : Int) : Bool := 0 < level && d.effective name ≤ level

def handleAll (name : Text) (level : Int) (message : Text) :
    List Handler → Transcript → Transcript × List Handler
  | [], w => (w, [])
  | h :: rest, w =>
    let (w, h) := h.handle w name level message
    let (w, rest) := handleAll name level message rest w
    (w, h :: rest)

def log (name : Text) (level : Int) (message : Text) : Delivery :=
  if d.takes name level then
    let (written, handlers) := handleAll name level message d.handlers d.written
    { d with written, handlers }
  else d

def configure (given : Level.Given) (format : Option Text) (toFile : Bool) :
    Delivery × Except Failure Unit :=
  match Routing.format? format with
  | .error failure => (d, .error failure)
  | .ok format =>
    let d := if toFile then { d with written := d.written.openFile } else d
    match Routing.level? given.setting with
    | .error failure => (d, .error failure)
    | .ok level =>
      let sinks := Sink.stream :: if toFile then [.file 0] else []
      let handlers := sinks.map fun sink => { level, format, sink : Handler }
      ({ d with handlers, rootLevel := level, packageLevel := level }, .ok ())

end Delivery

namespace Log

/-- What is asked of a log. -/
inductive Request where
  | configure (given : Level.Given) (format : Option Text) (toFile : Bool)
  | entry (name : Text) (level : Int) (message : Text)
  deriving Repr, DecidableEq

end Log

namespace Delivery

def perform (d : Delivery) : Log.Request → Delivery
  | .configure given format toFile => (d.configure given format toFile).1
  | .entry name level message => d.log name level message

def run (d : Delivery) (requests : List Log.Request) : Delivery := requests.foldl perform d

end Delivery

end Forwarding
