import Forwarding.Log.Event
import Forwarding.Log.Format

/-! Routing of log entries to a stream and, if wanted, a file.

A routing has a lowest level and a format. Configuring a log replaces its routing, so that an entry is
written once however often the log has been configured; the file starts anew each time it is named. A
format that is not accepted changes nothing. A level that is none still empties the file, and the
routing that stays in force goes on writing behind the place it had reached.

This is what comes of the loggers and handlers of a delivery, without them.
-/

set_option autoImplicit false

namespace Forwarding

open Text

structure Routing where
  level : Int
  format : Text
  /-- Whether entries go to the file too. -/
  toFile : Bool
  deriving Repr, DecidableEq

namespace Routing

/-- Whether entries of a level are written. A level that is not positive never is. -/
def delivers (r : Routing) (level : Int) : Bool := 0 < level && r.level ≤ level

/-- What an entry adds to the stream: nothing, or a line. -/
def line (r : Routing) (name : Text) (level : Int) (message : Text) : Text :=
  if r.delivers level then
    match LogFormat.apply r.format name level message with
    | none => []
    | some t => t ++ ['\n']
  else []

/-- The format to use: the ordinary one if none is given, or the one that is given if it is
accepted. -/
def format? (given : Option Text) : Except Failure Text :=
  match given with
  | none | some [] => .ok LogFormat.ordinary
  | some t => if LogFormat.isValid t then .ok t else .error (.logFormat t)

def level? (given : Level.Setting) : Except Failure Int :=
  match given with
  | .number n => .ok n
  | .text t => .error (.logLevel t)
  | .other shown => .error (.logSetting shown)

end Routing

/-- A log with what it has written to the stream and to the file, if there is one. -/
structure Log where
  routing : Option Routing := none
  stream : Text := []
  file : Option Text := none
  /-- How many bytes the routing has written to the file. -/
  reached : Nat := 0
  deriving Repr, DecidableEq

namespace Log

variable (log : Log)

def configure (level : Level.Setting) (format : Option Text) (toFile : Bool) :
    Log × Except Failure Routing :=
  match Routing.format? format with
  | .error failure => (log, .error failure)
  | .ok format =>
    let log := if toFile then { log with file := some [] } else log
    match Routing.level? level with
    | .error failure => (log, .error failure)
    | .ok level =>
      let routing : Routing := { level, format, toFile }
      ({ log with routing := some routing, reached := 0 }, .ok routing)

/-- Writes a line to the file, behind what the routing has written there. What is missing before that
place is filled up with null characters. -/
def addToFile (line : Text) : Log :=
  let length := fun (t : Text) => (Bytes.ofText t).length
  { log with
    file := log.file.map fun content =>
      if line.isEmpty then content
      else content ++ List.replicate (log.reached - length content) '\x00' ++ line
    reached := log.reached + length line }

/-- Writes an entry of a part of the program. -/
def add (name : Text) (level : Int) (message : Text) : Log :=
  match log.routing with
  | none => log
  | some routing =>
    let line := routing.line name level message
    let log := if routing.toFile then log.addToFile line else log
    { log with stream := log.stream ++ line }

end Log

end Forwarding
