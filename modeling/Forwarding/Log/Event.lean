import Forwarding.Failure

/-! Log events: a level, a message, where in the program the event comes from, and the failure that
it reports if there is one.

Every operation that logs has a companion that lists its events in order, so that what an operation
computes does not depend on what is logged.
-/

set_option autoImplicit false

namespace Forwarding

open Text

/-- The parts of the program that log. -/
inductive Source where
  | table
  | reader
  | forwarders
  | scan
  | coverage
  | files
  | unit
  | module
  | manifest
  | command
  deriving Repr, DecidableEq

namespace Source

/-- The common beginning of the names, which is also a name. -/
def common : Text := "proxy_binding_generator"

/-- The name that a part of the program has in the log. -/
def name (source : Source) : Text :=
  common ++ "." ++ match source with
    | .table => "table".toList
    | .reader => "parsing.table_parser".toList
    | .forwarders => "trampolines".toList
    | .scan => "parsing.clang_parser".toList
    | .coverage => "coverage".toList
    | .files => "utils".toList
    | .unit => "emitters.cpp_emitter".toList
    | .module => "emitters.python_emitter".toList
    | .manifest => "manifest".toList
    | .command => "generate_bindings".toList

end Source

/-- One entry of the log. -/
structure Event where
  source : Source
  level : Int
  message : Text
  failure : Option Failure := none
  deriving Repr, DecidableEq

namespace Event

def debug (source : Source) (message : Text) : Event := { source, level := 10, message }

def info (source : Source) (message : Text) : Event := { source, level := 20, message }

def warning (source : Source) (message : Text) : Event := { source, level := 30, message }

def error (source : Source) (message : Text) : Event := { source, level := 40, message }

def failed (source : Source) (message : Text) (failure : Failure) : Event :=
  { source, level := 40, message, failure := some failure }

end Event

end Forwarding
