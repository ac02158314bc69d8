import Forwarding.Fault
import Forwarding.Script.Fault
import Forwarding.Storage.Path
import Forwarding.Text.Bytes

/-! Everything that can make an operation fail, with the words for it. -/

set_option autoImplicit false

namespace Forwarding

open Text

inductive Failure where
  /-- The table or one of its rows is wrong. -/
  | table (fault : Fault)
  /-- A file does not hold UTF-8. -/
  | encoding (fault : DecodeFault)
  /-- The file system refuses an operation. -/
  | storage (fault : StorageFault)
  /-- No template has this name. -/
  | templateMissing (name : Text)
  /-- An engine for templates cannot render one. -/
  | rendering (kind message : Text)
  /-- Nothing is given where a path is needed. -/
  | notPath
  /-- There is nothing to parse headers with. -/
  | parserMissing
  /-- A header cannot be parsed. -/
  | headerUnparsed
  /-- A regular expression is malformed. -/
  | malformedPattern
  /-- A composite type is spelled over several lines. -/
  | brokenSpelling
  /-- A log format has no field. -/
  | logFormat (format : Text)
  /-- A log level is given by a name that is none. -/
  | logLevel (name : Text)
  /-- A log level is given by the name of something else. -/
  | logSetting (shown : Text)
  /-- A rendered module cannot be loaded. -/
  | unloadable (fault : Script.Fault)
  /-- A rendered module ends with an error when it is loaded. -/
  | stopped (error : Script.Raised)
  deriving Repr, DecidableEq

def Failure.message : Failure → Text
  | .table fault => fault.message
  | .encoding fault => fault.message
  | .storage fault => fault.message
  | .templateMissing name => "Template not found: " ++ name
  | .rendering _ message => message
  | .notPath => "expected str, bytes or os.PathLike object, not list"
  | .parserMissing =>
    "libclang (clang.cindex) is not available. Install clang Python bindings " ++
      "(e.g., pip install libclang) and ensure libclang is discoverable."
  | .headerUnparsed => "Error parsing translation unit."
  | .malformedPattern => "malformed regular expression"
  | .brokenSpelling => "'NoneType' object has no attribute 'group'"
  | .logFormat format => "Invalid format '" ++ format ++ "' for '%' style"
  | .logLevel name => "Unknown level: " ++ quoted name
  | .logSetting shown => "Level not an integer or a valid string: " ++ shown
  | .unloadable fault => fault.message
  | .stopped error => error.message

end Forwarding
