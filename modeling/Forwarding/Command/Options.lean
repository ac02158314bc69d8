import Forwarding.Log.Format
import Forwarding.Setting

/-! What a command line can ask for, and the switches that ask for it. -/

set_option autoImplicit false

namespace Forwarding

open Text

/-- What a run is asked to do. -/
structure Options where
  tables : List Operand := []
  outputDir : Operand := .text "generated"
  stem : Operand := .text "proxies"
  templatesDir : Option Text := none
  exportMacro : Operand := .text "SDK_EXPORT"
  callingConvention : Operand := .text "__CDECL"
  includes : List Operand := []
  withModule : Bool := false
  headers : List Operand := []
  parserArguments : Text := []
  filters : List Operand := []
  exclude : Text := []
  draft : Option Text := none
  withManifest : Bool := true
  dryRun : Bool := false
  verbose : Nat := 0
  quiet : Nat := 0
  logLevel : Option Text := none
  logFormat : Text := LogFormat.ordinary
  logFile : Option Text := none
  deriving Repr, DecidableEq

namespace Command

/-- What a switch does: it asks for help, changes the options, or changes them by a value. A value may
have to be one of some choices. -/
inductive Effect where
  | help
  | change (apply : Options → Options)
  | take (apply : Operand → Options → Options) (choices : List Text)

structure Switch where
  names : List Text
  effect : Effect

namespace Switch

def taking (name : Text) (apply : Operand → Options → Options) : Switch := ⟨[name], .take apply []⟩

def flag (name : Text) (apply : Options → Options) : Switch := ⟨[name], .change apply⟩

end Switch

/-- The names of levels that a command line can give, in capitals and in small letters. -/
def levelChoices : List Text :=
  let names : List Text := ["CRITICAL", "ERROR", "WARNING", "INFO", "DEBUG", "NOTSET"]
  names ++ names.map fun name => name.map Char.toLower

/-- The switches. A switch that takes a value and may be repeated collects its values. -/
def switches : List Switch := [
  ⟨["-h", "--help"], .help⟩,
  .taking "--table" fun value o => { o with tables := o.tables ++ [value] },
  .taking "--output-dir" fun value o => { o with outputDir := value },
  .taking "--output-stem" fun value o => { o with stem := value },
  .taking "--templates-dir" fun value o => { o with templatesDir := value.text? },
  .taking "--export-macro" fun value o => { o with exportMacro := value },
  .taking "--calling-convention" fun value o => { o with callingConvention := value },
  .taking "--include" fun value o => { o with includes := o.includes ++ [value] },
  .flag "--python" fun o => { o with withModule := true },
  .taking "--headers" fun value o => { o with headers := o.headers ++ [value] },
  .taking "--clang-args" fun value o => { o with parserArguments := value.content },
  .taking "--include-filter" fun value o => { o with filters := o.filters ++ [value] },
  .taking "--exclude-regex" fun value o => { o with exclude := value.content },
  .taking "--draft-table" fun value o => { o with draft := value.text? },
  .flag "--no-manifest" fun o => { o with withManifest := false },
  .flag "--dry-run" fun o => { o with dryRun := true },
  ⟨["-v", "--verbose"], .change fun o => { o with verbose := o.verbose + 1 }⟩,
  ⟨["-q", "--quiet"], .change fun o => { o with quiet := o.quiet + 1 }⟩,
  ⟨["--log-level"], .take (fun value o => { o with logLevel := value.text? }) levelChoices⟩,
  .taking "--log-format" fun value o => { o with logFormat := value.content },
  .taking "--log-file" fun value o => { o with logFile := value.text? }]

def named : List (Text × Switch) := switches.flatMap fun s => s.names.map fun name => (name, s)

def switch? (name : Text) : Option Switch := named.lookup name

end Command

end Forwarding
