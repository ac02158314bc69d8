import Forwarding.Coverage.Report
import Forwarding.Document
import Forwarding.Forwarder
import Forwarding.Setting
import Forwarding.Text.ShellWords

/-! The manifest: a document that records a run, so that two runs can be compared.

It lists what the table holds and every forwarder that was made, together with how the program was
called and, if headers were scanned, the coverage.
-/

set_option autoImplicit false

namespace Forwarding

open Text

/-- What a manifest tells of the program and the machine it ran on. -/
structure Host where
  version : Text := "unknown"
  environment : List (Text × Document) := []

namespace Manifest

open Document

def ofForm (f : TypeForm) : Document :=
  record [("spelling", text f.spelling), ("category", text f.category.word),
    ("is_const", bool f.isConst)]

def ofAlias (a : Alias) : Document :=
  record [("name", text a.name), ("underlying", text a.underlying), ("origin", ofOption a.origin)]

def ofNote (n : Note) : Document :=
  record [("kind", text n.kind.word), ("note", text n.text), ("section", text n.heading),
    ("origin", ofOption n.origin)]

def ofParameter (parameter : Text × Text) : Document :=
  record [("type", text parameter.1), ("name", text parameter.2)]

def ofForwarder (f : Forwarder) : Document :=
  record [
    ("symbol", text f.symbol),
    ("subject_type", text f.row.subjectName),
    ("subject_parameter_type", text f.row.subjectParameter),
    ("subject_by_reference", bool f.row.byReference),
    ("method_name", text f.row.method),
    ("overload_tag", text f.row.tag),
    ("return_type", text f.row.result),
    ("return_category", text f.result.category.word),
    ("returns_void", bool f.result.isVoid),
    ("formal", list (f.parameters.formal.map ofParameter)),
    ("actual", texts f.parameters.actual),
    ("arity", number f.arity),
    ("cpp_signature", text f.row.signature),
    ("signature_hash", text f.row.fingerprint),
    ("section", text f.row.heading),
    ("origin", ofOption f.row.origin)]

def ofUncovered (u : Coverage.Uncovered) : Document :=
  record [
    ("subject", text u.declaration.subjectName),
    ("method", text u.declaration.method),
    ("signature", text u.declaration.signature),
    ("status", text u.status.word),
    ("note", ofOption (u.note.map Note.text)),
    ("origin", ofOption u.declaration.origin)]

def ofCoverage (c : Coverage) : Document :=
  record [
    ("discovered", number c.discovered),
    ("covered", number c.covered),
    ("ratio", decimals (Coverage.tenThousandths c.covered c.discovered)),
    ("counts", record ([Coverage.Status.missing, .pending, .excluded].map fun status =>
      (status.word, number (c.count status)))),
    ("uncovered", list (c.uncovered.map ofUncovered)),
    ("stale", texts (c.stale.map Declaration.symbol))]

def ofSetting (s : Setting) : Document :=
  record [
    ("output_dir", text s.outputDir.toText),
    ("templates_dir", ofOption (s.templatesDir.map Path.toText)),
    ("output_stem", s.stem.document),
    ("export_macro", s.exportMacro.document),
    ("calling_convention", s.callingConvention.document),
    ("extra_includes", list (s.extraIncludes.map Operand.document)),
    ("emit_python", bool s.withModule),
    ("dry_run", bool s.dryRun)]

def outputs (s : Setting) : List Text :=
  s.unitPath.toText :: if s.withModule then [s.modulePath.toText] else []

def fields (host : Host) (arguments : List Text) (s : Setting) (t : Table)
    (forwarders : List Forwarder) : List (Text × Document) := [
    ("generator", record [("name", text "proxy-binding-generator"), ("version", text host.version)]),
    ("invocation", record [
      ("argv", texts arguments),
      ("command_line", text (join " " (arguments.map ShellWords.write)))]),
    ("environment", record host.environment),
    ("context", ofSetting s),
    ("tables", texts t.sources),
    ("outputs", texts (outputs s)),
    ("includes", texts t.includes),
    ("aliases", list (t.aliases.map ofAlias)),
    ("trampoline_count", number forwarders.length),
    ("subject_count", number t.subjects.length),
    ("trampolines", list (forwarders.map ofForwarder)),
    ("exclusions", list (t.notes.map ofNote))]

/-- The manifest of a run with the given command line. -/
def build (host : Host) (arguments : List Text) (s : Setting) (t : Table)
    (forwarders : List Forwarder) (coverage : Option Coverage) : Document :=
  record (fields host arguments s t forwarders ++
    (coverage.map fun c => (("coverage" : Text), ofCoverage c)).toList)

def render (document : Document) : Text := write 0 document ++ ['\n']

def event (t : Table) (forwarders : List Forwarder) : Event :=
  let sources := join ", " t.sources
  .debug .manifest ("Manifest lists " ++ decimal forwarders.length ++ " trampoline(s) from " ++
    (if sources.isEmpty then "<memory>" else sources : Text))

end Manifest

end Forwarding
