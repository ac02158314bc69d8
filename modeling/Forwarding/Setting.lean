import Forwarding.Document
import Forwarding.Storage.Path

/-! The setting of a run: where its output goes, and what the renditions carry besides the table.

What a switch is given is a text, or nothing. Two dashes directly behind the equals sign of a switch give it
nothing. That differs from a text without characters: it is shown as an empty row, and it can never be a path.
-/

set_option autoImplicit false

namespace Forwarding

open Text

/-! ### What is given to a switch -/

inductive Operand where
  | text (t : Text)
  | nothing
  deriving Repr, DecidableEq

namespace Operand

instance : Coe Text Operand := ⟨text⟩

def ofAttached (t : Text) : Operand := if t == ['-', '-'] then nothing else text t

def text? : Operand → Option Text
  | text t => some t
  | nothing => none

/-- The text that is given, without characters if there is none. -/
def content (v : Operand) : Text := v.text?.getD []

def shown (v : Operand) : Text := v.text?.getD ['[', ']']

def document : Operand → Document
  | text t => .text t
  | nothing => .list []

def leading (vs : List Operand) : List Text := (vs.takeWhile (· != nothing)).filterMap text?

def allTexts (vs : List Operand) : Bool := !vs.contains nothing

end Operand

/-! ### Settings -/

structure Setting where
  outputDir : Path
  /-- A directory whose templates take precedence over the built-in ones. -/
  templatesDir : Option Path := none
  /-- The name of the output files without their endings. -/
  stem : Operand := .text "proxies"
  exportMacro : Operand := .text "SDK_EXPORT"
  callingConvention : Operand := .text "__CDECL"
  extraIncludes : List Operand := []
  /-- Whether the script module is written besides the source unit. -/
  withModule : Bool := false
  dryRun : Bool := false
  deriving Repr, DecidableEq

namespace Setting

variable (s : Setting)

def unitPath : Path := s.outputDir.append (.ofText (s.stem.shown ++ ".cpp"))

def modulePath : Path := s.outputDir.append (.ofText (s.stem.shown ++ ".py"))

def manifestPath : Path := s.outputDir.append (.ofText "manifest.json")

end Setting

end Forwarding
