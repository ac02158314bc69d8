import Forwarding.Forwarder
import Forwarding.Script.Function
import Forwarding.Setting
import Forwarding.Text.Lines

/-! The two renditions of a table, and what both are made from.

The source unit includes the headers, defines the aliases and then has a function with C linkage for each row,
whose body is one call of the method. A heading is repeated as a comment where it changes. The script module has
a function for each row too, under the same symbol and with the same parameter names, whose document string is the
method's signature. The symbols are listed at its end.
-/

set_option autoImplicit false

namespace Forwarding

open Text

/-- The forwarders of a table with its includes and aliases, and the words of the setting. -/
structure Sheet where
  setting : Setting
  includes : List Text
  aliases : List Alias
  forwarders : List Forwarder
  deriving Repr, DecidableEq

namespace Sheet

/-- The includes of the table and then those of the setting, each once. -/
def ofTable (setting : Setting) (t : Table) (forwarders : List Forwarder) : Sheet :=
  { setting
    includes := ((t.includes.map Operand.text ++ setting.extraIncludes).eraseDups).map Operand.shown
    aliases := t.aliases
    forwarders }

end Sheet

/-! ### The source unit -/

namespace Rendition

def unitOpening (count : Nat) : List Text :=
  ["/**",
    " * This file is generated by the proxy binding generator. Do not edit.",
    " *",
    " * " ++ decimal count ++ " forwarding function(s); each one takes the subject",
    " * first and forwards the remaining arguments, unchanged and in order, to a",
    " * single call of the named method.",
    " */"]

/-- Linkage of functions that return classes is wanted here, so the warning is off. -/
def pragmaOpening : List Text :=
  [[],
    "#pragma clang diagnostic push",
    "#pragma clang diagnostic ignored \"-Wreturn-type-c-linkage\"",
    []]

def pragmaClosing : List Text := ["#pragma clang diagnostic pop"]

def aliasComment : Text := "// Composite types are aliased so every parameter is a single token"

/-- The definitions of the aliases under a comment, or nothing if there are none. -/
def aliasLines (aliases : List Alias) : List Text :=
  if aliases.isEmpty then [] else aliasComment :: aliases.map Alias.definition ++ [[]]

def includeLine (header : Text) : Text := "#include " ++ header

/-- The parameter list of a function: the subject, then each type with its name. -/
def unitParameters (f : Forwarder) : Text :=
  join ", " ((f.row.subjectParameter ++ " subject") ::
    f.parameters.formal.map fun (type, name) => type ++ " " ++ name)

def unitCall (f : Forwarder) : Text :=
  "subject" ++ (if f.row.byReference then "." else "->" : Text) ++ f.row.method ++
    "(" ++ join ", " f.parameters.actual ++ ")"

def optionalWord (word : Text) : Text := if word.isEmpty then [] else word ++ " "

/-- The line that declares a function. -/
def unitHead (s : Setting) (f : Forwarder) : Text :=
  "extern \"C\" " ++ optionalWord s.exportMacro.content ++ f.row.result ++ " " ++
    optionalWord s.callingConvention.content ++ f.symbol ++ "(" ++ unitParameters f ++ ")"

def unitFunction (s : Setting) (f : Forwarder) : List Text :=
  [unitHead s f, "\x7b", "    return " ++ unitCall f ++ ";", "\x7d", []]

def headingComment (heading : Text) : Text := "// " ++ heading

def unitFunctions (s : Setting) (previous : Option Text) : List Forwarder → List Text
  | [] => []
  | f :: rest =>
    let heading := f.row.heading
    (if heading.isEmpty || previous == some heading then [] else [headingComment heading]) ++
      unitFunction s f ++ unitFunctions s (some heading) rest

def unitLines (sheet : Sheet) : List Text :=
  unitOpening sheet.forwarders.length ++ sheet.includes.map includeLine ++ pragmaOpening ++
    aliasLines sheet.aliases ++ unitFunctions sheet.setting none sheet.forwarders ++ pragmaClosing

def unit (sheet : Sheet) : Text := ofLines (unitLines sheet)

end Rendition

/-! ### The script module -/

def Forwarder.function (f : Forwarder) : Script.Function :=
  { symbol := f.symbol
    parameters := f.parameters.actual
    document := f.row.signature
    method := f.row.method
    passed := f.parameters.actual }

namespace Rendition

def moduleOpening : List Text :=
  [Script.documentMark,
    "Generated by the proxy binding generator. Do not edit.",
    [],
    "Each function takes the subject first and forwards the remaining arguments,",
    "unchanged and in order, to a single call of the named method.",
    Script.documentMark]

def moduleLines (sheet : Sheet) : List Text :=
  moduleOpening ++ sheet.forwarders.flatMap (·.function.lines) ++
    Script.symbolLines (sheet.forwarders.map (·.symbol))

def module (sheet : Sheet) : Text := ofLines (moduleLines sheet)

end Rendition

end Forwarding
