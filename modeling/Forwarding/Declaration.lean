import Forwarding.Digest
import Forwarding.Fault
import Forwarding.Spelling.Form

/-! Declarations: the rows of a signature table.

A row names a method of a class and the types it takes and returns. Its symbol joins class, method
and tag; overloads of a method are rows of their own, told apart by their tags.
-/

set_option autoImplicit false

namespace Forwarding

open Text

/-- A method to expose as a forwarding function. -/
structure Declaration where
  subject : Text
  result : Text
  method : Text
  parameters : List Text := []
  tag : Text := []
  /-- The heading that the row stands under. -/
  heading : Text := []
  /-- Where the row comes from. -/
  origin : Option Text := none
  deriving Repr, DecidableEq

namespace Declaration

/-- A class name without the reference and pointer marks after it. -/
def bare (subject : Text) : Text := strip (dropEnd Spelling.isDeclarator subject)

/-- A qualified name as part of a symbol. -/
def flat (name : Text) : Text := replace "::" "_" name

def symbolOf (subject method tag : Text) : Text := flat (bare subject) ++ "_" ++ method ++ tag

variable (d : Declaration)

def subjectName : Text := bare d.subject

/-- Whether the method is called on a reference and not through a pointer. -/
def byReference : Bool := (strip d.subject).getLast? == some '&'

def subjectParameter : Text := d.subjectName ++ (if d.byReference then "&" else "*" : Text)

def key : Key := ⟨d.subjectName, d.method, d.tag⟩

def symbol : Text := symbolOf d.subjectName d.method d.tag

def signature : Text :=
  d.result ++ " " ++ d.subjectName ++ "::" ++ d.method ++ "(" ++ join ", " d.parameters ++ ")"

/-- A short fingerprint of the symbol and its types. -/
def fingerprint : Text :=
  Digest.short (d.symbol ++ "|" ++ d.result ++ "|" ++ join "," d.parameters)

def fault (cause : Cause) : Fault := ⟨cause, d.origin⟩

/-- Class, method and symbol have to be identifiers, and a return type has to be there. -/
def checkNames : Except Fault Unit :=
  let subject := flat d.subjectName
  if !isIdentifier subject then .error (d.fault (.invalidSubject d.subject))
  else if !isIdentifier d.method then .error (d.fault (.invalidMethod d.method))
  else if (strip d.result).isEmpty then .error (d.fault (.missingResult subject d.method))
  else if !isIdentifier d.symbol then .error (d.fault (.invalidTag d.tag d.symbol))
  else .ok ()

end Declaration

end Forwarding
