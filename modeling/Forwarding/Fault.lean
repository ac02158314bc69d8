import Forwarding.Text.Quoted

/-! What can be wrong with a table, and the words for it.

A fault is a cause together with the place it concerns, if the place is known. Two causes name their
places themselves: a duplicate symbol lists those of both rows, and an alias fault may point to the
alias.
-/

set_option autoImplicit false

namespace Forwarding

open Text

/-- The two forms of a row: with a tag that tells overloads apart, or without. -/
inductive RowForm where
  | plain
  | overload
  deriving Repr, DecidableEq

namespace RowForm

def word : RowForm → Text
  | .plain => "PROXY"
  | .overload => "PROXY_OVERLOAD"

/-- How many arguments stand before the parameter types. -/
def leading : RowForm → Nat
  | .plain => 3
  | .overload => 4

end RowForm

/-- What identifies a row: the class, the method, and the tag of the overload. -/
structure Key where
  subject : Text
  method : Text
  tag : Text
  deriving Repr, DecidableEq

/-- The parts of a row that may not be empty. -/
inductive Part where
  | subject
  | result
  | method
  | parameter
  deriving Repr, DecidableEq

def Part.label : Part → Text
  | .subject => "subject type"
  | .result => "return type"
  | .method => "method name"
  | .parameter => "parameter type"

inductive Cause where
  | unrecognizedLine (line : Text)
  | unterminatedRow
  | unnamedSection
  | unbalancedRow (form : RowForm)
  | textAfterRow (form : RowForm) (text : Text)
  | tooFewArguments (form : RowForm) (count : Nat)
  | emptyPart (form : RowForm) (part : Part)
  | invalidSubject (subject : Text)
  | invalidMethod (method : Text)
  | missingResult (subject method : Text)
  | invalidTag (tag symbol : Text)
  | invalidAliasName (name : Text)
  | tooManyParameters (count limit : Nat)
  | emptyType
  | compositeType (spelling : Text)
  | unbalancedType (spelling : Text)
  | unequalLists (formal actual declared : Nat)
  | unequalCount (symbol : Text) (expanded declared : Nat)
  | aliasRedefined (name : Text) (first : Option Text)
  | aliasUsedEarly (name symbol : Text) (defined : Option Text)
  | duplicateSymbol (symbol : Text) (first second : Key × Option Text)
  deriving Repr, DecidableEq

/-- The families that causes fall into. -/
inductive Cause.Kind where
  | misread
  | invalidRow
  | duplicate
  | arityLimit
  | arityMismatch
  | aliasRequired
  | aliasRedefined
  | aliasOrder
  deriving Repr, DecidableEq

namespace Cause

def kind : Cause → Kind
  | .unrecognizedLine _ | .unterminatedRow | .unnamedSection | .unbalancedRow _ | .textAfterRow _ _
  | .tooFewArguments _ _ | .emptyPart _ _ => .misread
  | .invalidSubject _ | .invalidMethod _ | .missingResult _ _ | .invalidTag _ _
  | .invalidAliasName _ => .invalidRow
  | .tooManyParameters _ _ => .arityLimit
  | .emptyType | .unbalancedType _ | .unequalLists _ _ _ | .unequalCount _ _ _ => .arityMismatch
  | .compositeType _ => .aliasRequired
  | .aliasRedefined _ _ => .aliasRedefined
  | .aliasUsedEarly _ _ _ => .aliasOrder
  | .duplicateSymbol _ _ _ => .duplicate

/-- A place in parentheses or after a word, left out when it is unknown or empty. -/
def placed (opening : Text) (place : Option Text) (closing : Text) : Text :=
  match place with
  | none | some [] => []
  | some place => opening ++ place ++ closing

def row (entry : Key × Option Text) : Text :=
  "(" ++ entry.1.subject ++ ", " ++ entry.1.method ++ ", " ++ quoted entry.1.tag ++ ")" ++
    placed " at " entry.2 []

def message : Cause → Text
  | .unrecognizedLine line => "unrecognized table line: " ++ quoted line
  | .unterminatedRow => "unterminated declaration at end of table"
  | .unnamedSection => "@section requires a name"
  | .unbalancedRow form => "unbalanced parentheses in " ++ form.word ++ " declaration"
  | .textAfterRow form text => "unexpected text after " ++ form.word ++ "(...): " ++ quoted text
  | .tooFewArguments form count =>
    form.word ++ " needs at least " ++ decimal form.leading ++ " arguments, got " ++ decimal count
  | .emptyPart form part => form.word ++ " has an empty " ++ part.label
  | .invalidSubject subject => "invalid subject type '" ++ subject ++ "'"
  | .invalidMethod method => "invalid method name '" ++ method ++ "'"
  | .missingResult subject method => "missing return type for " ++ subject ++ "::" ++ method
  | .invalidTag tag symbol =>
    "overload tag " ++ quoted tag ++ " does not produce a valid symbol ('" ++ symbol ++ "')"
  | .invalidAliasName name => "invalid alias name '" ++ name ++ "'"
  | .tooManyParameters count limit =>
    decimal count ++ " parameters declared; at most " ++ decimal limit ++ " are supported"
  | .emptyType => "empty type in parameter list"
  | .compositeType spelling =>
    "composite type '" ++ spelling ++
      "' contains a top-level separator; register it as a type alias before use"
  | .unbalancedType spelling =>
    "type '" ++ spelling ++ "' has unbalanced template brackets; a composite type was split " ++
      "at its separator, register it as a type alias before use"
  | .unequalLists formal actual declared =>
    "formal/actual parameter count mismatch: " ++ decimal formal ++ " formal, " ++ decimal actual ++
      " actual, " ++ decimal declared ++ " declared"
  | .unequalCount symbol expanded declared =>
    symbol ++ ": expanded " ++ decimal expanded ++ " parameter(s), declared " ++ decimal declared
  | .aliasRedefined name first =>
    "type alias '" ++ name ++ "' is already defined" ++ placed " (first defined at " first ")"
  | .aliasUsedEarly name symbol defined =>
    "type alias '" ++ name ++ "' is used by " ++ symbol ++ " before it is defined" ++
      placed " (defined at " defined ")"
  | .duplicateSymbol symbol first second =>
    "duplicate symbol '" ++ symbol ++ "' declared by " ++ row first ++ "; " ++ row second

end Cause

/-- A cause and the place of what it concerns. -/
structure Fault where
  cause : Cause
  origin : Option Text
  deriving Repr, DecidableEq

def Fault.message (fault : Fault) : Text :=
  Cause.placed [] fault.origin ": " ++ fault.cause.message

end Forwarding
