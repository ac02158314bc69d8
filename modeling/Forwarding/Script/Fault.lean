import Forwarding.Text.Basic
import Forwarding.Text.Quoted

/-! What can go wrong with a script: with its text, beginning with mistakes that have the same words wherever they
are made, and when it runs. -/

set_option autoImplicit false

namespace Forwarding.Script

open Text

inductive Mistake where
  /-- No rule of the language goes on in this way. -/
  | other
  -- What a text is cut into.
  | unevenIndentation | tooIndented | mixedTabs | unexpectedIndent | unexpectedUnindent
  | tooNested | leadingZeros | backslash | mixedStrings | wideBytes
  -- Expressions.
  | forgottenComma | assignmentForTest | assignmentInArgument | starredHere | doubleStarredHere
  | starredInComprehension | doubleStarredInComprehension | comprehensionTarget | bareGenerator
  | starAlone | starredAfterDoubleStarred | positionalAfterDoubleStarred
  | positionalAfterKeyword | keyWithoutValue | valueMissing | starredValue
  -- Parameters.
  | defaultOrder | parenthesizedParameters | parenthesizedLambdaParameters | slashFirst | slashTwice
  | slashAfterStar | bareStar | starDefault | starTwice | doubleStarDefault | afterDoubleStar
  -- Statements and patterns.
  | annotationTarget | assignmentToYield | trailingComma | bareExceptions | mixedHandlers
  | wildcardTarget | patternTarget | patternOrder | differentNames | starredTwiceInPattern
  | realMissing | imaginaryMissing | patternLiteral | patternKey
  -- Strings with expressions inside.
  | backslashInside | commentInside | emptyInside | conversion | singleBrace | openInside
  | nestedInside | tooNestedInside
  -- What only a whole function shows.
  | continueOutside | valueFromGenerator | leavingGroupHandler | yieldFromInAsync
  | asyncComprehension | starredAlone | starredTwice | starredTarget | lastHandler | importAll | nonlocalInModule | nameInIterable
  | nameInClass | lateFeature | assignedDebug | deletedDebug
  deriving Repr, DecidableEq

def Mistake.words : Mistake → Text
  | .other => "invalid syntax"
  | .unevenIndentation => "unindent does not match any outer indentation level"
  | .tooIndented => "too many levels of indentation"
  | .mixedTabs => "inconsistent use of tabs and spaces in indentation"
  | .unexpectedIndent => "unexpected indent"
  | .unexpectedUnindent => "unexpected unindent"
  | .tooNested => "too many nested parentheses"
  | .leadingZeros =>
    "leading zeros in decimal integer literals are not permitted; use an 0o prefix for octal " ++
      "integers"
  | .backslash => "unexpected character after line continuation character"
  | .mixedStrings => "cannot mix bytes and nonbytes literals"
  | .wideBytes => "bytes can only contain ASCII literal characters"
  | .forgottenComma => "invalid syntax. Perhaps you forgot a comma?"
  | .assignmentForTest => "invalid syntax. Maybe you meant '==' or ':=' instead of '='?"
  | .assignmentInArgument => "expression cannot contain assignment, perhaps you meant \"==\"?"
  | .starredHere => "cannot use starred expression here"
  | .doubleStarredHere => "cannot use double starred expression here"
  | .starredInComprehension => "iterable unpacking cannot be used in comprehension"
  | .doubleStarredInComprehension => "dict unpacking cannot be used in dict comprehension"
  | .comprehensionTarget => "did you forget parentheses around the comprehension target?"
  | .bareGenerator => "Generator expression must be parenthesized"
  | .starAlone => "Invalid star expression"
  | .starredAfterDoubleStarred =>
    "iterable argument unpacking follows keyword argument unpacking"
  | .positionalAfterDoubleStarred => "positional argument follows keyword argument unpacking"
  | .positionalAfterKeyword => "positional argument follows keyword argument"
  | .keyWithoutValue => "':' expected after dictionary key"
  | .valueMissing => "expression expected after dictionary key and ':'"
  | .starredValue => "cannot use a starred expression in a dictionary value"
  | .defaultOrder => "non-default argument follows default argument"
  | .parenthesizedParameters => "Function parameters cannot be parenthesized"
  | .parenthesizedLambdaParameters => "Lambda expression parameters cannot be parenthesized"
  | .slashFirst => "at least one argument must precede /"
  | .slashTwice => "/ may appear only once"
  | .slashAfterStar => "/ must be ahead of *"
  | .bareStar => "named arguments must follow bare *"
  | .starDefault => "var-positional argument cannot have default value"
  | .starTwice => "* argument may appear only once"
  | .doubleStarDefault => "var-keyword argument cannot have default value"
  | .afterDoubleStar => "arguments cannot follow var-keyword argument"
  | .annotationTarget => "illegal target for annotation"
  | .assignmentToYield => "assignment to yield expression not possible"
  | .trailingComma => "trailing comma not allowed without surrounding parentheses"
  | .bareExceptions => "multiple exception types must be parenthesized"
  | .mixedHandlers => "cannot have both 'except' and 'except*' on the same 'try'"
  | .wildcardTarget => "cannot use '_' as a target"
  | .patternTarget => "invalid pattern target"
  | .patternOrder => "positional patterns follow keyword patterns"
  | .differentNames => "alternative patterns bind different names"
  | .starredTwiceInPattern => "multiple starred names in sequence pattern"
  | .realMissing => "real number required in complex literal"
  | .imaginaryMissing => "imaginary number required in complex literal"
  | .patternLiteral => "patterns may only match literals and attribute lookups"
  | .patternKey => "mapping pattern keys may only match literals and attribute lookups"
  | .backslashInside => "f-string expression part cannot include a backslash"
  | .commentInside => "f-string expression part cannot include '#'"
  | .emptyInside => "empty expression not allowed"
  | .conversion => "invalid conversion character: expected 's', 'r', or 'a'"
  | .singleBrace => "single '\x7d' is not allowed"
  | .openInside => "unterminated string"
  | .nestedInside => "expressions nested too deeply"
  | .tooNestedInside => "too many nested parenthesis"
  | .valueFromGenerator => "'return' with value in async generator"
  | .continueOutside => "'continue' not properly in loop"
  | .leavingGroupHandler => "'break', 'continue' and 'return' cannot appear in an except* block"
  | .yieldFromInAsync => "'yield from' inside async function"
  | .asyncComprehension => "asynchronous comprehension outside of an asynchronous function"
  | .starredAlone => "can't use starred expression here"
  | .starredTwice => "multiple starred expressions in assignment"
  | .starredTarget => "starred assignment target must be in a list or tuple"
  | .lastHandler => "default 'except:' must be last"
  | .importAll => "import * only allowed at module level"
  | .nonlocalInModule => "nonlocal declaration not allowed at module level"
  | .nameInIterable =>
    "assignment expression cannot be used in a comprehension iterable expression"
  | .nameInClass =>
    "assignment expression within a comprehension cannot be used in a class body"
  | .lateFeature => "from __future__ imports must occur at the beginning of the file"
  | .assignedDebug => "cannot assign to __debug__"
  | .deletedDebug => "cannot delete __debug__"

end Forwarding.Script

/-! Why the text of a script module cannot be loaded, and the words for it. -/

namespace Forwarding

open Text

namespace Script

/-- What can be wrong with an escape. -/
inductive EscapeFault.Reason where
  /-- Fewer hexadecimal digits than the letter of the escape asks for. -/
  | tooShort (form : Text)
  /-- A number that is no code point. -/
  | tooLarge
  /-- A name without braces around it, or no name. -/
  | malformedName
  | unknownName
  deriving Repr, DecidableEq

/-- An escape that stands for nothing, and its first and last position. -/
structure EscapeFault where
  reason : EscapeFault.Reason
  first : Nat
  last : Nat
  deriving Repr, DecidableEq

def EscapeFault.Reason.words : EscapeFault.Reason → Text
  | .tooShort form => "truncated \\" ++ form ++ " escape"
  | .tooLarge => "illegal Unicode character"
  | .malformedName => "malformed \\N character escape"
  | .unknownName => "unknown Unicode character name"

def EscapeFault.message (fault : EscapeFault) : Text :=
  "(unicode error) 'unicodeescape' codec can't decode bytes in position " ++ decimal fault.first ++
    "-" ++ decimal fault.last ++ ": " ++ fault.reason.words

/-- How a number is written. -/
inductive NumberForm where
  | decimal | hexadecimal | octal | binary | imaginary
  deriving Repr, DecidableEq

def NumberForm.words : NumberForm → Text
  | .decimal => "decimal"
  | .hexadecimal => "hexadecimal"
  | .octal => "octal"
  | .binary => "binary"
  | .imaginary => "imaginary"

/-- How a declaration that a name is global comes too late. -/
inductive GlobalFault where
  | parameter | used | annotated | assigned
  deriving Repr, DecidableEq

inductive Fault.Reason where
  | nullCharacter
  | mistake (mistake : Mistake)
  /-- Something that has to be at a place, and is not. -/
  | expected (what : Text)
  /-- The same inside the braces of a string. -/
  | expecting (what : Text)
  | escape (fault : EscapeFault)
  /-- An escape by digits in a string of bytes that has too few of them. -/
  | byteEscape (position : Nat)
  /-- A string between triple quotes that goes on to the last line of the text. -/
  | openLiteral (lastLine : Nat)
  /-- A string between single marks that goes on to the end of a line. -/
  | openLine (line : Nat)
  | unmatched (bracket : Char)
  /-- A bracket that closes one of another kind, with the line of that if it is another line. -/
  | mismatched (closing opening : Char) (openingLine : Option Nat)
  | neverClosed (opening : Char)
  | malformedNumber (form : NumberForm)
  | malformedDigit (digit : Char) (form : NumberForm)
  /-- A character that no name and no mark has. -/
  | strangeCharacter (c : Char)
  /-- No indented lines after a line that needs them, with what that line is and its number. -/
  | blockMissing (opening : Option (Text × Nat))
  /-- Something that is no target of an assignment. -/
  | cannotAssign (what : Text)
  /-- The same, where a comparison may have been meant. -/
  | cannotAssignHere (what : Text)
  | cannotName (what : Text)
  | cannotAugment (what : Text)
  | cannotAnnotate (what : Text)
  | cannotDelete (what : Text)
  | oldCall (name : Text)
  /-- A word outside what it belongs to. -/
  | outside (word place : Text)
  | yieldInside (place : Text)
  | lateGlobal (name : Text) (fault : GlobalFault)
  | lateNonlocal (name : Text) (fault : GlobalFault)
  | unboundNonlocal (name : Text)
  | globalAndNonlocal (name : Text)
  | repeatedParameter (name : Text)
  | repeatedKeyword (name : Text)
  /-- A name that a comprehension iterates over, given a value inside it. -/
  | reboundName (name : Text)
  /-- A pattern that everything fits, before others; it may give a name to that. -/
  | unreachable (name : Option Text)
  /-- A name that a pattern gives two values. -/
  | repeatedCapture (name : Text)
  /-- A key that a pattern has twice. -/
  | repeatedKey (shown : Text)
  /-- An attribute that a pattern has twice. -/
  | repeatedMember (name : Text)
  /-- No expression before a mark inside the braces of a string. -/
  | emptyBefore (mark : Char)
  /-- What is wrong inside the braces of a string. -/
  | interpolated (reason : Fault.Reason)
  deriving Repr, DecidableEq

/-- What is wrong, and the line that it is found on. -/
structure Fault where
  reason : Fault.Reason
  line : Nat
  deriving Repr, DecidableEq

/-- The kinds of faults that are told apart. -/
inductive Fault.Kind where
  | words | indentation | tabs | value
  deriving Repr, DecidableEq

def hexadecimalOf (c : Char) : Text :=
  let digits := (Nat.toDigits 16 c.toNat).map Char.toUpper
  List.replicate (4 - digits.length) '0' ++ digits

def GlobalFault.words (name kind : Text) : GlobalFault → Text
  | .parameter => "name '" ++ name ++ "' is parameter and " ++ kind
  | .used => "name '" ++ name ++ "' is used prior to " ++ kind ++ " declaration"
  | .annotated => "annotated name '" ++ name ++ "' can't be " ++ kind
  | .assigned => "name '" ++ name ++ "' is assigned to before " ++ kind ++ " declaration"

def Fault.Reason.words : Fault.Reason → Text
  | .nullCharacter => "source code string cannot contain null bytes"
  | .mistake which => which.words
  | .expected what => "expected " ++ what
  | .expecting what => "expecting " ++ what
  | .escape fault => fault.message
  | .byteEscape position => "(value error) invalid \\x escape at position " ++ decimal position
  | .openLiteral lastLine =>
    "unterminated triple-quoted string literal (detected at line " ++ decimal lastLine ++ ")"
  | .openLine line => "unterminated string literal (detected at line " ++ decimal line ++ ")"
  | .unmatched bracket => "unmatched '" ++ [bracket, '\x27']
  | .mismatched closing opening openingLine =>
    "closing parenthesis '" ++ [closing] ++ "' does not match opening parenthesis '" ++
      [opening, '\x27'] ++
      match openingLine with
      | none => []
      | some line => " on line " ++ decimal line
  | .neverClosed opening => ['\x27', opening] ++ "' was never closed"
  | .malformedNumber form => "invalid " ++ form.words ++ " literal"
  | .malformedDigit digit form =>
    "invalid digit '" ++ [digit] ++ "' in " ++ form.words ++ " literal"
  | .strangeCharacter c =>
    if isPrintable c then "invalid character '" ++ [c] ++ "' (U+" ++ hexadecimalOf c ++ ")"
    else "invalid non-printable character U+" ++ hexadecimalOf c
  | .blockMissing none => "expected an indented block"
  | .blockMissing (some (opening, line)) =>
    "expected an indented block after " ++ opening ++ " on line " ++ decimal line
  | .cannotAssign what => "cannot assign to " ++ what
  | .cannotAssignHere what =>
    "cannot assign to " ++ what ++ " here. Maybe you meant '==' instead of '='?"
  | .cannotName what => "cannot use assignment expressions with " ++ what
  | .cannotAugment what =>
    "'" ++ what ++ "' is an illegal expression for augmented assignment"
  | .cannotAnnotate what => "only single target (not " ++ what ++ ") can be annotated"
  | .cannotDelete what => "cannot delete " ++ what
  | .oldCall name =>
    "Missing parentheses in call to '" ++ name ++ "'. Did you mean " ++ name ++ "(...)?"
  | .outside word place => "'" ++ word ++ "' outside " ++ place
  | .yieldInside place => "'yield' inside " ++ place
  | .lateGlobal name fault => fault.words name "global"
  | .lateNonlocal name fault => fault.words name "nonlocal"
  | .unboundNonlocal name => "no binding for nonlocal '" ++ name ++ "' found"
  | .globalAndNonlocal name => "name '" ++ name ++ "' is nonlocal and global"
  | .repeatedParameter name => "duplicate argument '" ++ name ++ "' in function definition"
  | .repeatedKeyword name => "keyword argument repeated: " ++ name
  | .reboundName name =>
    "assignment expression cannot rebind comprehension iteration variable '" ++ name ++ "'"
  | .unreachable none => "wildcard makes remaining patterns unreachable"
  | .unreachable (some name) =>
    "name capture '" ++ name ++ "' makes remaining patterns unreachable"
  | .repeatedCapture name => "multiple assignments to name '" ++ name ++ "' in pattern"
  | .repeatedKey shown => "mapping pattern checks duplicate key (" ++ shown ++ ")"
  | .repeatedMember name => "attribute name repeated in class pattern: " ++ name
  | .emptyBefore mark => "expression required before '" ++ [mark, '\x27']
  | .interpolated reason => "f-string: " ++ reason.words

def Fault.Reason.kind : Fault.Reason → Fault.Kind
  | .nullCharacter => .value
  | .mistake .unevenIndentation | .mistake .tooIndented | .mistake .unexpectedIndent
  | .mistake .unexpectedUnindent | .blockMissing _ => .indentation
  | .mistake .mixedTabs => .tabs
  | .interpolated reason => reason.kind
  | _ => .words

/-- The words with the place in a script, which a null character does not have. -/
def Fault.messageIn (script : Text) (fault : Fault) : Text :=
  match fault.reason with
  | .nullCharacter => fault.reason.words
  | reason => reason.words ++ " (" ++ script ++ ", line " ++ decimal fault.line ++ ")"

def Fault.message (fault : Fault) : Text := fault.messageIn "<proxies>"

/-! ### Errors that a running script ends with -/

inductive Raised where
  /-- No name of the script. -/
  | unknownSymbol (symbol : Text)
  /-- More arguments than parameters; both numbers count the subject. -/
  | tooMany (symbol : Text) (taken given : Nat)
  | missing (symbol : Text) (parameters : List Text)
  /-- The subject does not have a method. -/
  | noMethod (method : Text)
  /-- Any other error, by its class and its words. -/
  | other (kind words : Text)
  deriving Repr, DecidableEq

namespace Raised

/-- Names in single quotes, with a comma between each two and a conjunction before the last. -/
def listed (names : List Text) : Text :=
  let marked := names.map fun name => '\x27' :: name ++ ['\x27']
  match marked.reverse with
  | [] => []
  | [only] => only
  | [last, first] => first ++ " and " ++ last
  | last :: before => join ", " before.reverse ++ ", and " ++ last

def plural (count : Nat) (word : Text) : Text := if count == 1 then word else word ++ ['s']

def message : Raised → Text
  | .unknownSymbol symbol => "module 'proxies' has no attribute '" ++ symbol ++ "'"
  | .tooMany symbol taken given =>
    symbol ++ "() takes " ++ decimal taken ++ " positional " ++ plural taken "argument" ++ " but " ++
      decimal given ++ (if given == 1 then " was given" else " were given")
  | .missing symbol parameters =>
    symbol ++ "() missing " ++ decimal parameters.length ++ " required positional " ++
      plural parameters.length "argument" ++ ": " ++ listed parameters
  | .noMethod method => "no method " ++ method
  | .other _ words => words

def of (kind : String) (words : Text) : Raised := .other kind words

def kind : Raised → Text
  | .unknownSymbol _ | .noMethod _ => "AttributeError"
  | .tooMany _ _ _ | .missing _ _ => "TypeError"
  | .other kind _ => kind

end Raised

end Script

end Forwarding
