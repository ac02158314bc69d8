import Forwarding.Script.Tree

/-! The form that rules of a script's grammar have.

A rule has alternatives, which are tried in their order; the first that fits is taken, however the text
goes on. An alternative is a list of items, and says what tree its parts make. Some alternatives are
only tried to find words for a fault: they describe what is wrong in a text that no other fits.
-/

set_option autoImplicit false

namespace Forwarding.Script

open Text

/-- What parameters belong to. -/
inductive Owner where
  | function | lambda
  deriving Repr, DecidableEq, Hashable

inductive Rule where
  -- Statements.
  | script | statements | statement | simpleLine | simpleStatement | compoundStatement
  | assignment | assignedValue | augmentedOperator | returnStatement | raiseStatement
  | globalStatement | nonlocalStatement | deleteStatement | assertStatement
  | importStatement | importFrom | importTargets | importedName | importedModule | dottedName
  | block | decoratorLines | classStatement | rawClass | functionStatement | rawFunction
  | ifStatement | elifStatement | elseBlock | whileStatement | forStatement
  | withStatement | withItem | tryStatement | exceptBlock | exceptGroupBlock | finallyBlock
  -- Parameters.
  | parameters (o : Owner) | orderedParameters (o : Owner) | slashPlain (o : Owner)
  | slashDefaulted (o : Owner) | starParameters (o : Owner) | doubleStarParameter (o : Owner)
  | plainParameter (o : Owner) | annotatedStarParameter | defaultedParameter (o : Owner)
  | optionalParameter (o : Owner) | oneParameter (o : Owner) | defaultValue
  -- Patterns.
  | matchStatement | matchSubject | caseBlock | caseGuard | casePatterns | onePattern | asPattern
  | orPattern | closedPattern | literalPattern | literalKey | complexNumber | signedNumber
  | signedReal | captureTarget | wildcard | valuePattern | dottedValue | nameOrDotted
  | groupPattern | sequencePattern | openSequence | sequenceItems | sequenceItem | starPattern
  | mappingPattern | mappingItem | doubleStarPattern | classPattern | positionalPatterns
  | keywordPatterns | keywordPattern
  -- Expressions.
  | expressions | expression | yieldExpression | starExpressions | starExpression
  | starNamedExpressions | starNamedExpression | assignmentExpression | namedExpression
  | disjunction | conjunction | inversion | comparison | comparedOperand
  | bitwiseOr | bitwiseXor | bitwiseAnd | shift | addition | multiplication | factor | power
  | awaited | primary | slices | slice | atom | parenthesized | lambdaExpression | strings
  | listDisplay | tupleDisplay | setDisplay | dictionaryDisplay | dictionaryPairs | dictionaryPair
  | keyValue | clauses | oneClause | listComprehension | setComprehension | generatorExpression
  | dictionaryComprehension | unassigned
  | arguments | argumentList | keywordArguments | starredArgument | keywordOrStarred
  | keywordOrDoubleStarred
  -- Targets.
  | starTargets | starTargetList | starTargetTuple | starTarget | itemTarget | starAtom
  | singleTarget | singleItemTarget | targetPrimary | targetAhead
  | deleteTargets | deleteTarget | deleteAtom
  -- Descriptions of faults.
  | plainExpression | expressionFault | oldCallFault | namedExpressionFault | argumentsFault
  | keywordFault | groupFault | comprehensionFault | dictionaryComprehensionFault | pairsFault
  | pairFault | assignmentFault | annotatedTargetFault | deleteFault | importFault | blockFault
  | ifFault | elifFault | elseFault | whileFault | forFault | forTargetFault | withFault
  | withBlockFault | withItemFault | tryFault | exceptFault | exceptBlockFault
  | exceptGroupBlockFault | finallyFault | functionFault | classFault
  | parametersFault (o : Owner) | defaultsAhead (o : Owner) | defaultFault | starFault (o : Owner)
  | doubleStarFault (o : Owner)
  | matchFault | caseFault | complexFault | asPatternFault | classPatternFault | classArgumentsFault
  deriving Repr, DecidableEq, Hashable

/-- A part of an alternative. A word or mark that is not kept makes no part of the tree, nor does the
end of a line or a change of indentation. -/
inductive Item where
  | word (text : Text)
  | kept (text : Text)
  | token (kind : Token.Kind)
  /-- A name that the script chooses. -/
  | name
  /-- A name with which a word begins that is one of the language only at some places. -/
  | softName
  | rule (r : Rule)
  | optional (i : Item)
  | many (i : Item)
  | several (i : Item)
  /-- One or more, with a word between each two. -/
  | separated (separator : Text) (i : Item)
  | sequence (items : List Item)
  /-- The first of several that fits. -/
  | oneOf (items : List Item)
  /-- Says that something comes next, without going past it. -/
  | ahead (i : Item)
  /-- Says that something does not come next. -/
  | notAhead (i : Item)
  /-- Forgoes the alternatives that follow. -/
  | commit
  /-- A word that has to be here. -/
  | required (text : Text)
  /-- Says that what has been read ends inside brackets. -/
  | insideBrackets

instance : Coe String Item := ⟨fun word => .word word.toList⟩

instance : Coe Rule Item := ⟨.rule⟩

/-- What a description of a fault says about the parts that fit it. -/
inductive Verdict where
  /-- It does not apply after all. -/
  | acquitted
  /-- A fault, with its line; without a line it is that of the furthest token seen. -/
  | guilty (reason : Fault.Reason) (line : Option Nat)

inductive Outcome where
  | node (form : Form)
  | same
  | literal
  | verdict (judge : List Tree → Verdict)

structure Alternative where
  items : List Item
  outcome : Outcome
  /-- Whether the alternative describes a fault. -/
  isFault : Bool := false

/-- What a rule stands for. Where there are tails, they go on with the tree read so far, as often as
one of them fits. -/
structure Definition where
  alternatives : List Alternative
  tails : List Alternative := []

namespace Grammar

def node (form : Form) (items : List Item) : Alternative := ⟨items, .node form, false⟩

def same (items : List Item) : Alternative := ⟨items, .same, false⟩

def absent : Item := .sequence []

def fault (r : Rule) : Alternative := ⟨[.rule r], .same, true⟩

def describes (items : List Item) (judge : List Tree → Verdict) : Alternative :=
  ⟨items, .verdict judge, false⟩

def guiltyAt (tree : Tree) (reason : Fault.Reason) : Verdict := .guilty reason (some tree.line)

def mistakeAt (tree : Tree) (mistake : Mistake) : Verdict := guiltyAt tree (.mistake mistake)

def guiltyHere (reason : Fault.Reason) : List Tree → Verdict := fun _ => .guilty reason none

def mistake (mistake : Mistake) : List Tree → Verdict
  | first :: _ => mistakeAt first mistake
  | [] => .acquitted

def colonMissing : List Tree → Verdict := guiltyHere (.expected "':'")

/-- The fault of a line without the indented lines that it needs. -/
def blockMissing (opening : String) : List Tree → Verdict
  | first :: _ => .guilty (.blockMissing (some (opening.toList, first.line))) none
  | [] => .acquitted

def noIndent : List Item := [":", .token .newline, .notAhead (.token .indent)]

end Grammar

end Forwarding.Script
