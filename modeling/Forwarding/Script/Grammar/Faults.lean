import Forwarding.Script.Grammar.Expressions

/-! Descriptions of what is wrong in a script that no rule fits.

They are tried where a rule tries them, in a second reading of the script; the first one that fits gives
the fault its words.
-/

set_option autoImplicit false

namespace Forwarding.Script.Grammar

open Rule Item

def nameOf : Tree → Text
  | .constant _ _ => "literal"
  | .leaf single =>
    match single.kind with
    | .name => if isKeyword single.text then single.text else "name"
    | .mark => "ellipsis"
    | _ => "literal"
  | .node form _ _ =>
    match form with
    | .member => "attribute"
    | .item => "subscript"
    | .starred => "starred"
    | .list => "list"
    | .tuple => "tuple"
    | .function => "lambda"
    | .call => "function call"
    | .generator => "generator expression"
    | .yielding | .yieldingFrom => "yield expression"
    | .awaiting => "await expression"
    | .listOf => "list comprehension"
    | .setOf => "set comprehension"
    | .dictionaryOf => "dict comprehension"
    | .dictionary => "dict literal"
    | .set => "set display"
    | .joined => "f-string expression"
    | .comparison => "comparison"
    | .choice => "conditional expression"
    | .naming => "named expression"
    | _ => "expression"
  | .group _ => "expression"

/-- How an expression is used where only a target fits. -/
inductive TargetUse where
  | assigned | iterated | deleted
  deriving DecidableEq

mutual
def wrongTarget? (use : TargetUse) : Tree → Option Tree
  | .node .list _ parts | .node .tuple _ parts => wrongTargets? use parts
  | .node .starred line parts =>
    if use == .deleted then some (.node .starred line parts) else wrongTargets? use parts
  | .node .comparison line parts =>
    if use == .iterated then wrongIterated? use parts else some (.node .comparison line parts)
  | .node .item _ _ | .node .member _ _ => none
  | .group parts => wrongTargets? use parts
  | tree => if tree.isName then none else some tree

def wrongTargets? (use : TargetUse) : List Tree → Option Tree
  | [] => none
  | tree :: more =>
    match wrongTarget? use tree with
    | some wrong => some wrong
    | none => wrongTargets? use more

/-- The left side of a comparison counts, if it asks for membership. -/
def wrongIterated? (use : TargetUse) : List Tree → Option Tree
  | left :: [.group (.node .compared _ (mark :: _) :: _)] =>
    if mark.text == ("in" : Text) then wrongTarget? use left else none
  | _ => none
end

def targetFault (use : TargetUse) (tree : Tree) : Verdict :=
  match wrongTarget? use tree with
  | none => .acquitted
  | some wrong =>
    guiltyAt wrong <|
      match use with
      | .deleted => .cannotDelete (nameOf wrong)
      | _ => .cannotAssign (nameOf wrong)

def isOldStatement (tree : Tree) : Bool :=
  tree.isName && (["print", "exec"].map String.toList).contains tree.text

def calling (reason : Text → Fault.Reason) : List Tree → Verdict
  | first :: _ => guiltyAt first (reason (nameOf first))
  | [] => .acquitted

def expressionFaults (r : Rule) : Option Definition :=
  match r with
  | .plainExpression => some ⟨[
      node .choice [disjunction, "if", disjunction, "else", expression],
      same [disjunction],
      same [lambdaExpression]], []⟩
  | .expressionFault => some ⟨[
      describes [notAhead (oneOf [sequence [name, .token .literal], softName]), disjunction,
          plainExpression, insideBrackets] fun parts =>
        if parts.head?.any isOldStatement then .acquitted else mistake .forgottenComma parts,
      describes [disjunction, "if", disjunction, notAhead (oneOf ["else", ":"])] fun
        | first :: _ => guiltyAt first (.expected "'else' after 'if' expression")
        | [] => .acquitted], []⟩
  | .oldCallFault => some ⟨[
      describes [name, notAhead "(", starExpressions] fun
        | first :: _ =>
          if isOldStatement first then guiltyAt first (.oldCall first.text) else .acquitted
        | [] => .acquitted], []⟩
  | .namedExpressionFault => some ⟨[
      describes [expression, ":=", expression] (calling .cannotName),
      describes [name, "=", bitwiseOr, notAhead (oneOf ["=", ":="])] (mistake .assignmentForTest),
      describes [notAhead (oneOf [listDisplay, tupleDisplay, generatorExpression, "True", "None",
          "False"]), bitwiseOr, "=", bitwiseOr, notAhead (oneOf ["=", ":="])]
        (calling .cannotAssignHere)], []⟩
  | .groupFault => some ⟨[
      describes ["(", starredArgument, ")"] (mistake .starredHere),
      describes ["(", kept "**".toList, expression, ")"] (mistake .doubleStarredHere)], []⟩
  | .comprehensionFault => some ⟨[
      describes [bracket, starredArgument, clauses] (mistake .starredInComprehension),
      describes [oneOf ["[", "\x7b"], starNamedExpression, ",", starNamedExpressions, clauses]
        (mistake .comprehensionTarget),
      describes [oneOf ["[", "\x7b"], starNamedExpression, ",", clauses]
        (mistake .comprehensionTarget)], []⟩
  | .dictionaryComprehensionFault => some ⟨[
      describes ["\x7b", kept "**".toList, bitwiseOr, clauses, "\x7d"]
        (mistake .doubleStarredInComprehension)], []⟩
  | .pairsFault => some ⟨[
      same [separated [','] dictionaryPair, ",", pairFault],
      starredValue,
      valueMissing], []⟩
  | .pairFault => some ⟨[
      describes [expression, notAhead ":"] (mistake .keyWithoutValue),
      starredValue,
      valueMissing], []⟩
  | _ => none
where
  bracket : Item := oneOf ["[", "(", "\x7b"]
  starredValue : Alternative :=
    describes [expression, ":", kept ['*'], bitwiseOr] fun
      | _ :: star :: _ => mistakeAt star .starredValue
      | _ => .acquitted
  valueMissing : Alternative :=
    describes [expression, kept [':'], ahead (oneOf ["\x7d", ","])] fun
      | _ :: colon :: _ => mistakeAt colon .valueMissing
      | _ => .acquitted

def positional (arguments : Tree) : List Tree :=
  arguments.elements.filter fun argument =>
    argument.form? != some .keyword && argument.form? != some .doubleStarred

def argumentFaults (r : Rule) : Option Definition :=
  match r with
  | .argumentsFault => some ⟨[
      describes [oneOf [sequence [separated [','] (oneOf [starredArgument,
          sequence [unassigned, notAhead "="]]), ",", keywordArguments], keywordArguments],
          kept [','], separated [','] (sequence [starredArgument, notAhead "="])] fun
        | _ :: comma :: _ => mistakeAt comma .starredAfterDoubleStarred
        | _ => .acquitted,
      describes [expression, clauses, ",", optional (oneOf [argumentList,
        sequence [expression, clauses]])] (mistake .bareGenerator),
      describes [name, "=", expression, clauses] (mistake .assignmentForTest),
      describes [argumentList, clauses] fun
        | given :: _ =>
          match (positional given).reverse with
          | last :: _ :: _ => mistakeAt last .bareGenerator
          | _ => .acquitted
        | [] => .acquitted,
      describes [argumentList, ",", expression, clauses] fun
        | _ :: last :: _ => mistakeAt last .bareGenerator
        | _ => .acquitted,
      describes [argumentList, ",", argumentList] fun
        | given :: _ =>
          .guilty (.mistake <|
            if given.elements.any fun argument => argument.form? == some .doubleStarred then
              .positionalAfterDoubleStarred
            else .positionalAfterKeyword) none
        | [] => .acquitted], []⟩
  | .keywordFault => some ⟨[
      describes [oneOf (["True", "False", "None"].map fun word => kept (String.toList word)), "="] fun
        | first :: _ => guiltyAt first (.cannotAssign first.text)
        | [] => .acquitted,
      describes [name, "=", expression, clauses] (mistake .assignmentForTest),
      describes [notAhead (sequence [name, "="]), expression, "="]
        (mistake .assignmentInArgument)], []⟩
  | _ => none

def statementFaults (r : Rule) : Option Definition :=
  match r with
  | .assignmentFault => some ⟨[
      describes [annotatedTargetFault, ":", expression] (calling .cannotAnnotate),
      describes [starNamedExpression, ",", many starNamedExpressions, ":", expression] fun
        | first :: _ => guiltyAt first (.cannotAnnotate "tuple")
        | [] => .acquitted,
      describes [expression, ":", expression] (mistake .annotationTarget),
      describes [many (sequence [starTargets, "="]), starExpressions, "="] fun
        | _ :: value :: _ => targetFault .assigned value
        | _ => .acquitted,
      describes [many (sequence [starTargets, "="]), yieldExpression, "="] fun
        | _ :: value :: _ => mistakeAt value .assignmentToYield
        | _ => .acquitted,
      describes [starExpressions, augmentedOperator, assignedValue] (calling .cannotAugment)], []⟩
  | .annotatedTargetFault => some ⟨[
      same [listDisplay], same [tupleDisplay], same ["(", annotatedTargetFault, ")"]], []⟩
  | .deleteFault => some ⟨[
      describes ["del", starExpressions] fun
        | value :: _ => targetFault .deleted value
        | [] => .acquitted], []⟩
  | .importFault => some ⟨[
      describes [separated [','] importedName, ",", .token .newline]
        (guiltyHere (.mistake .trailingComma))], []⟩
  | .withItemFault => some ⟨[
      describes [expression, "as", expression, ahead (oneOf [",", ")", ":"])] fun
        | _ :: target :: _ => targetFault .assigned target
        | _ => .acquitted], []⟩
  | .forTargetFault => some ⟨[
      describes [optional "async", "for", starExpressions] fun
        | _ :: target :: _ => targetFault .iterated target
        | _ => .acquitted], []⟩
  | _ => none

/-- Descriptions of lines that need a colon or indented lines behind them. -/
def blockFaults (r : Rule) : Option Definition :=
  match r with
  | .blockFault => some ⟨[
      describes [.token .newline, notAhead (.token .indent)]
        (guiltyHere (.blockMissing none))], []⟩
  | .ifFault => some ⟨[
      describes ["if", namedExpression, .token .newline] colonMissing,
      describes (kept "if".toList :: namedExpression :: noIndent)
        (blockMissing "'if' statement")], []⟩
  | .elifFault => some ⟨[
      describes ["elif", namedExpression, .token .newline] colonMissing,
      describes (kept "elif".toList :: namedExpression :: noIndent)
        (blockMissing "'elif' statement")], []⟩
  | .elseFault => some ⟨[
      describes (kept "else".toList :: noIndent) (blockMissing "'else' statement")], []⟩
  | .whileFault => some ⟨[
      describes ["while", namedExpression, .token .newline] colonMissing,
      describes (kept "while".toList :: namedExpression :: noIndent)
        (blockMissing "'while' statement")], []⟩
  | .forFault => some ⟨[
      describes [optional "async", "for", starTargets, "in", starExpressions, .token .newline]
        colonMissing,
      describes (sequence [optional "async", kept "for".toList] :: starTargets :: "in" ::
        starExpressions :: noIndent) (blockMissingAfterAsync "'for' statement")], []⟩
  | .withFault => some ⟨[
      describes [optional "async", "with", separated [','] item, .token .newline] colonMissing,
      describes [optional "async", "with", "(", separated [','] items, optional ",", ")",
        .token .newline] colonMissing], []⟩
  | .withBlockFault => some ⟨[
      describes (sequence [optional "async", kept "with".toList] :: separated [','] item :: noIndent)
        (blockMissingAfterAsync "'with' statement"),
      describes (sequence [optional "async", kept "with".toList] :: "(" :: separated [','] items ::
        optional "," :: ")" :: noIndent) (blockMissingAfterAsync "'with' statement")], []⟩
  | .tryFault => some ⟨[
      describes (kept "try".toList :: noIndent) (blockMissing "'try' statement"),
      describes ["try", ":", block, notAhead (oneOf ["except", "finally"])]
        (guiltyHere (.expected "'except' or 'finally' block")),
      describes ["try", ":", many block, several exceptBlock, kept "except".toList, "*",
        expression, optional (sequence ["as", name]), ":"] (third .mixedHandlers),
      describes ["try", ":", many block, several exceptGroupBlock, kept "except".toList,
        optional (sequence [expression, optional (sequence ["as", name])]), ":"]
        (third .mixedHandlers)], []⟩
  | .exceptFault => some ⟨[
      describes ["except", optional "*", expression, ",", expressions,
          optional (sequence ["as", name]), ":"] fun
        | _ :: first :: _ => mistakeAt first .bareExceptions
        | _ => .acquitted,
      describes ["except", optional "*", expression, optional (sequence ["as", name]),
        .token .newline] colonMissing,
      describes ["except", .token .newline] colonMissing,
      describes ["except", "*", oneOf [.token .newline, ":"]]
        (guiltyHere (.expected "one or more exception types"))], []⟩
  | .exceptBlockFault => some ⟨[
      describes (kept "except".toList :: expression :: optional (sequence ["as", name]) :: noIndent)
        (blockMissing "'except' statement"),
      describes (kept "except".toList :: noIndent) (blockMissing "'except' statement")], []⟩
  | .exceptGroupBlockFault => some ⟨[
      describes (kept "except".toList :: "*" :: expression :: optional (sequence ["as", name]) ::
        noIndent) (blockMissing "'except*' statement")], []⟩
  | .finallyFault => some ⟨[
      describes (kept "finally".toList :: noIndent) (blockMissing "'finally' statement")], []⟩
  | .functionFault => some ⟨[
      describes (sequence [optional "async", kept "def".toList] :: name :: "(" ::
        optional (parameters .function) :: ")" :: optional (sequence ["->", expression]) ::
        noIndent) (blockMissingAfterAsync "function definition")], []⟩
  | .classFault => some ⟨[
      describes ["class", name, optional (sequence ["(", optional arguments, ")"]),
        .token .newline] colonMissing,
      describes (kept "class".toList :: name ::
        optional (sequence ["(", optional arguments, ")"]) :: noIndent)
        (blockMissing "class definition")], []⟩
  | _ => none
where
  item : Item := sequence [expression, optional (sequence ["as", starTarget])]
  items : Item := sequence [expressions, optional (sequence ["as", starTarget])]
  third (mistake : Mistake) : List Tree → Verdict
    | _ :: _ :: tree :: _ => mistakeAt tree mistake
    | _ => .acquitted
  /-- The line is that of the word behind one that may be left out. -/
  blockMissingAfterAsync (opening : String) : List Tree → Verdict
    | start :: _ => blockMissing opening (start.elements)
    | [] => .acquitted

def parameterFaults (r : Rule) : Option Definition :=
  match r with
  | .parametersFault o => some ⟨[
      describes [many (plainParameter o), defaultsAhead o, plainParameter o] fun
        | [_, _, wrong] => mistakeAt wrong .defaultOrder
        | _ => .acquitted,
      parenthesized o,
      describes [kept ['/'], ","] (mistake .slashFirst),
      describes [slashed o, many (optionalParameter o), kept ['/']] fun
        | [_, _, slash] => mistakeAt slash .slashTwice
        | _ => .acquitted,
      describes [optional (slashed o), many (optionalParameter o), "*",
          oneOf [",", plainParameter o], many (optionalParameter o), kept ['/']] fun parts =>
        match parts.getLast? with
        | some slash => mistakeAt slash .slashAfterStar
        | none => .acquitted,
      describes [several (optionalParameter o), "/", kept ['*']] fun
        | [_, star] => guiltyAt star (.expected "comma between / and *")
        | _ => .acquitted], []⟩
  | .defaultsAhead o => some ⟨[
      same [slashDefaulted o], same [several (defaultedParameter o)]], []⟩
  | .defaultFault => some ⟨[
      describes [kept ['='], ahead (oneOf [")", ","])] fun
        | first :: _ => guiltyAt first (.expected "default value expression")
        | [] => .acquitted], []⟩
  | .starFault o => some ⟨[
      describes [kept ['*'], oneOf [closing o, sequence [",", oneOf [closing o, "**"]]]]
        (match o with
          | .function => mistake .bareStar
          | .lambda => guiltyHere (.mistake .bareStar)),
      describes ["*", oneParameter o, kept ['=']] (second .starDefault),
      describes ["*", oneOf [plainParameter o, ","], many (optionalParameter o), kept ['*'],
          oneOf [plainParameter o, ","]] fun parts =>
        match parts.find? fun part => part.text == ['*'] with
        | some star => mistakeAt star .starTwice
        | none => .acquitted], []⟩
  | .doubleStarFault o => some ⟨[
      describes ["**", oneParameter o, kept ['=']] (second .doubleStarDefault),
      describes ["**", oneParameter o, ",", oneParameter o] (second .afterDoubleStar),
      describes ["**", oneParameter o, ",", oneOf [kept ['*'], kept "**".toList, kept ['/']]]
        (second .afterDoubleStar)], []⟩
  | _ => none
where
  slashed (o : Owner) : Item := oneOf [slashPlain o, slashDefaulted o]
  second (mistake : Mistake) : List Tree → Verdict
    | _ :: tree :: _ => mistakeAt tree mistake
    | _ => .acquitted
  parenthesized (o : Owner) : Alternative :=
    match o with
    | .function =>
      describes [many (plainParameter o), kept ['('], several (plainParameter o), optional ",", ")"]
        (second .parenthesizedParameters)
    | .lambda =>
      describes [many (plainParameter o), kept ['('], separated [','] (oneParameter o),
        optional ",", ")"] (second .parenthesizedLambdaParameters)

def last (tree : Tree) : Tree := (tree.parts.getLast?).getD tree

def isImaginary (tree : Tree) : Bool :=
  (last tree).text.getLast?.any fun c => c == 'j' || c == 'J'

def patternFaults (r : Rule) : Option Definition :=
  match r with
  | .matchFault => some ⟨[
      describes ["match", matchSubject, .token .newline] colonMissing,
      describes (kept "match".toList :: matchSubject :: noIndent)
        (blockMissing "'match' statement")], []⟩
  | .caseFault => some ⟨[
      describes ["case", casePatterns, optional caseGuard, .token .newline] colonMissing,
      describes (kept "case".toList :: casePatterns :: optional caseGuard :: noIndent)
        (blockMissing "'case' statement")], []⟩
  | .complexFault => some ⟨[
      describes [signedReal, oneOf ["+", "-"], .token .number] fun
        | [first, second] =>
          if isImaginary first then mistakeAt (last first) .realMissing
          else if isImaginary second then .acquitted
          else mistakeAt second .imaginaryMissing
        | _ => .acquitted,
      describes [signedReal] fun
        | [first] =>
          if isImaginary first then mistakeAt (last first) .realMissing else .acquitted
        | _ => .acquitted], []⟩
  | .asPatternFault => some ⟨[
      describes [orPattern, "as", kept ['_']] fun
        | [_, target] => mistakeAt target .wildcardTarget
        | _ => .acquitted,
      describes [orPattern, "as", notAhead name, expression] fun
        | [_, target] => mistakeAt target .patternTarget
        | _ => .acquitted], []⟩
  | .classPatternFault => some ⟨[
      describes [nameOrDotted, "(", classArgumentsFault] fun
        | [_, .group [_, _, late]] => mistakeAt late .patternOrder
        | _ => .acquitted], []⟩
  | .classArgumentsFault => some ⟨[
      same [optional (sequence [positionalPatterns, ","]), keywordPatterns, ",",
        positionalPatterns]], []⟩
  | _ => none

end Forwarding.Script.Grammar
