import Forwarding.Script.Grammar.Rule

/-! The rules of statements. -/

set_option autoImplicit false

namespace Forwarding.Script.Grammar

open Rule Item

/-- Marks of an assignment that combines the old value with a new one. -/
def augmentedMarks : List Item :=
  ["+=", "-=", "*=", "@=", "/=", "%=", "&=", "|=", "^=", "<<=", ">>=", "**=", "//="].map
    fun mark => kept (String.toList mark)

def simpleStatements (r : Rule) : Option Definition :=
  match r with
  | .script => some ⟨[node .script [optional statements, .token .finish]], []⟩
  | .statements => some ⟨[same [several statement]], []⟩
  | .statement => some ⟨[same [compoundStatement], same [simpleLine]], []⟩
  | .simpleLine => some ⟨[
      same [simpleStatement, notAhead ";", .token .newline],
      same [separated [';'] simpleStatement, optional ";", .token .newline]], []⟩
  | .simpleStatement => some ⟨[
      same [assignment],
      node .evaluation [starExpressions],
      same [ahead "return", returnStatement],
      same [ahead (oneOf ["import", "from"]), importStatement],
      same [ahead "raise", raiseStatement],
      node .passing ["pass"],
      same [ahead "del", deleteStatement],
      node .evaluation [ahead "yield", yieldExpression],
      same [ahead "assert", assertStatement],
      node .breaking ["break"],
      node .continuing ["continue"],
      same [ahead "global", globalStatement],
      same [ahead "nonlocal", nonlocalStatement]], []⟩
  | .compoundStatement => some ⟨[
      same [ahead (oneOf ["def", "@", "async"]), functionStatement],
      same [ahead "if", ifStatement],
      same [ahead (oneOf ["class", "@"]), classStatement],
      same [ahead (oneOf ["with", "async"]), withStatement],
      same [ahead (oneOf ["for", "async"]), forStatement],
      same [ahead "try", tryStatement],
      same [ahead "while", whileStatement],
      same [matchStatement]], []⟩
  | .assignment => some ⟨[
      node .annotated [name, ":", expression, optional (sequence ["=", assignedValue])],
      node .annotated [oneOf [sequence ["(", singleTarget, ")"], singleItemTarget], ":",
        expression, optional (sequence ["=", assignedValue])],
      node .assignment [several (sequence [starTargets, "="]), assignedValue, notAhead "="],
      node .augmentation [singleTarget, augmentedOperator, commit, assignedValue],
      fault assignmentFault], []⟩
  | .assignedValue => some ⟨[same [yieldExpression], same [starExpressions]], []⟩
  | .augmentedOperator => some ⟨[same [oneOf augmentedMarks]], []⟩
  | .returnStatement => some ⟨[node .returning ["return", optional starExpressions]], []⟩
  | .raiseStatement => some ⟨[
      node .raising ["raise", expression, optional (sequence ["from", expression])],
      node .raising ["raise"]], []⟩
  | .globalStatement => some ⟨[node .globals ["global", separated [','] name]], []⟩
  | .nonlocalStatement => some ⟨[node .nonlocals ["nonlocal", separated [','] name]], []⟩
  | .deleteStatement => some ⟨[
      node .deletion ["del", deleteTargets, ahead (oneOf [";", .token .newline])],
      fault deleteFault], []⟩
  | .assertStatement => some ⟨[
      node .assertion ["assert", expression, optional (sequence [",", expression])]], []⟩
  | .importStatement => some ⟨[
      node .importing ["import", separated [','] importedModule],
      same [importFrom]], []⟩
  | .importFrom => some ⟨[
      node .importingFrom ["from", many (oneOf [kept ['.'], kept "...".toList]), dottedName,
        "import", importTargets],
      node .importingFrom ["from", several (oneOf [kept ['.'], kept "...".toList]), "import",
        importTargets]], []⟩
  | .importTargets => some ⟨[
      same ["(", separated [','] importedName, optional ",", ")"],
      same [separated [','] importedName, notAhead ","],
      node .everything ["*"],
      fault importFault], []⟩
  | .importedName => some ⟨[node .imported [name, optional (sequence ["as", name])]], []⟩
  | .importedModule => some ⟨[
      node .imported [dottedName, optional (sequence ["as", name])]], []⟩
  | .dottedName => some ⟨[node .dotted [separated ['.'] name]], []⟩
  | _ => none

def compoundStatements (r : Rule) : Option Definition :=
  match r with
  | .block => some ⟨[
      same [.token .newline, .token .indent, statements, .token .dedent],
      same [simpleLine],
      fault blockFault], []⟩
  | .decoratorLines => some ⟨[
      same [several (sequence ["@", namedExpression, .token .newline])]], []⟩
  | .classStatement => some ⟨[
      node .decorators [decoratorLines, rawClass],
      same [rawClass]], []⟩
  | .rawClass => some ⟨[
      fault classFault,
      node .classDefinition ["class", name,
        optional (sequence ["(", optional arguments, ")"]), ":", block]], []⟩
  | .functionStatement => some ⟨[
      node .decorators [decoratorLines, rawFunction],
      same [rawFunction]], []⟩
  | .rawFunction => some ⟨[
      fault functionFault,
      node .definition ["def", name, required ['('], optional (parameters .function), ")",
        optional (sequence ["->", expression]), required [':'], block],
      node .asyncDefinition ["async", "def", name, required ['('], optional (parameters .function),
        ")", optional (sequence ["->", expression]), required [':'], block]], []⟩
  | .ifStatement => some ⟨[
      fault ifFault,
      node .conditional ["if", namedExpression, ":", block, elifStatement],
      node .conditional ["if", namedExpression, ":", block, optional elseBlock]], []⟩
  | .elifStatement => some ⟨[
      fault elifFault,
      node .conditional ["elif", namedExpression, ":", block, elifStatement],
      node .conditional ["elif", namedExpression, ":", block, optional elseBlock]], []⟩
  | .elseBlock => some ⟨[
      fault elseFault,
      same ["else", required [':'], block]], []⟩
  | .whileStatement => some ⟨[
      fault whileFault,
      node .loop ["while", namedExpression, ":", block, optional elseBlock]], []⟩
  | .forStatement => some ⟨[
      fault forFault,
      node .iteration ["for", starTargets, "in", commit, starExpressions, ":", block,
        optional elseBlock],
      node .asyncIteration ["async", "for", starTargets, "in", commit, starExpressions, ":", block,
        optional elseBlock],
      fault forTargetFault], []⟩
  | .withStatement => some ⟨[
      fault withBlockFault,
      node .context ["with", "(", separated [','] withItem, optional ",", ")", ":", block],
      node .context ["with", separated [','] withItem, ":", block],
      node .asyncContext ["async", "with", "(", separated [','] withItem, optional ",", ")", ":",
        block],
      node .asyncContext ["async", "with", separated [','] withItem, ":", block],
      fault withFault], []⟩
  | .withItem => some ⟨[
      node .contextItem [expression, "as", starTarget, ahead (oneOf [",", ")", ":"])],
      fault withItemFault,
      node .contextItem [expression]], []⟩
  | .tryStatement => some ⟨[
      fault tryFault,
      node .attempt ["try", required [':'], block, absent, absent, finallyBlock],
      node .attempt ["try", required [':'], block, several exceptBlock, optional elseBlock,
        optional finallyBlock],
      node .attempt ["try", required [':'], block, several exceptGroupBlock, optional elseBlock,
        optional finallyBlock]], []⟩
  | .exceptBlock => some ⟨[
      fault exceptBlockFault,
      node .handler ["except", expression, optional (sequence ["as", name]), ":", block],
      node .handler ["except", absent, absent, ":", block],
      fault exceptFault], []⟩
  | .exceptGroupBlock => some ⟨[
      fault exceptGroupBlockFault,
      node .groupHandler ["except", "*", expression, optional (sequence ["as", name]), ":", block],
      fault exceptFault], []⟩
  | .finallyBlock => some ⟨[
      fault finallyFault,
      same ["finally", required [':'], block]], []⟩
  | _ => none

/-! The rules of statements that compare a subject with patterns. -/

def notExtended : Item := notAhead (oneOf [".", "(", "="])

def patterns (r : Rule) : Option Definition :=
  match r with
  | .matchStatement => some ⟨[
      node .matching [soft "match", matchSubject, ":", .token .newline, .token .indent,
        several caseBlock, .token .dedent],
      fault matchFault], []⟩
  | .matchSubject => some ⟨[
      node .tuple [starNamedExpression, ",", optional starNamedExpressions],
      same [namedExpression]], []⟩
  | .caseBlock => some ⟨[
      fault caseFault,
      node .matchCase [soft "case", casePatterns, optional caseGuard, ":", block]], []⟩
  | .caseGuard => some ⟨[same ["if", namedExpression]], []⟩
  | .casePatterns => some ⟨[node .sequencePattern [openSequence], same [onePattern]], []⟩
  | .onePattern => some ⟨[same [asPattern], same [orPattern]], []⟩
  | .asPattern => some ⟨[
      node .asPattern [orPattern, "as", captureTarget],
      fault asPatternFault], []⟩
  | .orPattern => some ⟨[node .orPattern [separated ['|'] closedPattern]], []⟩
  | .closedPattern => some ⟨[
      same [literalPattern],
      node .capturePattern [captureTarget],
      same [wildcard],
      same [valuePattern],
      same [groupPattern],
      same [sequencePattern],
      same [mappingPattern],
      same [classPattern]], []⟩
  | .literalPattern | .literalKey => some ⟨[
      node .literalPattern [signedNumber, notAhead (oneOf ["+", "-"])],
      node .literalPattern [complexNumber],
      node .literalPattern [strings],
      node .literalPattern [kept "None".toList],
      node .literalPattern [kept "True".toList],
      node .literalPattern [kept "False".toList]], []⟩
  | .complexNumber => some ⟨[
      node .binary [notAhead complexFault, signedReal, oneOf [kept ['+'], kept ['-']], .token .number]], []⟩
  | .signedNumber | .signedReal => some ⟨[
      same [.token .number],
      node .unary [kept ['-'], .token .number]], []⟩
  | .captureTarget => some ⟨[same [notAhead (soft "_"), name, notExtended]], []⟩
  | .wildcard => some ⟨[node .wildcardPattern [soft "_"]], []⟩
  | .valuePattern => some ⟨[same [dottedValue, notExtended]], []⟩
  | .dottedValue => some ⟨[node .valuePattern [name, several (sequence [".", name])]], []⟩
  | .nameOrDotted => some ⟨[same [dottedValue], same [name]], []⟩
  | .groupPattern => some ⟨[same ["(", onePattern, ")"]], []⟩
  | .sequencePattern => some ⟨[
      node .sequencePattern ["[", optional sequenceItems, "]"],
      node .sequencePattern ["(", optional openSequence, ")"]], []⟩
  | .openSequence => some ⟨[same [sequenceItem, ",", optional sequenceItems]], []⟩
  | .sequenceItems => some ⟨[same [separated [','] sequenceItem, optional ","]], []⟩
  | .sequenceItem => some ⟨[same [starPattern], same [onePattern]], []⟩
  | .starPattern => some ⟨[
      node .starredPattern ["*", captureTarget],
      node .starredPattern ["*", wildcard]], []⟩
  | .mappingPattern => some ⟨[
      node .mappingPattern ["\x7b", "\x7d"],
      node .mappingPattern ["\x7b", doubleStarPattern, optional ",", "\x7d"],
      node .mappingPattern ["\x7b", separated [','] mappingItem, ",", doubleStarPattern,
        optional ",", "\x7d"],
      node .mappingPattern ["\x7b", separated [','] mappingItem, optional ",", "\x7d"]], []⟩
  | .mappingItem => some ⟨[
      node .keyPattern [oneOf [literalKey, dottedValue], ":", onePattern]], []⟩
  | .doubleStarPattern => some ⟨[node .restPattern ["**", captureTarget]], []⟩
  | .classPattern => some ⟨[
      node .classPattern [nameOrDotted, "(", absent, absent, ")"],
      node .classPattern [nameOrDotted, "(", positionalPatterns, absent, optional ",", ")"],
      node .classPattern [nameOrDotted, "(", absent, keywordPatterns, optional ",", ")"],
      node .classPattern [nameOrDotted, "(", positionalPatterns, ",", keywordPatterns,
        optional ",", ")"],
      fault classPatternFault], []⟩
  | .positionalPatterns => some ⟨[same [separated [','] onePattern]], []⟩
  | .keywordPatterns => some ⟨[same [separated [','] keywordPattern]], []⟩
  | .keywordPattern => some ⟨[node .keywordPattern [name, "=", onePattern]], []⟩
  | _ => none
where
  soft (word : String) : Item := .word word.toList

end Forwarding.Script.Grammar
