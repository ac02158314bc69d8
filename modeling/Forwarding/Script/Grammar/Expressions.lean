import Forwarding.Script.Grammar.Rule

/-! The rules of expressions, of arguments and of the targets of assignments. -/

set_option autoImplicit false

namespace Forwarding.Script.Grammar

open Rule Item

def tail (mark : String) (operand : Rule) : Alternative :=
  node .binary [kept mark.toList, operand]

def operators (r : Rule) : Option Definition :=
  match r with
  | .expressions => some ⟨[
      node .tuple [expression, several (sequence [",", expression]), optional ","],
      node .tuple [expression, ","],
      same [expression]], []⟩
  | .expression => some ⟨[
      fault expressionFault,
      fault oldCallFault,
      node .choice [disjunction, "if", disjunction, "else", expression],
      same [disjunction],
      same [lambdaExpression]], []⟩
  | .yieldExpression => some ⟨[
      node .yieldingFrom ["yield", "from", expression],
      node .yielding ["yield", optional starExpressions]], []⟩
  | .starExpressions => some ⟨[
      node .tuple [starExpression, several (sequence [",", starExpression]), optional ","],
      node .tuple [starExpression, ","],
      same [starExpression]], []⟩
  | .starExpression => some ⟨[node .starred ["*", bitwiseOr], same [expression]], []⟩
  | .starNamedExpressions => some ⟨[
      same [separated [','] starNamedExpression, optional ","]], []⟩
  | .starNamedExpression => some ⟨[node .starred ["*", bitwiseOr], same [namedExpression]], []⟩
  | .assignmentExpression => some ⟨[node .naming [name, ":=", commit, expression]], []⟩
  | .namedExpression => some ⟨[
      same [assignmentExpression],
      fault namedExpressionFault,
      same [expression, notAhead ":="]], []⟩
  | .disjunction => some ⟨[
      node .either [conjunction, several (sequence ["or", conjunction])],
      same [conjunction]], []⟩
  | .conjunction => some ⟨[
      node .both [inversion, several (sequence ["and", inversion])],
      same [inversion]], []⟩
  | .inversion => some ⟨[node .opposite ["not", inversion], same [comparison]], []⟩
  | .comparison => some ⟨[
      node .comparison [bitwiseOr, several comparedOperand],
      same [bitwiseOr]], []⟩
  | .comparedOperand => some ⟨[
      compared "==", compared "!=", compared "<=", compared "<", compared ">=", compared ">",
      node .compared [sequence [kept "not".toList, kept "in".toList], bitwiseOr],
      compared "in",
      node .compared [sequence [kept "is".toList, kept "not".toList], bitwiseOr],
      compared "is"], []⟩
  | .bitwiseOr => some ⟨[same [bitwiseXor]], [tail "|" bitwiseXor]⟩
  | .bitwiseXor => some ⟨[same [bitwiseAnd]], [tail "^" bitwiseAnd]⟩
  | .bitwiseAnd => some ⟨[same [shift]], [tail "&" shift]⟩
  | .shift => some ⟨[same [addition]], [tail "<<" addition, tail ">>" addition]⟩
  | .addition => some ⟨[same [multiplication]], [tail "+" multiplication, tail "-" multiplication]⟩
  | .multiplication => some ⟨[same [factor]],
      [tail "*" factor, tail "/" factor, tail "//" factor, tail "%" factor, tail "@" factor]⟩
  | .factor => some ⟨[
      node .unary [kept ['+'], factor],
      node .unary [kept ['-'], factor],
      node .unary [kept ['~'], factor],
      same [power]], []⟩
  | .power => some ⟨[node .binary [awaited, kept "**".toList, factor], same [awaited]], []⟩
  | .awaited => some ⟨[node .awaiting ["await", primary], same [primary]], []⟩
  | .primary => some ⟨[same [atom]], [
      node .member [".", name],
      node .call [generatorExpression],
      node .call ["(", optional arguments, ")"],
      node .item ["[", slices, "]"]]⟩
  | .slices => some ⟨[
      same [slice, notAhead ","],
      node .tuple [separated [','] (oneOf [slice, starredArgument]), optional ","]], []⟩
  | .slice => some ⟨[
      node .slice [optional expression, ":", optional expression,
        optional (sequence [":", optional expression])],
      same [namedExpression]], []⟩
  | .atom => some ⟨[
      same [name],
      same [kept "True".toList],
      same [kept "False".toList],
      same [kept "None".toList],
      same [ahead (.token .literal), strings],
      same [.token .number],
      same [ahead "(", oneOf [tupleDisplay, parenthesized, generatorExpression]],
      same [ahead "[", oneOf [listDisplay, listComprehension]],
      same [ahead "\x7b", oneOf [dictionaryDisplay, setDisplay, dictionaryComprehension,
        setComprehension]],
      same [kept "...".toList]], []⟩
  | .parenthesized => some ⟨[
      same ["(", oneOf [yieldExpression, namedExpression], ")"],
      fault groupFault], []⟩
  | .lambdaExpression => some ⟨[
      node .function ["lambda", optional (parameters .lambda), ":", expression]], []⟩
  | .strings => some ⟨[⟨[several (.token .literal)], .literal, false⟩], []⟩
  | _ => none
where
  compared (mark : String) : Alternative := node .compared [kept mark.toList, bitwiseOr]

def displays (r : Rule) : Option Definition :=
  match r with
  | .listDisplay => some ⟨[node .list ["[", optional starNamedExpressions, "]"]], []⟩
  | .tupleDisplay => some ⟨[
      node .tuple ["(", optional (sequence [starNamedExpression, ",",
        optional starNamedExpressions]), ")"]], []⟩
  | .setDisplay => some ⟨[node .set ["\x7b", starNamedExpressions, "\x7d"]], []⟩
  | .dictionaryDisplay => some ⟨[
      node .dictionary ["\x7b", optional dictionaryPairs, "\x7d"],
      same ["\x7b", pairsFault, "\x7d"]], []⟩
  | .dictionaryPairs => some ⟨[same [separated [','] dictionaryPair, optional ","]], []⟩
  | .dictionaryPair => some ⟨[node .doubleStarred ["**", bitwiseOr], same [keyValue]], []⟩
  | .keyValue => some ⟨[node .pair [expression, ":", expression]], []⟩
  | .clauses => some ⟨[same [several oneClause]], []⟩
  | .oneClause => some ⟨[
      node .asyncClause ["async", "for", starTargets, "in", commit, disjunction,
        many (sequence ["if", disjunction])],
      node .clause ["for", starTargets, "in", commit, disjunction,
        many (sequence ["if", disjunction])],
      fault forTargetFault], []⟩
  | .listComprehension => some ⟨[
      node .listOf ["[", namedExpression, clauses, "]"],
      fault comprehensionFault], []⟩
  | .setComprehension => some ⟨[
      node .setOf ["\x7b", namedExpression, clauses, "\x7d"],
      fault comprehensionFault], []⟩
  | .generatorExpression => some ⟨[
      node .generator ["(", unassigned, clauses, ")"],
      fault comprehensionFault], []⟩
  | .dictionaryComprehension => some ⟨[
      node .dictionaryOf ["\x7b", keyValue, clauses, "\x7d"],
      fault dictionaryComprehensionFault], []⟩
  | .unassigned => some ⟨[same [assignmentExpression], same [expression, notAhead ":="]], []⟩
  | .arguments => some ⟨[
      same [argumentList, optional ",", ahead ")"],
      fault argumentsFault], []⟩
  | .argumentList => some ⟨[
      same [separated [','] (oneOf [starredArgument, sequence [unassigned, notAhead "="]]),
        optional (sequence [",", keywordArguments])],
      same [keywordArguments]], []⟩
  | .keywordArguments => some ⟨[
      same [separated [','] keywordOrStarred, ",", separated [','] keywordOrDoubleStarred],
      same [separated [','] keywordOrStarred],
      same [separated [','] keywordOrDoubleStarred]], []⟩
  | .starredArgument => some ⟨[
      node .starred ["*", expression],
      describes ["*"] (guiltyHere (.mistake .starAlone))], []⟩
  | .keywordOrStarred => some ⟨[
      fault keywordFault,
      node .keyword [name, "=", expression],
      same [starredArgument]], []⟩
  | .keywordOrDoubleStarred => some ⟨[
      fault keywordFault,
      node .keyword [name, "=", expression],
      node .doubleStarred ["**", expression]], []⟩
  | _ => none

def targets (r : Rule) : Option Definition :=
  match r with
  | .starTargets => some ⟨[
      same [starTarget, notAhead ","],
      node .tuple [starTarget, many (sequence [",", starTarget]), optional ","]], []⟩
  | .starTargetList => some ⟨[same [separated [','] starTarget, optional ","]], []⟩
  | .starTargetTuple => some ⟨[
      same [starTarget, several (sequence [",", starTarget]), optional ","],
      same [starTarget, ","]], []⟩
  | .starTarget => some ⟨[
      node .starred ["*", notAhead "*", starTarget],
      same [itemTarget]], []⟩
  | .itemTarget => some ⟨itemTargets ++ [same [starAtom]], []⟩
  | .starAtom => some ⟨[
      same [name],
      same ["(", itemTarget, ")"],
      node .tuple ["(", optional starTargetTuple, ")"],
      node .list ["[", optional starTargetList, "]"]], []⟩
  | .singleTarget => some ⟨[
      same [singleItemTarget],
      same [name],
      same ["(", singleTarget, ")"]], []⟩
  | .singleItemTarget => some ⟨itemTargets, []⟩
  | .targetPrimary => some ⟨[same [atom, ahead targetAhead]], [
      node .member [".", name, ahead targetAhead],
      node .item ["[", slices, "]", ahead targetAhead],
      node .call [generatorExpression, ahead targetAhead],
      node .call ["(", optional arguments, ")", ahead targetAhead]]⟩
  | .targetAhead => some ⟨[same ["("], same ["["], same ["."]], []⟩
  | .deleteTargets => some ⟨[same [separated [','] deleteTarget, optional ","]], []⟩
  | .deleteTarget => some ⟨itemTargets ++ [same [deleteAtom]], []⟩
  | .deleteAtom => some ⟨[
      same [name],
      same ["(", deleteTarget, ")"],
      node .tuple ["(", optional deleteTargets, ")"],
      node .list ["[", optional deleteTargets, "]"]], []⟩
  | _ => none
where
  itemTargets : List Alternative := [
    node .member [targetPrimary, ".", name, notAhead targetAhead],
    node .item [targetPrimary, "[", slices, "]", notAhead targetAhead]]

/-! The rules of parameters, which functions and lambdas have in the same form up to annotations. -/

def closing (o : Owner) : Item :=
  match o with
  | .function => ")"
  | .lambda => ":"

def parameterLists (r : Rule) : Option Definition :=
  match r with
  | .parameters o => some ⟨[fault (parametersFault o), same [orderedParameters o]], []⟩
  | .orderedParameters o => some ⟨[
      node .parameters [slashPlain o, many (plainParameter o), many (defaultedParameter o),
        optional (starParameters o)],
      node .parameters [slashDefaulted o, many (defaultedParameter o), optional (starParameters o)],
      node .parameters [several (plainParameter o), many (defaultedParameter o),
        optional (starParameters o)],
      node .parameters [several (defaultedParameter o), optional (starParameters o)],
      node .parameters [starParameters o]], []⟩
  | .slashPlain o => some ⟨[
      same [several (plainParameter o), kept ['/'], ","],
      same [several (plainParameter o), kept ['/'], ahead (closing o)]], []⟩
  | .slashDefaulted o => some ⟨[
      same [many (plainParameter o), several (defaultedParameter o), kept ['/'], ","],
      same [many (plainParameter o), several (defaultedParameter o), kept ['/'],
        ahead (closing o)]], []⟩
  | .starParameters .function => some ⟨[
      fault (starFault .function),
      same [starred (plainParameter .function), many (optionalParameter .function),
        optional (doubleStarParameter .function)],
      same [starred annotatedStarParameter, many (optionalParameter .function),
        optional (doubleStarParameter .function)],
      same [kept ['*'], ",", several (optionalParameter .function),
        optional (doubleStarParameter .function)],
      same [doubleStarParameter .function]], []⟩
  | .starParameters .lambda => some ⟨[
      fault (starFault .lambda),
      same [starred (plainParameter .lambda), many (optionalParameter .lambda),
        optional (doubleStarParameter .lambda)],
      same [kept ['*'], ",", several (optionalParameter .lambda),
        optional (doubleStarParameter .lambda)],
      same [doubleStarParameter .lambda]], []⟩
  | .doubleStarParameter o => some ⟨[
      fault (doubleStarFault o),
      node .doubleStarredParameter ["**", plainParameter o]], []⟩
  | .plainParameter o => some ⟨[
      same [oneParameter o, ","],
      same [oneParameter o, ahead (closing o)]], []⟩
  | .annotatedStarParameter => some ⟨[
      node .parameter [name, sequence [":", starExpression], ","],
      node .parameter [name, sequence [":", starExpression], ahead ")"]], []⟩
  | .defaultedParameter o => some ⟨[
      node .defaulted [oneParameter o, defaultValue, ","],
      node .defaulted [oneParameter o, defaultValue, ahead (closing o)]], []⟩
  | .optionalParameter o => some ⟨[
      node .defaulted [oneParameter o, optional defaultValue, ","],
      node .defaulted [oneParameter o, optional defaultValue, ahead (closing o)]], []⟩
  | .oneParameter .function => some ⟨[
      node .parameter [name, optional (sequence [":", expression])]], []⟩
  | .oneParameter .lambda => some ⟨[node .parameter [name]], []⟩
  | .defaultValue => some ⟨[same ["=", expression], fault defaultFault], []⟩
  | _ => none
where
  starred (i : Item) : Item := sequence [kept ['*'], i]

end Forwarding.Script.Grammar
