import Forwarding.Script.Compilation.Block
import Forwarding.Script.Compilation.Constant

/-! The code of expressions. It leaves the value of the expression on the stack. -/

set_option autoImplicit false

namespace Forwarding.Script

open Text

namespace Compilation

/-- Whether a body has a form in it, apart from functions and classes inside. -/
def hasInside (forms : List Form) : Nat → Tree → Bool
  | 0, _ => false
  | _, .constant _ _ | _, .leaf _ => false
  | depth + 1, .group parts => parts.any (hasInside forms depth)
  | depth + 1, .node form _ parts =>
    forms.contains form ||
      match form with
      | .function | .definition | .asyncDefinition | .classDefinition => false
      | _ => parts.any (hasInside forms depth)

def depthLimit : Nat := 100000

def isStarred (tree : Tree) : Bool := tree.form? == some .starred

/-- Whether an expression has a value that is known before the script runs. -/
def isConstant : Nat → Tree → Bool
  | 0, _ => false
  | _, .constant _ _ => true
  | _, .leaf token => token.kind == .number || (wordValue? token.text).isSome
  | depth + 1, .node form _ parts =>
    match form, parts with
    | .unary, [_, inside] => isConstant depth inside
    | .binary, [left, _, right] => isConstant depth left && isConstant depth right
    | .tuple, _ => (Tree.elementsOf parts).all (isConstant depth)
    | _, _ => false
  | _, .group _ => false

def storeName (around : List Block) (name : Text) : Code := [.store (Block.address around name)]

def kindOfBody (isAsync : Bool) (body : Tree) : Template.Kind :=
  if hasInside [.yielding, .yieldingFrom] depthLimit body then
    if isAsync then .asyncGenerator else .generator
  else if isAsync then .coroutine
  else .function

def awaiting : Code := [.awaited none, .constant .nothing, .yieldFrom]

/-- The code that goes through the values of an iterator on the stack that are waited for. The code for each
value finds it on the stack. -/
def asyncEach (body otherwise : Code) : Code :=
  [.repeating
    [.guard [.copy 0, .asyncNext, .constant .nothing, .yieldFrom, .constant (.truth true)]
      [.constant (.kind "StopAsyncIteration"), .handles,
        .branch [.drop, .constant .nothing, .constant (.truth false)] [.raiseAgain]] []]
    body (.drop :: otherwise), .drop]

/-- What a comprehension makes. -/
inductive Collecting where
  | list | set | dictionary | generator
  deriving DecidableEq

def Collecting.name : Collecting → Text
  | .list => "<listcomp>"
  | .set => "<setcomp>"
  | .dictionary => "<dictcomp>"
  | .generator => "<genexpr>"

def Collecting.start : Collecting → Code
  | .list => [.list 0]
  | .set => [.set 0]
  | .dictionary => [.dictionary 0]
  | .generator => []

def Collecting.add (c : Collecting) (depth : Nat) : Code :=
  match c with
  | .list => [.append depth]
  | .set => [.insert depth]
  | .dictionary => [.put depth]
  | .generator => [.yield, .drop]

def Collecting.finish : Collecting → Code
  | .generator => []
  | _ => [.give]

mutual

/-- The code of an expression. The number bounds the depth. -/
def expression : Nat → List Block → Tree → Code
  | 0, _, _ => []
  | _, _, .constant _ (.text t) => [.constant (.text t)]
  | _, _, .constant _ (.bytes t) => [.constant (.bytes t)]
  | _, around, .leaf token =>
    if token.kind == .number then [.constant (numberValue token.text)]
    else
      match wordValue? token.text with
      | some v => [.constant v]
      | none => [.load (Block.address around token.text)]
  | depth + 1, around, .group parts => parts.flatMap (expression depth around)
  | depth + 1, around, .node form line parts =>
    let code := expression depth around
    match form, parts with
    | .both, _ => chosen depth around false (Tree.elementsOf parts)
    | .either, _ => chosen depth around true (Tree.elementsOf parts)
    | .opposite, [operand] => code operand ++ [.opposite]
    | .choice, [first, test, second] => code test ++ [.branch (code first) (code second)]
    | .comparison, first :: rest => code first ++ compared depth around (Tree.elementsOf rest)
    | .binary, [left, mark, right] =>
      code left ++ code right ++ ((Operator.ofMark? mark.text).map Instruction.operate).toList
    | .unary, [mark, operand] =>
      code operand ++ ((Sign.ofMark? mark.text).map Instruction.sign).toList
    | .naming, [name, operand] => code operand ++ .copy 0 :: storeName around name.text
    | .member, [owner, name] => code owner ++ [.member name.text]
    | .item, [owner, index] => code owner ++ code index ++ [.item]
    | .slice, [start, stop, step] =>
      let bound (part : Tree) : Code :=
        match part.elements with
        | [part] => code part
        | _ => [.constant .nothing]
      bound start ++ bound stop ++ bound step ++ [.slice]
    | .call, [f, arguments] => code f ++ call depth around (Tree.elements arguments)
    | .tuple, _ =>
      let items := Tree.elementsOf parts
      if items.any isStarred then .list 0 :: spread depth around items ++ [.tupleOfList]
      else items.flatMap code ++ [.tuple items.length]
    | .list, _ =>
      let items := Tree.elementsOf parts
      if items.any isStarred then .list 0 :: spread depth around items
      else items.flatMap code ++ [.list items.length]
    | .set, _ =>
      let items := Tree.elementsOf parts
      if items.any isStarred then
        .set 0 :: items.flatMap fun item =>
          match item with
          | .node .starred _ [inside] => code inside ++ [.unite]
          | other => code other ++ [.insert 0]
      else
        let isFixed := 2 < items.length && items.all (isConstant depthLimit)
        items.flatMap code ++ [if isFixed then .constantSet items.length else .set items.length]
    | .dictionary, _ =>
      let items := Tree.elementsOf parts
      if items.any fun item => item.form? == some .doubleStarred then
        .dictionary 0 :: items.flatMap fun item =>
          match item with
          | .node .doubleStarred _ [inside] => code inside ++ [.merge]
          | other => other.parts.flatMap code ++ [.put 0]
      else items.flatMap (fun item => item.parts.flatMap code) ++ [.dictionary items.length]
    | .listOf, [item, clauses] => comprehension depth around line .list [item] clauses
    | .setOf, [item, clauses] => comprehension depth around line .set [item] clauses
    | .dictionaryOf, [pair, clauses] => comprehension depth around line .dictionary pair.parts clauses
    | .generator, [item, clauses] => comprehension depth around line .generator [item] clauses
    | .function, [parameters, body] =>
      let p := Parameters.ofTree parameters
      let path := Block.pathOf around "<lambda>"
      let b := Block.function path p.signature.all (Scope.Finder.visit depthLimit body)
      let kind := kindOfBody false body
      p.defaults.flatMap code ++ p.namedDefaults.flatMap (fun entry => code entry.2) ++
        [.define (.mk "<lambda>" path line p.signature none b.slots kind
            (expression depth (b :: around) body ++ [.give]))
          p.defaults.length (p.namedDefaults.map Prod.fst) []]
    | .yielding, _ =>
      match Tree.elementsOf parts with
      | [operand] => code operand ++ [.yield]
      | _ => [.constant .nothing, .yield]
    | .yieldingFrom, [operand] => code operand ++ [.iterator, .constant .nothing, .yieldFrom]
    | .awaiting, [operand] => code operand ++ awaiting
    | .joined, _ =>
      let pieces := Tree.elementsOf parts
      pieces.flatMap code ++ [.joined pieces.length]
    | .field, [operand, .constant _ (.text how), format] =>
      let pieces := Tree.elements format
      code operand ++ pieces.flatMap code ++ [.joined pieces.length, .written how.head?]
    | _, _ => [.constant .nothing]

def chosen : Nat → List Block → Bool → List Tree → Code
  | 0, _, _, _ => []
  | _, _, _, [] => []
  | depth + 1, around, _, [last] => expression depth around last
  | depth + 1, around, decisive, operand :: more =>
    expression depth around operand ++ [.choose decisive (chosen depth around decisive more)]

/-- Comparisons of a value on the stack, up to the first that does not hold. -/
def compared : Nat → List Block → List Tree → Code
  | 0, _, _ => []
  | _, _, [] => []
  | depth + 1, around, part :: more =>
    match part.parts with
    | [mark, operand] =>
      let relation := ((Relation.ofMark? (mark.elements.map Tree.text).flatten).map
        Instruction.relate).toList
      let operand := expression depth around operand
      if more.isEmpty then operand ++ relation
      else
        operand ++ [.copy 0, .lift 2, .lift 1] ++ relation ++
          [.copy 0, .branch (.drop :: compared depth around more) [.lift 1, .drop]]
    | _ => []

def spread : Nat → List Block → List Tree → Code
  | 0, _, _ => []
  | _, _, [] => []
  | depth + 1, around, item :: more =>
    (match item with
      | .node .starred _ [inside] => expression depth around inside ++ [.extend]
      | other => expression depth around other ++ [.append 0]) ++ spread depth around more

/-- The named arguments of a call, added to a dictionary on the stack. What a name gives behind another
dictionary is added as one of its own, so that no name comes twice. -/
def entries : Nat → List Block → List Tree → Code
  | 0, _, _ => []
  | depth + 1, around, named =>
    let isKeyword (argument : Tree) : Bool := argument.form? == some .keyword
    let put (argument : Tree) : Code :=
      match argument with
      | .node _ _ [name, inside] =>
        .constant (.text name.text) :: expression depth around inside ++ [.put 0]
      | _ => []
    let first := named.takeWhile isKeyword
    let runs := (named.drop first.length).splitBy fun a b => isKeyword a && isKeyword b
    first.flatMap put ++ runs.flatMap fun run =>
      match run with
      | [.node .doubleStarred _ [inside]] => expression depth around inside ++ [.mergeNamed]
      | _ => .dictionary 0 :: run.flatMap put ++ [.mergeNamed]

def call : Nat → List Block → List Tree → Code
  | 0, _, _ => []
  | depth + 1, around, arguments =>
    let isNamed (argument : Tree) : Bool :=
      argument.form? == some .keyword || argument.form? == some .doubleStarred
    let placed := arguments.filter fun argument => !isNamed argument
    let named := arguments.filter isNamed
    if placed.any isStarred || named.any fun argument => argument.form? == some .doubleStarred then
      let isAlone := placed.length == 1 && placed.all isStarred
      let items : Code := match isAlone, placed with
        | true, [.node .starred _ [inside]] => expression depth around inside
        | _, _ => .list 0 :: spread depth around placed
      let entries := if named.isEmpty then [] else .dictionary 0 :: entries depth around named
      items ++ entries ++ [.callSpread isAlone !named.isEmpty]
    else
      let words := named.filterMap fun argument => argument.parts.head?.map Tree.text
      placed.flatMap (expression depth around) ++
        named.flatMap (fun argument => (argument.parts.drop 1).flatMap (expression depth around)) ++
        [.call placed.length words]

def comprehension : Nat → List Block → Nat → Collecting → List Tree → Tree → Code
  | 0, _, _, _, _, _ => []
  | depth + 1, around, line, collecting, items, clauses =>
    let clauses := Tree.elements clauses
    let path := Block.pathOf around collecting.name
    let visit : Scope.Finder Unit := Scope.Finder.comprehension depthLimit "" items (.group clauses)
    let b := Block.comprehension path do
      let inside := fun (s : Scope) => s.inner.head?
      visit
      let s ← Scope.Finder.innermost
      match inside s with
      | some child => child.roles.reverse.forM fun (name, role) => Scope.Finder.give name role
      | none => return ()
    let inner := b :: around
    let body := clause depth inner collecting items 1 [.load (.slot 0 0 Block.sourceName)] clauses
    let first := (clauses.head?.bind fun c => c.parts[1]?).map (expression depth around) |>.getD []
    let isAsync := clauses.any (fun c => c.form? == some .asyncClause) ||
      (items ++ clauses.drop 1 ++ clauses.flatMap fun c => c.parts.drop 2).any
        (hasInside [.awaiting] depthLimit)
    let kind : Template.Kind := match collecting, isAsync with
      | .generator, true => .asyncGenerator
      | .generator, false => .generator
      | _, true => .coroutine
      | _, false => .block
    let start : Instruction :=
      if clauses.head?.bind Tree.form? == some .asyncClause then .asyncIterator else .iterator
    .define (.mk collecting.name path line { placed := [Block.sourceName] } none b.slots kind
        (collecting.start ++ body ++ collecting.finish)) 0 [] [] ::
      first ++ [start, .call 1 []] ++ if kind == .coroutine then awaiting else []

def clause : Nat → List Block → Collecting → List Tree → Nat → Code → List Tree → Code
  | 0, _, _, _, _, _, _ => []
  | _, _, _, _, _, _, [] => []
  | depth + 1, around, collecting, items, count, source, first :: more =>
    match first.parts with
    | place :: _ :: tests =>
      let inside : Code := match more with
        | [] => items.flatMap (expression depth around) ++ collecting.add count
        | next :: _ =>
          let source := (next.parts[1]?).map (expression depth around) |>.getD []
          let start : Instruction :=
            if next.form? == some .asyncClause then .asyncIterator else .iterator
          clause depth around collecting items (count + 1) (source ++ [start]) more
      let body := assign depth around place ++
        (Tree.elementsOf tests).foldr (fun test code => expression depth around test ++ [.branch code []])
          inside
      source ++ if first.form? == some .asyncClause then asyncEach body [] else [.each body []]
    | _ => []

def assign : Nat → List Block → Tree → Code
  | 0, _, _ => []
  | depth + 1, around, place =>
    match place with
    | .leaf token => storeName around token.text
    | .node .member _ [owner, name] => expression depth around owner ++ [.storeMember name.text]
    | .node .item _ [owner, index] =>
      expression depth around owner ++ expression depth around index ++ [.storeItem]
    | .node .starred _ [inside] => assign depth around inside
    | .node .tuple _ parts | .node .list _ parts =>
      let places := Tree.elementsOf parts
      let unpack : Instruction := match places.findIdx? isStarred with
        | some index => .unpackAround index (places.length - index - 1)
        | none => .unpack places.length
      unpack :: places.flatMap (assign depth around)
    | .group parts => parts.flatMap (assign depth around)
    | _ => [.drop]

end

end Compilation

end Forwarding.Script

/-! The patterns of trees. -/

namespace Forwarding.Script.Compilation

open Text

def pathValue (around : List Block) (tree : Tree) : CasePattern.Value :=
  match Tree.elementsOf tree.elements with
  | [.node .valuePattern _ parts] => ofNames (Tree.elementsOf parts)
  | names => ofNames names
where
  ofNames : List Tree → CasePattern.Value
    | first :: members => .path (Block.address around first.text) (members.map Tree.text)
    | [] => .constant .nothing

def isSingle : Value → Bool
  | .nothing | .truth _ => true
  | _ => false

def keyValue (around : List Block) (tree : Tree) : CasePattern.Value :=
  match tree with
  | .node .literalPattern _ parts =>
    .constant ((Tree.elementsOf parts).head?.map literalValue |>.getD .nothing)
  | other => pathValue around other

/-- The pattern of a tree. The number bounds the depth. -/
def pattern : Nat → List Block → Tree → CasePattern
  | 0, _, _ => .anything
  | depth + 1, around, .node form _ parts =>
    match form, parts with
    | .literalPattern, _ =>
      let v := ((Tree.elementsOf parts).head?.map literalValue).getD .nothing
      if isSingle v then .same v else .equal (.constant v)
    | .capturePattern, [name] => .capture name.text
    | .asPattern, [inside, name] => .named (pattern depth around inside) name.text
    | .orPattern, _ =>
      match Tree.elementsOf parts with
      | [only] => pattern depth around only
      | several => .either (several.map (pattern depth around))
    | .valuePattern, _ => .equal (pathValue around (.node form 0 parts))
    | .sequencePattern, _ =>
      let items := Tree.elementsOf parts
      match items.findIdx? fun item => item.form? == some .starredPattern with
      | none => .sequence (items.map (pattern depth around)) none []
      | some index =>
        let name : Option Text := match items[index]? with
          | some (.node .starredPattern _ [.leaf token]) => some token.text
          | _ => none
        .sequence ((items.take index).map (pattern depth around)) (some name)
          ((items.drop (index + 1)).map (pattern depth around))
    | .mappingPattern, _ =>
      let items := Tree.elementsOf parts
      let entries := items.filter fun item => item.form? == some .keyPattern
      let rest := items.findSome? fun
        | .node .restPattern _ [name] => some name.text
        | _ => none
      .mapping (entries.map fun entry => (entry.parts.head?.map (keyValue around)).getD (.constant .nothing))
        (entries.map fun entry => (entry.parts[1]?.map (pattern depth around)).getD .anything) rest
    | .classPattern, kind :: placed :: named :: _ =>
      let named := named.elements
      .ofClass (pathValue around kind) (placed.elements.map (pattern depth around))
        (named.filterMap fun item => item.parts.head?.map Tree.text)
        (named.map fun item => (item.parts[1]?.map (pattern depth around)).getD .anything)
    | _, _ => .anything
  | _, _, _ => .anything

end Forwarding.Script.Compilation
