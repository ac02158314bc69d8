import Forwarding.Script.Compilation.Expression

/-! The code of statements, and of a whole script. -/

set_option autoImplicit false

namespace Forwarding.Script

open Text

namespace Compilation

/-- The document of some statements: a text that stands alone as the first of them. -/
def documentOf (statements : List Tree) : Option Text :=
  match statements with
  | .node .evaluation _ [.constant _ (.text t)] :: _ => some t
  | _ => none

def keepsNotes (around : List Block) : Bool :=
  match around with
  | [] => true
  | b :: _ => b.kind == .script || b.kind == .classBody

def notesName : Text := "__annotations__"

def hasNotes (statements : List Tree) : Bool :=
  statements.any (hasInside [.annotated] depthLimit)

def define (depth : Nat) (around : List Block) (line : Nat) (isAsync : Bool) (name : Text)
    (parameters result body : Tree) (inside : List Block → Code) : Code :=
  let p := Parameters.ofTree parameters
  let path := Block.pathOf around name
  let b := Block.function path p.signature.all (Scope.Finder.visit depthLimit body)
  let notes := p.notes ++ result.elements.map fun note => ("return".toList, note)
  let kind := kindOfBody isAsync body
  p.defaults.flatMap (expression depth around) ++
    p.namedDefaults.flatMap (fun entry => expression depth around entry.2) ++
    notes.flatMap (fun entry => noteCode depth around entry.2) ++
    [.define (.mk name path line p.signature (documentOf body.elements) b.slots kind
        (inside (b :: around)))
      p.defaults.length (p.namedDefaults.map Prod.fst) (notes.map Prod.fst)]
where
  noteCode (depth : Nat) (around : List Block) (note : Tree) : Code :=
    match note with
    | .node .starred _ [inside] =>
      .list 0 :: expression depth around inside ++ [.extend, .tupleOfList, .constant (.integer 0), .item]
    | other => expression depth around other

def erase : Nat → List Block → Tree → Code
  | 0, _, _ => []
  | depth + 1, around, place =>
    match place with
    | .leaf token => [.erase (Block.address around token.text)]
    | .node .member _ [owner, name] => expression depth around owner ++ [.eraseMember name.text]
    | .node .item _ [owner, index] =>
      expression depth around owner ++ expression depth around index ++ [.eraseItem]
    | .node .tuple _ parts | .node .list _ parts | .group parts =>
      (Tree.elementsOf parts).flatMap (erase depth around)
    | _ => []

def augment (depth : Nat) (around : List Block) (place : Tree) (mark : Text) (operand : Tree) : Code :=
  let change : Code := ((Operator.ofMark? mark.dropLast).map Instruction.augment).toList
  let operand := expression depth around operand
  match place with
  | .leaf token =>
    let a := Block.address around token.text
    .load a :: operand ++ change ++ [.store a]
  | .node .member _ [owner, name] =>
    expression depth around owner ++ [.copy 0, .member name.text] ++ operand ++ change ++
      [.lift 1, .storeMember name.text]
  | .node .item _ [owner, index] =>
    expression depth around owner ++ expression depth around index ++ [.copy 1, .copy 1, .item] ++
      operand ++ change ++ [.lift 2, .lift 2, .storeItem]
  | _ => []

/-- The code that gives several places the value on the stack. -/
def assignAll (depth : Nat) (around : List Block) : List Tree → Code
  | [] => [.drop]
  | [place] => assign depth around place
  | place :: more => .copy 0 :: assign depth around place ++ assignAll depth around more

def libraryPath (tree : Tree) : List Text := (Tree.elementsOf tree.parts).map Tree.text

def importing (around : List Block) (tree : Tree) : Code :=
  match Tree.elementsOf tree.parts with
  | [path] =>
    let path := libraryPath path
    .library path false :: storeName around (path.headD [])
  | path :: name :: _ => .library (libraryPath path) true :: storeName around name.text
  | [] => []

def importingFrom (around : List Block) (parts : List Tree) : Code :=
  let elements := Tree.elementsOf parts
  let isRelative := elements.any fun part => part.text == ['.'] || part.text == "..."
  let path := (elements.find? fun part => part.form? == some .dotted).map libraryPath |>.getD []
  let path := if isRelative then ['.'] :: path else path
  if elements.any fun part => part.form? == some .everything then [.library path true, .importAll]
  else
    .library path true :: elements.flatMap (fun part =>
      match part with
      | .node .imported _ names =>
        match Tree.elementsOf names with
        | name :: more =>
          .importFrom name.text :: storeName around ((more.getLast?.getD name).text)
        | [] => []
      | _ => []) ++ [.drop]

def asserting (depth : Nat) (around : List Block) (test : Tree) (words : List Tree) : Code :=
  let words := words.flatMap (expression depth around)
  expression depth around test ++
    [.branch [] (.constant (.kind "AssertionError") :: words ++
      (if words.isEmpty then [] else [.call 1 []]) ++ [.raise false])]

/-- The code that runs other code in a context that is waited for. The context is on the stack; the value that
entering it gives is on top of the method for leaving it while the other code begins, and both are nothing
once the method has taken care of an error. -/
def withinAsync (body : Code) : Code :=
  let leaving : Code := [.call 3 [], .awaited (some "__aexit__"), .constant .nothing, .yieldFrom]
  [.enterAsync, .constant .nothing, .yieldFrom,
    .always
      [.guard (.copy 0 :: body)
        ([.copy 2, .constant (.kind "type"), .copy 2, .call 1 [], .copy 2, .constant .nothing] ++ leaving ++
          [.branch [.drop, .drop, .drop, .constant .nothing, .constant .nothing] [.raiseAgain]]) []]
      [.copy 1, .constant .nothing, .relate (.same true),
        .branch []
          ([.copy 1, .constant .nothing, .constant .nothing, .constant .nothing] ++ leaving ++ [.drop])]
      false,
    .drop, .drop]

def within (depth : Nat) (around : List Block) (isAsync : Bool) (body : Code) : List Tree → Code
  | [] => body
  | item :: more =>
    match item.parts with
    | operand :: places =>
      let place := match Tree.elementsOf places with
        | [] => [.drop]
        | places => places.flatMap (assign depth around)
      let inside := place ++ within depth around isAsync body more
      expression depth around operand ++ if isAsync then withinAsync inside else [.within inside]
    | [] => within depth around isAsync body more

def namingError (around : List Block) (name : Tree) (inside : Code) : Code :=
  match name.elements with
  | [name] =>
    storeName around name.text ++
      [.always inside (.constant .nothing :: storeName around name.text ++
        [.erase (Block.address around name.text)]) true]
  | _ => .drop :: inside

mutual

/-- The code of statements. The number bounds the depth. -/
def statements : Nat → List Block → List Tree → Code
  | 0, _, _ => []
  | _, _, [] => []
  | depth + 1, around, first :: more =>
    statement depth around first ++ statements depth around more

def statement : Nat → List Block → Tree → Code
  | 0, _, _ => []
  | _, _, .leaf _ | _, _, .constant _ _ => []
  | depth + 1, around, .group parts => statements depth around (Tree.elementsOf parts)
  | depth + 1, around, .node form line parts =>
    let code := expression depth around
    let block (tree : Tree) : Code := statements depth around tree.elements
    let rest (trees : List Tree) : Code := statements depth around (Tree.elementsOf trees)
    match form, parts with
    | .evaluation, [.constant _ _] => []
    | .evaluation, _ => parts.flatMap code ++ [.drop]
    | .assignment, [places, operand] => code operand ++ assignAll depth around places.elements
    | .augmentation, [place, mark, operand] => augment depth around place mark.text operand
    | .annotated, place :: note :: operand =>
      let value : Code := match Tree.elementsOf operand with
        | [operand] => code operand ++ assign depth around place
        | _ => []
      if !place.isName then
        value ++ (if keepsNotes around then code note ++ [.drop] else [])
      else if keepsNotes around then
        value ++ code note ++ .load (Block.address around notesName) ::
          [.constant (.text place.text), .storeItem]
      else value
    | .returning, _ =>
      match Tree.elementsOf parts with
      | [operand] => code operand ++ [.give]
      | _ => [.constant .nothing, .give]
    | .raising, [] => [.raiseAgain]
    | .raising, operand :: cause =>
      match Tree.elementsOf cause with
      | [cause] => code operand ++ code cause ++ [.raise true]
      | _ => code operand ++ [.raise false]
    | .deletion, _ => (Tree.elementsOf parts).flatMap (erase depth around)
    | .assertion, test :: words => asserting depth around test (Tree.elementsOf words)
    | .breaking, _ => [.leave]
    | .continuing, _ => [.skip]
    | .importing, _ => (Tree.elementsOf parts).flatMap (importing around)
    | .importingFrom, _ => importingFrom around parts
    | .definition, [name, parameters, result, body] =>
      define depth around line false name.text parameters result body (inFunction depth body) ++
        storeName around name.text
    | .asyncDefinition, [name, parameters, result, body] =>
      define depth around line true name.text parameters result body (inFunction depth body) ++
        storeName around name.text
    | .classDefinition, [name, bases, body] =>
      classCode depth around line name.text bases body ++ storeName around name.text
    | .decorators, [lines, inside] =>
      let decorators := lines.elements
      let made : Code := match inside with
        | .node .definition line [name, parameters, result, body] =>
          define depth around line false name.text parameters result body (inFunction depth body)
        | .node .asyncDefinition line [name, parameters, result, body] =>
          define depth around line true name.text parameters result body (inFunction depth body)
        | .node .classDefinition line [name, bases, body] =>
          classCode depth around line name.text bases body
        | _ => []
      let name := (inside.parts.head?.map Tree.text).getD []
      decorators.flatMap code ++ made ++ decorators.map (fun _ => .call 1 []) ++ storeName around name
    | .conditional, test :: body :: others => code test ++ [.branch (block body) (rest others)]
    | .loop, test :: body :: others => [.repeating (code test) (block body) (rest others)]
    | .asyncIteration, place :: values :: body :: others =>
      code values ++ .asyncIterator :: asyncEach (assign depth around place ++ block body) (rest others)
    | .iteration, place :: values :: body :: others =>
      code values ++ [.iterator, .each (assign depth around place ++ block body) (rest others)]
    | .context, _ | .asyncContext, _ =>
      let (contexts, body) := (Tree.elementsOf parts).span fun part =>
        part.form? == some .contextItem
      within depth around (form == .asyncContext) (statements depth around body) contexts
    | .attempt, [body, handlers, others, last] =>
      let handlers := handlers.elements
      let guarded : Code :=
        if handlers.isEmpty then block body
        else if handlers.any fun handler => handler.form? == some .groupHandler then
          [.guard (block body) (.list 0 :: .copy 1 :: handlingParts depth around handlers)
            (block others ++ [.constant .nothing])] ++
            [.copy 0, .constant .nothing, .relate (.same true), .branch [.drop] [.raise false]]
        else [.guard (block body) (handling depth around handlers) (block others)]
      match last.elements with
      | [] => guarded
      | last => [.always guarded (statements depth around last) true]
    | .matching, subject :: cases =>
      code subject ++ casesCode depth around (Tree.elementsOf cases)
    | _, _ => []

def inFunction : Nat → Tree → List Block → Code
  | 0, _, _ => []
  | depth + 1, body, around => statements depth around body.elements ++ [.constant .nothing, .give]

def classCode : Nat → List Block → Nat → Text → Tree → Tree → Code
  | 0, _, _, _, _, _ => []
  | depth + 1, around, line, name, bases, body =>
    let body := withPrivateNames name depthLimit body
    let path := Block.pathOf around name
    let b := Block.classBody path (Scope.Finder.visit depthLimit body)
    let arguments := bases.elements
    let document : Code := match documentOf body.elements with
      | some t => [.constant (.text t), .store (.named "__doc__" none)]
      | none => []
    let notes : Code :=
      if hasNotes body.elements then [.dictionary 0, .store (.named notesName none)] else []
    let inside := document ++ notes ++ statements depth (b :: around) body.elements
    let made (hasBases : Bool) : Instruction :=
      .defineClass name (.mk name path line {} none b.slots .block inside) hasBases
    if arguments.isEmpty then [made false]
    else
      let placed := arguments.filter fun argument =>
        argument.form? != some .keyword && argument.form? != some .doubleStarred
      let named := arguments.filter fun argument =>
        argument.form? == some .keyword || argument.form? == some .doubleStarred
      .constant (.builtin "__build_class__") :: .list 0 :: spread depth around placed ++
        .dictionary 0 :: entries depth around named ++ [made true]

def handling : Nat → List Block → List Tree → Code
  | 0, _, _ => []
  | _, _, [] => [.raiseAgain]
  | depth + 1, around, handler :: more =>
    match handler.parts with
    | [kind, name, body] =>
      let inside := statements depth around body.elements
      let handled := namingError around name inside
      match kind.elements with
      | [kind] =>
        expression depth around kind ++ [.handles, .branch handled (handling depth around more)]
      | _ => handled
    | _ => []

/-- The code that handles the error on the stack part by part. Below what is left of it are the errors that
handlers have ended with, and the whole error. -/
def handlingParts : Nat → List Block → List Tree → Code
  | 0, _, _ => []
  | _, _, [] => [.regroup]
  | depth + 1, around, handler :: more =>
    match handler.parts with
    | [kind, name, body] =>
      let inside := statements depth around body.elements
      let handled := namingError around name inside
      match kind.elements with
      | [kind] =>
        expression depth around kind ++
          [.splits, .copy 0, .constant .nothing, .relate (.same true),
            .branch [] [.guard [.copy 0, .handling handled] [.append 2] []], .drop] ++
          handlingParts depth around more
      | _ => []
    | _ => []

def casesCode : Nat → List Block → List Tree → Code
  | 0, _, _ => []
  | _, _, [] => [.drop]
  | depth + 1, around, part :: more =>
    match part.parts with
    | [tree, test, body] =>
      let p := pattern depth around tree
      let stores := p.names.flatMap (storeName around)
      let passes : Code := match test.elements with
        | [test] => expression depth around test
        | _ => [.constant (.truth true)]
      [.copy 0, .fit p, .branch (stores ++ passes) [.constant (.truth false)],
        .branch (.drop :: statements depth around body.elements) (casesCode depth around more)]
    | _ => casesCode depth around more

end

end Compilation

/-- The code of a script; the flag says whether it has names of its own apart from the shared ones. -/
def Template.ofScript (isApart : Bool) (script : Tree) : Template :=
  let statements := Tree.elementsOf script.parts
  let b := { Block.script with isApart }
  let notes : Code :=
    if Compilation.hasNotes statements then
      [.dictionary 0, .store (Block.address [b] Compilation.notesName)] else []
  .mk "<module>" "<module>" 1 {} (Compilation.documentOf statements) [] .block
    (notes ++ Compilation.statements Compilation.depthLimit [b] statements ++
      [.constant .nothing, .give])

/-- The code of an expression that stands alone, if a script is nothing else. -/
def Template.ofExpression? (script : Tree) : Option Template :=
  let b := { Block.script with isApart := true }
  match Tree.elementsOf script.parts with
  | [.node .evaluation _ parts] =>
    some (.mk "<module>" "<module>" 1 {} none [] .block
      (parts.flatMap (Compilation.expression Compilation.depthLimit [b]) ++ [.give]))
  | _ => none

end Forwarding.Script
