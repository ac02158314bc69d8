import Forwarding.Script.Compilation.Constant
import Forwarding.Script.Machine.Constant
import Forwarding.Script.Scope

/-! What the grammar allows and the language does not.

A tree of the grammar is a script only if what it says makes sense where it stands: a value is returned
from a function, a loop is left from inside it, a starred expression is part of a list. Names are checked
for all of the script first, and then everything else, a block before the statement that it belongs to.
-/

set_option autoImplicit false

namespace Forwarding.Script

open Text

namespace Check

/-- What a place is part of. -/
inductive Owner where
  | script | classBody | function | asyncFunction | comprehension
  deriving Repr, DecidableEq

/-- What leaving a loop gets to first. -/
inductive Exit where
  | nothing | loop | groupHandler
  deriving Repr, DecidableEq

structure Place where
  owner : Owner
  exit : Exit := .nothing
  /-- Whether a handler of groups is around, up to the function. -/
  isInGroupHandler : Bool := false
  /-- Whether the values of the function come one after the other and are waited for. -/
  isAsyncGenerator : Bool := false

def Place.isInFunction (p : Place) : Bool := p.owner != .script && p.owner != .classBody

def fixedName : Text := "__debug__"

abbrev Outcome := Except Fault Unit

def fail (mistake : Mistake) (line : Nat) : Outcome := .error ⟨.mistake mistake, line⟩

def outside (word place : String) (line : Nat) : Outcome :=
  .error ⟨.outside word.toList place.toList, line⟩

def assigned (name : Text) (line : Nat) : Outcome :=
  if name == fixedName then fail .assignedDebug line else .ok ()

/-- The arguments of a call that have names: no name comes twice. -/
def keywords (arguments : List Tree) (line : Nat) : Outcome :=
  match arguments with
  | [] => .ok ()
  | .node .keyword _ (name :: _) :: more => do
    assigned name.text line
    match more.find? fun other =>
      match other with
      | .node .keyword _ (again :: _) => again.text == name.text
      | _ => false with
    | some other => .error ⟨.repeatedKeyword name.text, other.line⟩
    | none => keywords more line
  | _ :: more => keywords more line

/-- Whether a tree has something in it that waits, outside of functions and generators in it. -/
def waits : Nat → Tree → Bool
  | 0, _ => false
  | _, .constant _ _ | _, .leaf _ => false
  | depth + 1, .group parts => parts.any (waits depth)
  | depth + 1, .node form _ parts =>
    match form with
    | .awaiting | .asyncClause => true
    | .function | .generator => false
    | _ => parts.any (waits depth)

def captured (names : List Text) (name : Text) (line : Nat) : Except Fault (List Text) := do
  assigned name line
  if names.contains name then .error ⟨.repeatedCapture name, line⟩ else return names ++ [name]

def yields : Nat → Tree → Bool
  | 0, _ => false
  | _, .constant _ _ | _, .leaf _ => false
  | depth + 1, .group parts => parts.any (yields depth)
  | depth + 1, .node form _ parts =>
    match form with
    | .yielding | .yieldingFrom => true
    | .function | .definition | .asyncDefinition | .classDefinition => false
    | _ => parts.any (yields depth)

/-- The literal of a pattern. It is a constant, or else a string that is put together. -/
def literalOf (parts : List Tree) : Option Value :=
  match Tree.elementsOf parts with
  | [.node .joined _ _] => none
  | [literal] => some (Compilation.literalValue literal)
  | _ => none

/-- Checks the keys of a pattern: no constant comes twice. -/
def keys (line : Nat) : List Tree → List (Option String) → Outcome
  | [], _ => .ok ()
  | .node .literalPattern _ parts :: more, codes =>
    match literalOf parts with
    | none => fail .patternKey line
    | some v =>
      if codes.contains v.constantCode? then .error ⟨.repeatedKey v.constantText, line⟩
      else keys line more (v.constantCode? :: codes)
  | _ :: more, codes => keys line more codes

/-- Checks the attributes that a pattern names: none comes twice. -/
def members : List Tree → Outcome
  | [] => .ok ()
  | .node .keywordPattern _ [name, inside] :: more => do
    assigned name.text inside.line
    let again := more.find? fun item => (item.parts.head?.map Tree.text) == some name.text
    match again.bind fun item => item.parts[1]? with
    | some late => .error ⟨.repeatedMember name.text, late.line⟩
    | none => members more
  | _ :: more => members more

/-- Checks a pattern, and gives the names that have a value behind it. A pattern that everything fits may
only stand where no other one follows. The number bounds the depth. -/
def pattern : Nat → Bool → List Text → Tree → Except Fault (List Text)
  | 0, _, names, _ => .ok names
  | depth + 1, isLast, names, .node form line parts =>
    match form, parts with
    | .wildcardPattern, _ => if isLast then .ok names else .error ⟨.unreachable none, line⟩
    | .capturePattern, [name] =>
      if isLast then captured names name.text line
      else .error ⟨.unreachable (some name.text), line⟩
    | .asPattern, [inside, name] => do
      captured (← pattern depth isLast names inside) name.text line
    | .orPattern, _ =>
      match Tree.elementsOf parts with
      | [only] => pattern depth isLast names only
      | first :: more => do
        let count := more.length
        let found ← pattern depth false [] first
        more.zipIdx.forM fun (other, index) => do
          let others ← pattern depth (isLast && index + 1 == count) [] other
          if others.length != found.length || !others.all found.contains then
            .error ⟨.mistake .differentNames, line⟩
          else .ok ()
        found.foldlM (fun names name => captured names name line) names
      | [] => .ok names
    | .sequencePattern, _ => do
      let items := Tree.elementsOf parts
      if 1 < items.countP fun item => item.form? == some .starredPattern then
        .error ⟨.mistake .starredTwiceInPattern, line⟩
      else items.foldlM (fun names item => pattern depth true names item) names
    | .starredPattern, [.leaf token] => captured names token.text line
    | .literalPattern, _ =>
      if (literalOf parts).isNone then .error ⟨.mistake .patternLiteral, line⟩ else .ok names
    | .mappingPattern, _ => do
      let items := Tree.elementsOf parts
      keys line (items.filterMap fun item => item.parts.head?) []
      items.foldlM (fun names item => pattern depth true names item) names
    | .keyPattern, [_, inside] => pattern depth true names inside
    | .restPattern, [name] => captured names name.text line
    | .classPattern, _ :: placed :: named :: _ => do
      members named.elements
      let names ← placed.elements.foldlM (fun names item => pattern depth true names item) names
      named.elements.foldlM (fun names item => pattern depth true names item) names
    | .keywordPattern, [_, inside] => pattern depth true names inside
    | _, _ => .ok names
  | _, _, names, _ => .ok names

def importedName (tree : Tree) : Outcome :=
  match tree with
  | .node .imported line parts =>
    match (Tree.elementsOf parts).reverse with
    | [.node .dotted _ names] => assigned ((Tree.elementsOf names).head?.map Tree.text |>.getD []) line
    | last :: _ => assigned last.text line
    | [] => .ok ()
  | _ => .ok ()

mutual

/-- Checks a tree. The number bounds the depth. -/
def tree : Nat → Place → Tree → Outcome
  | 0, _, _ => .ok ()
  | _, _, .constant _ _ | _, _, .leaf _ => .ok ()
  | depth + 1, p, .group parts => parts.forM (tree depth p)
  | depth + 1, p, .node form line parts =>
    match form, parts with
    | .member, value :: _ => tree depth p value
    | .keyword, [_, value] => tree depth p value
    | .starred, _ => fail .starredAlone line
    | .tuple, _ | .list, _ | .set, _ => (Tree.elementsOf parts).forM (spread depth p)
    | .call, [f, arguments] => do
      tree depth p f
      call depth p (Tree.elements arguments) line
    | .naming, [name, value] => do
      tree depth p value
      assigned name.text name.line
    | .yielding, _ => do
      if !p.isInFunction then outside "yield" "function" line
      parts.forM (tree depth p)
    | .yieldingFrom, _ => do
      if !p.isInFunction then outside "yield" "function" line
      if p.owner == .asyncFunction then fail .yieldFromInAsync line
      parts.forM (tree depth p)
    | .awaiting, _ => do
      if !p.isInFunction then outside "await" "function" line
      if p.owner == .function then outside "await" "async function" line
      parts.forM (tree depth p)
    | .listOf, [item, clauses] | .setOf, [item, clauses] | .dictionaryOf, [item, clauses] => do
      let runsOver := ((Tree.elements clauses).head?.bind (·.parts[1]?)).map (waits depth)
      let isAsync := waits depth (.group [item, clauses]) && runsOver != some true ||
        (Tree.elements clauses).any fun clause => clause.form? == some .asyncClause
      if isAsync && p.owner != .asyncFunction && p.owner != .comprehension then
        fail .asyncComprehension line
      comprehension depth p item clauses
    | .generator, [item, clauses] => comprehension depth p item clauses
    | .function, [parameters, body] => function depth p .function parameters [] body line
    | .definition, [name, parameters, result, body] => do
      function depth p .function parameters [result] body line
      assigned name.text line
    | .asyncDefinition, [name, parameters, result, body] => do
      function depth p .asyncFunction parameters [result] body line
      assigned name.text line
    | .classDefinition, [name, bases, body] => do
      tree depth { owner := .classBody } body
      call depth p (Tree.elements bases) line
      assigned name.text line
    | .assignment, [places, value] => do
      tree depth p value
      (Tree.elements places).forM (assign depth p)
    | .augmentation, [place, _, value] => do
      tree depth p value
      if place.isName then assigned place.text place.line else tree depth p place
    | .annotated, place :: note :: value => do
      value.forM (tree depth p)
      assign depth p place
      tree depth p note
    | .deletion, _ => (Tree.elementsOf parts).forM (delete depth p)
    | .returning, _ => do
      if !p.isInFunction then outside "return" "function" line
      if p.isAsyncGenerator && !(Tree.elementsOf parts).isEmpty then fail .valueFromGenerator line
      parts.forM (tree depth p)
      if p.isInGroupHandler then fail .leavingGroupHandler line
    | .breaking, _ =>
      match p.exit with
      | .loop => .ok ()
      | .groupHandler => fail .leavingGroupHandler line
      | .nothing => outside "break" "loop" line
    | .continuing, _ =>
      match p.exit with
      | .loop => .ok ()
      | .groupHandler => fail .leavingGroupHandler line
      | .nothing => fail .continueOutside line
    | .globals, _ | .nonlocals, _ => .ok ()
    | .importing, _ => (Tree.elementsOf parts).forM importedName
    | .importingFrom, _ => do
      let source := parts.find? fun part => part.form? == some .dotted
      if (source.map fun part => (Tree.elementsOf part.parts).map Tree.text) ==
          some ["__future__".toList] then
        fail .lateFeature line
      (Tree.elementsOf parts).forM importedName
    | .loop, test :: body :: last => do
      tree depth p test
      tree depth { p with exit := .loop } body
      last.forM (tree depth p)
    | .iteration, place :: values :: body :: last => do
      tree depth p values
      assign depth p place
      tree depth { p with exit := .loop } body
      last.forM (tree depth p)
    | .asyncIteration, place :: values :: body :: last => do
      if p.owner != .asyncFunction then outside "async for" "async function" line
      tree depth p values
      assign depth p place
      tree depth { p with exit := .loop } body
      last.forM (tree depth p)
    | .asyncContext, _ => do
      if p.owner != .asyncFunction then outside "async with" "async function" line
      parts.forM (tree depth p)
    | .contextItem, [value, place] => do
      tree depth p value
      assign depth p place
    | .attempt, body :: handlers :: last => do
      tree depth p body
      let handlers := Tree.elements handlers
      let isDefault := fun (handler : Tree) =>
        (handler.parts.head?.map fun kind => kind.elements.isEmpty) == some true
      match handlers.dropLast.find? isDefault with
      | some handler => fail .lastHandler handler.line
      | none => handlers.forM (tree depth p)
      last.forM (tree depth p)
    | .handler, [kind, name, body] => do
      tree depth p kind
      (Tree.elements name).forM fun name => assigned name.text line
      tree depth p body
    | .groupHandler, [kind, name, body] => do
      tree depth p kind
      (Tree.elements name).forM fun name => assigned name.text line
      tree depth { p with exit := .groupHandler, isInGroupHandler := true } body
    | .matching, subject :: cases => do
      tree depth p subject
      let cases := Tree.elementsOf cases
      cases.zipIdx.forM fun (part, index) =>
        match part with
        | .node .matchCase _ (first :: rest) => do
          let isGuarded := rest.head?.any fun guard => !guard.elements.isEmpty
          let _ ← pattern depth (isGuarded || index + 1 == cases.length) [] first
          rest.forM (tree depth p)
        | _ => .ok ()
    | _, _ => parts.forM (tree depth p)

def spread : Nat → Place → Tree → Outcome
  | 0, _, _ => .ok ()
  | depth + 1, p, item =>
    match item with
    | .node .starred _ parts => parts.forM (tree depth p)
    | other => tree depth p other

def call : Nat → Place → List Tree → Nat → Outcome
  | 0, _, _, _ => .ok ()
  | depth + 1, p, arguments, line => do
    keywords arguments line
    arguments.forM (spread depth p)

def assign : Nat → Place → Tree → Outcome
  | 0, _, _ => .ok ()
  | depth + 1, p, place =>
    match place with
    | .leaf token => assigned token.text token.line
    | .node .starred line _ => fail .starredTarget line
    | .node .member _ [value, name] => do
      tree depth p value
      assigned name.text name.line
    | .node .tuple line parts | .node .list line parts => do
      let places := Tree.elementsOf parts
      if 1 < places.countP fun part => part.form? == some .starred then fail .starredTwice line
      places.forM fun
        | .node .starred _ inside => (Tree.elementsOf inside).forM (assign depth p)
        | other => assign depth p other
    | other => tree depth p other

def delete : Nat → Place → Tree → Outcome
  | 0, _, _ => .ok ()
  | depth + 1, p, place =>
    match place with
    | .leaf token => if token.text == fixedName then fail .deletedDebug token.line else .ok ()
    | .node .tuple _ parts | .node .list _ parts => (Tree.elementsOf parts).forM (delete depth p)
    | other => tree depth p other

/-- Checks a function: what belongs to the block around, and then its body. -/
def function : Nat → Place → Owner → Tree → List Tree → Tree → Nat → Outcome
  | 0, _, _, _, _, _, _ => .ok ()
  | depth + 1, p, owner, parameters, result, body, line => do
    let (names, defaults, notes) := Scope.Finder.parametersOf parameters
    names.forM fun name => assigned name.text line
    defaults.forM (tree depth p)
    notes.forM (spread depth p)
    result.forM (tree depth p)
    let isAsyncGenerator := owner == .asyncFunction && yields depth body
    tree depth { owner, isAsyncGenerator } body

/-- Checks a comprehension; what it runs over first belongs to the block around. -/
def comprehension : Nat → Place → Tree → Tree → Outcome
  | 0, _, _, _ => .ok ()
  | depth + 1, p, item, clauses => do
    let inside : Place :=
      { owner := if p.owner == .asyncFunction then .asyncFunction else .comprehension }
    let clauses := (Tree.elements clauses).map Tree.parts
    clauses.zipIdx.forM fun (parts, index) =>
      match parts with
      | place :: values :: tests => do
        if index != 0 then tree depth inside values
        assign depth inside place
        tests.forM (tree depth inside)
      | _ => .ok ()
    tree depth inside item
    match clauses with
    | (_ :: values :: _) :: _ => tree depth p values
    | _ => .ok ()

end

def fault? (depth : Nat) (script : Tree) : Option Fault :=
  match Scope.fault? depth script with
  | some fault => some fault
  | none =>
    match tree depth { owner := .script } script with
    | .error fault => some fault
    | .ok () => none

end Check

end Forwarding.Script
