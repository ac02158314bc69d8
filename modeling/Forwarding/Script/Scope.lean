import Forwarding.Script.Fault
import Forwarding.Script.Tree

/-! The names of the blocks of a script.

A script, a function, a class and a comprehension are blocks. Each name that a block mentions has roles
there: it may be a parameter, be used, get a value, or be declared to belong to the whole script or to a
function around. The roles are found in the order of the text, since a declaration that comes too late is
a fault; whether a function around has a name is only known when all of the script has been seen.
-/

set_option autoImplicit false

namespace Forwarding.Script

open Text

/-- What a block does with a name. -/
inductive Role where
  | parameter | used | assigned | annotated | imported
  /-- Declared to be a name of the whole script. -/
  | shared
  /-- Declared to be a name of a function around. -/
  | outer
  /-- Runs over the items of a comprehension. -/
  | iterated
  deriving Repr, DecidableEq

inductive Scope.Block where
  | script | function | classBody
  /-- A comprehension, and what it is called. -/
  | comprehension (called : Text)
  deriving Repr, DecidableEq

inductive Scope where
  | mk (block : Scope.Block) (roles : List (Text × Role)) (declared : List (Text × Nat))
      (isIterable : Bool) (inner : List Scope)

namespace Scope

def block : Scope → Block
  | .mk block _ _ _ _ => block

def roles : Scope → List (Text × Role)
  | .mk _ roles _ _ _ => roles

/-- The names in declarations that they belong elsewhere, and the lines of these, the latest first. -/
def declared : Scope → List (Text × Nat)
  | .mk _ _ declared _ _ => declared

/-- Whether the block is in what a comprehension runs over. -/
def isIterable : Scope → Bool
  | .mk _ _ _ isIterable _ => isIterable

def inner : Scope → List Scope
  | .mk _ _ _ _ inner => inner

def start (block : Block) (isIterable : Bool) : Scope := .mk block [] [] isIterable []

def has (s : Scope) (name : Text) (role : Role) : Bool := s.roles.contains (name, role)

def give (name : Text) (role : Role) : Scope → Scope
  | .mk block roles declared isIterable inner =>
    .mk block ((name, role) :: roles) declared isIterable inner

def declare (name : Text) (line : Nat) : Scope → Scope
  | .mk block roles declared isIterable inner =>
    .mk block roles ((name, line) :: declared) isIterable inner

def holding : Scope → Scope → Scope
  | .mk block roles declared isIterable inner, child =>
    .mk block roles declared isIterable (child :: inner)

def within (isIterable : Bool) : Scope → Scope
  | .mk block roles declared _ inner => .mk block roles declared isIterable inner

/-- Whether a name gets a value in the block and so belongs to it. -/
def binds (s : Scope) (name : Text) : Bool :=
  !s.has name .shared && !s.has name .outer &&
    s.roles.any fun (other, role) => other == name && role != .used

def names (s : Scope) : List Text := (s.roles.map Prod.fst).reverse.eraseDups

def bound (s : Scope) : List Text := s.names.filter s.binds

def lineOf (s : Scope) (name : Text) : Nat := (s.declared.reverse.lookup name).getD 0

mutual

/-- Finds a declaration of a name that no function around has. The names of the functions around are
given, none for the script itself. -/
def unresolved (around : Option (List Text)) : Scope → Option Fault
  | .mk block roles declared isIterable inner =>
    let s := Scope.mk block roles declared isIterable []
    let known := around.getD []
    let fault := s.names.findSome? fun name =>
      if !s.has name .outer then none
      else if s.has name .shared then some ⟨.globalAndNonlocal name, s.lineOf name⟩
      else
        match around with
        | none => some ⟨.mistake .nonlocalInModule, s.lineOf name⟩
        | some names =>
          if names.contains name then none else some ⟨.unboundNonlocal name, s.lineOf name⟩
    let visible := match block with
      | .script | .classBody => known
      | _ => (s.bound ++ known).filter fun name => !s.has name .shared
    fault <|> unresolvedIn visible inner

/-- The same in several blocks, the latest of which is the first in the list. -/
def unresolvedIn (around : List Text) : List Scope → Option Fault
  | [] => none
  | s :: earlier => unresolvedIn around earlier <|> unresolved (some around) s

end

abbrev Finder (α : Type) := StateT (List Scope) (Except Fault) α

namespace Finder

def fail {α : Type} (reason : Fault.Reason) (line : Nat) : Finder α := throw ⟨reason, line⟩

def innermost : Finder Scope := return ((← get).head?).getD (.start .script false)

def change (f : Scope → Scope) : Finder Unit := modify fun
  | s :: around => f s :: around
  | [] => []

def give (name : Text) (role : Role) : Finder Unit := change (Scope.give name role)

def enter (block : Block) (visit : Finder Unit) : Finder Unit := do
  let s ← innermost
  modify (Scope.start block s.isIterable :: ·)
  visit
  modify fun
    | child :: s :: around => s.holding child :: around
    | other => other

def iterable (visit : Finder Unit) : Finder Unit := do
  let s ← innermost
  change (Scope.within true)
  visit
  change (Scope.within s.isIterable)

/-- A declaration that names belong elsewhere: they must have no role before. -/
def declare (role : Role) (late : Text → GlobalFault → Fault.Reason) (line : Nat) (name : Text) :
    Finder Unit := do
  let s ← innermost
  let fault : Option GlobalFault :=
    if s.has name .parameter then some .parameter
    else if s.has name .used then some .used
    else if s.has name .annotated then some .annotated
    else if s.has name .assigned then some .assigned
    else none
  match fault with
  | some fault => fail (late name fault) line
  | none =>
    give name role
    change (Scope.declare name line)

/-- Gives the innermost function or the script a name that gets a value inside comprehensions. -/
def assignAround (name : Text) (line : Nat) : List Scope → Except Fault (List Scope)
  | [] => .ok []
  | s :: around =>
    match s.block with
    | .comprehension _ =>
      if s.has name .iterated then .error ⟨.reboundName name, line⟩
      else (assignAround name line around).map (s :: ·)
    | .classBody => .error ⟨.mistake .nameInClass, line⟩
    | _ => .ok (s.give name .assigned :: around)

def assignInside (name : Text) (line : Nat) : Finder Unit := do
  let s ← innermost
  if s.isIterable then fail (.mistake .nameInIterable) line
  else
    match s.block with
    | .comprehension _ => set (← assignAround name line (← get))
    | _ => return ()

def parameter (name : Tree) : Finder Unit := do
  if (← innermost).has name.text .parameter then fail (.repeatedParameter name.text) name.line
  else give name.text .parameter

def importName (tree : Tree) : Finder Unit :=
  match tree with
  | .node .imported _ parts =>
    match (Tree.elementsOf parts).reverse with
    | [.node .dotted _ names] => give ((Tree.elementsOf names).head?.map Tree.text |>.getD []) .imported
    | last :: _ => give last.text .imported
    | [] => return ()
  | _ => return ()

/-- The parameters of a function, each with its default if it has one, and the annotations. -/
def parametersOf (tree : Tree) : List Tree × List Tree × List Tree :=
  (Tree.elements tree).foldl (fun (names, defaults, notes) part =>
    match part with
    | .node .parameters _ parts => (Tree.elementsOf parts).foldl one (names, defaults, notes)
    | other => one (names, defaults, notes) other) ([], [], [])
where
  plain (found : List Tree × List Tree × List Tree) (parts : List Tree) :=
    match Tree.elementsOf parts with
    | name :: notes => (found.1 ++ [name], found.2.1, found.2.2 ++ notes)
    | [] => found
  one (found : List Tree × List Tree × List Tree) (part : Tree) :=
    match part with
    | .node .parameter _ parts => plain found parts
    | .node .doubleStarredParameter _ [.node .parameter _ parts] => plain found parts
    | .node .defaulted _ (.node .parameter _ parts :: values) =>
      let (names, defaults, notes) := plain found parts
      (names, defaults ++ Tree.elementsOf values, notes)
    | _ => found

mutual

/-- Visits a tree. The number bounds the depth. -/
def visit : Nat → Tree → Finder Unit
  | 0, _ => return ()
  | _, .constant _ _ => return ()
  | _, .leaf token => if token.isFreeName then give token.text .used else return ()
  | depth + 1, .group parts => parts.forM (visit depth)
  | depth + 1, .node form line parts =>
    match form, parts with
    | .member, value :: _ => visit depth value
    | .keyword, [_, value] => visit depth value
    | .naming, [name, value] => do
      assignInside name.text line
      visit depth value
      give name.text .assigned
    | .yielding, _ | .yieldingFrom, _ => do
      parts.forM (visit depth)
      match (← innermost).block with
      | .comprehension called => fail (.yieldInside called) line
      | _ => return ()
    | .listOf, [item, clauses] => comprehension depth "list comprehension" [item] clauses
    | .setOf, [item, clauses] => comprehension depth "set comprehension" [item] clauses
    | .generator, [item, clauses] => comprehension depth "generator expression" [item] clauses
    | .dictionaryOf, [pair, clauses] =>
      comprehension depth "dict comprehension" pair.parts.reverse clauses
    | .function, [parameters, body] => inFunction depth parameters [] body
    | .definition, [name, parameters, result, body]
    | .asyncDefinition, [name, parameters, result, body] => do
      give name.text .assigned
      inFunction depth parameters [result] body
    | .classDefinition, [name, bases, body] => do
      give name.text .assigned
      visit depth bases
      enter .classBody (visit depth body)
    | .assignment, [places, value] => do
      assign depth places
      visit depth value
    | .augmentation, [place, _, value] => do
      assign depth place
      visit depth value
    | .annotated, place :: note :: value => do
      if place.isName then
        let s ← innermost
        if s.block != .script && s.has place.text .shared then
          fail (.lateGlobal place.text .annotated) line
        else if s.block != .script && s.has place.text .outer then
          fail (.lateNonlocal place.text .annotated) line
        else give place.text .annotated
      else visit depth place
      visit depth note
      value.forM (visit depth)
    | .deletion, _ => parts.forM (assign depth)
    | .globals, _ =>
      (Tree.elementsOf parts).forM fun name => declare .shared .lateGlobal line name.text
    | .nonlocals, _ =>
      (Tree.elementsOf parts).forM fun name => declare .outer .lateNonlocal line name.text
    | .importing, _ => (Tree.elementsOf parts).forM importName
    | .importingFrom, _ => do
      if (Tree.elementsOf parts).any (fun part => part.form? == some .everything) &&
          (← innermost).block != .script then
        fail (.mistake .importAll) line
      else (Tree.elementsOf parts).forM importName
    | .iteration, place :: rest | .asyncIteration, place :: rest => do
      assign depth place
      rest.forM (visit depth)
    | .contextItem, [value, place] => do
      visit depth value
      assign depth place
    | .handler, [kind, name, body] | .groupHandler, [kind, name, body] => do
      visit depth kind
      (Tree.elements name).forM fun name => give name.text .assigned
      visit depth body
    | .wildcardPattern, _ => return ()
    | .capturePattern, _ | .restPattern, _ =>
      (Tree.elementsOf parts).forM fun name => give name.text .assigned
    | .asPattern, [inside, name] => do
      visit depth inside
      give name.text .assigned
    | .starredPattern, [inside] =>
      match inside with
      | .leaf token => give token.text .assigned
      | _ => return ()
    | .valuePattern, first :: _ => visit depth first
    | .keywordPattern, [_, inside] => visit depth inside
    | _, _ => parts.forM (visit depth)

def assign : Nat → Tree → Finder Unit
  | 0, _ => return ()
  | depth + 1, tree =>
    match tree with
    | .leaf token => give token.text .assigned
    | .group parts | .node .tuple _ parts | .node .list _ parts | .node .starred _ parts =>
      parts.forM (assign depth)
    | other => visit depth other

/-- Visits a place that runs over the items of a comprehension. -/
def iterate : Nat → Tree → Finder Unit
  | 0, _ => return ()
  | depth + 1, tree =>
    match tree with
    | .leaf token => do
      give token.text .assigned
      give token.text .iterated
    | .group parts | .node .tuple _ parts | .node .list _ parts | .node .starred _ parts =>
      parts.forM (iterate depth)
    | other => visit depth other

/-- Visits a function: defaults and annotations belong to the block around. -/
def inFunction : Nat → Tree → List Tree → Tree → Finder Unit
  | 0, _, _, _ => return ()
  | depth + 1, parameters, result, body => do
    let (names, defaults, notes) := parametersOf parameters
    defaults.forM (visit depth)
    notes.forM (visit depth)
    result.forM (visit depth)
    enter .function do
      names.forM parameter
      visit depth body

/-- Visits a comprehension. What it runs over first belongs to the block around. -/
def comprehension : Nat → String → List Tree → Tree → Finder Unit
  | 0, _, _, _ => return ()
  | depth + 1, called, items, clauses =>
    match (Tree.elements clauses).map Tree.parts with
    | (place :: values :: tests) :: more => do
      iterable (visit depth values)
      enter (.comprehension called.toList) do
        iterate depth place
        tests.forM (visit depth)
        more.forM fun
          | place :: values :: tests => do
            iterate depth place
            iterable (visit depth values)
            tests.forM (visit depth)
          | _ => return ()
        items.forM (visit depth)
    | _ => return ()

end

end Finder

def fault? (depth : Nat) (script : Tree) : Option Fault :=
  match (Finder.visit depth script).run [.start .script false] with
  | .error fault => some fault
  | .ok (_, scopes) => scopes.head?.bind (unresolved none)

end Scope

end Forwarding.Script
