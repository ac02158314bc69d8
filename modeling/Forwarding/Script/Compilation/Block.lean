import Forwarding.Script.Machine.Code
import Forwarding.Script.Scope

/-! The blocks that code is made for, and where their names are kept.

A name belongs to the innermost block around that gives it a value. The names of a function have places of
their own, those of a class are looked up by name, and all others are names of the script.
-/

set_option autoImplicit false

namespace Forwarding.Script

open Text

structure Block where
  kind : Scope.Block
  /-- The path of the block with a mark behind it, which the paths of blocks inside begin with. -/
  path : Text
  /-- The names with a place of their own. -/
  slots : List Text := []
  /-- The names that a class gives a value. -/
  bound : List Text := []
  /-- The names that are declared to be those of the script. -/
  shared : List Text := []
  /-- The names that are declared to be those of a function around. -/
  outer : List Text := []
  /-- Whether the names of the script are looked up in a collection of names first. -/
  isApart : Bool := false

namespace Block

def script : Block := ⟨.script, [], [], [], [], [], false⟩

/-- The place of a name in the blocks around. The number counts the blocks that have been left. -/
def placeAround? : List Block → Nat → Text → Option (Nat × Nat)
  | [], _, _ => none
  | b :: around, out, name =>
    match b.kind with
    | .script => placeAround? around out name
    | .classBody => search b around out name
    | _ => if b.shared.contains name then none else search b around out name
where
  search (b : Block) (around : List Block) (out : Nat) (name : Text) : Option (Nat × Nat) :=
    match b.slots.idxOf? name with
    | some index => some (out, index)
    | none => placeAround? around (out + 1) name

def address (around : List Block) (name : Text) : Address :=
  match around with
  | [] => .shared name
  | b :: outside =>
    let elsewhere : Address :=
      match placeAround? outside 1 name with
      | some (out, index) => .slot out index name
      | none => .shared name
    match b.kind with
    | .script => if b.isApart then .named name none else .shared name
    | .classBody =>
      if b.shared.contains name then .shared name
      else if b.outer.contains name then elsewhere
      else if b.bound.contains name then .named name none
      else .named name (placeAround? outside 1 name)
    | _ =>
      if b.shared.contains name then .shared name
      else
        match b.slots.idxOf? name with
        | some index => .slot 0 index name
        | none => elsewhere

def pathOf (around : List Block) (name : Text) : Text :=
  match around with
  | [] => name
  | b :: _ => if b.shared.contains name then name else b.path ++ name

def scopeOf (kind : Scope.Block) (visit : Scope.Finder Unit) : Scope :=
  match visit.run [.start kind false] with
  | .ok (_, s :: _) => s
  | _ => .start kind false

def function (path : Text) (parameters : List Text) (visit : Scope.Finder Unit) : Block :=
  let s := scopeOf .function do
    parameters.forM fun name => Scope.Finder.give name .parameter
    visit
  { kind := .function
    path := path ++ ".<locals>."
    slots := parameters ++ s.bound.filter fun name => !parameters.contains name
    shared := s.names.filter fun name => s.has name .shared
    outer := s.names.filter fun name => s.has name .outer }

def ownName : Text := "__class__"

def classBody (path : Text) (visit : Scope.Finder Unit) : Block :=
  let s := scopeOf .classBody visit
  { kind := .classBody
    path := path ++ ['.']
    slots := [ownName]
    bound := s.bound
    shared := s.names.filter fun name => s.has name .shared
    outer := s.names.filter fun name => s.has name .outer }

/-- The first name of a comprehension: the iterator that it gets. -/
def sourceName : Text := ".0"

/-- The block of a comprehension; the names that run over items are its own. -/
def comprehension (path : Text) (visit : Scope.Finder Unit) : Block :=
  let s := scopeOf (.comprehension []) visit
  { kind := .comprehension []
    path := path ++ ['.']
    slots := sourceName :: s.names.filter fun name => s.has name .iterated }

end Block

/-- Names that belong to a class only: they begin with two underscores and do not end with two. -/
def isPrivate (name : Text) : Bool :=
  "__".toList.isPrefixOf name && !"__".toList.isSuffixOf name && !name.contains '.'

def privateName (owner name : Text) : Text :=
  let owner := owner.dropWhile (· == '_')
  if owner.isEmpty || !isPrivate name then name else '_' :: owner ++ name

/-- A tree in which the private names of a class are written out. Classes inside have their own. -/
def withPrivateNames (owner : Text) : Nat → Tree → Tree
  | 0, tree => tree
  | depth + 1, tree =>
    match tree with
    | .leaf token =>
      if token.kind == .name then .leaf { token with text := privateName owner token.text } else tree
    | .constant line value => .constant line value
    | .group parts => .group (parts.map (withPrivateNames owner depth))
    | .node .classDefinition line [name, bases, body] =>
      .node .classDefinition line
        [withPrivateNames owner depth name, withPrivateNames owner depth bases, body]
    | .node form line parts => .node form line (parts.map (withPrivateNames owner depth))

/-! The parameters of functions, read off their trees. -/

/-- What the parameters of a function say. -/
structure Parameters where
  signature : Signature := {}
  /-- The values of the last of the parameters that take arguments by their place. -/
  defaults : List Tree := []
  /-- The values of parameters that have to be named. -/
  namedDefaults : List (Text × Tree) := []
  /-- The annotations of parameters. -/
  notes : List (Text × Tree) := []
  /-- Whether the parameters that follow have to be named. -/
  isNamed : Bool := false

namespace Parameters

def note (p : Parameters) (name : Text) (parts : List Tree) : Parameters :=
  { p with notes := p.notes ++ (Tree.elementsOf parts).map fun note => (name, note) }

def addOne (p : Parameters) (name : Text) (value : Option Tree) : Parameters :=
  let s := p.signature
  if p.isNamed then
    { p with
      signature := { s with onlyNamed := s.onlyNamed ++ [name] }
      namedDefaults := p.namedDefaults ++ (value.map fun v => (name, v)).toList }
  else
    { p with
      signature := { s with placed := s.placed ++ [name] }
      defaults := p.defaults ++ value.toList }

/-- The parameters with those of several parts more. The flag says that a star has just been seen. -/
def add (p : Parameters) (isStarred : Bool) : List Tree → Parameters
  | [] => p
  | part :: more =>
    let s := p.signature
    match part with
    | .leaf token =>
      if token.text == ['*'] then add { p with isNamed := true } true more
      else add { p with signature := { s with onlyPlaced := s.placed.length } } false more
    | .node .parameter _ (name :: notes) =>
      let p := p.note name.text notes
      if isStarred then add { p with signature := { s with rest := some name.text } } false more
      else add (p.addOne name.text none) false more
    | .node .defaulted _ (.node .parameter _ (name :: notes) :: values) =>
      let p := p.note name.text notes
      add (p.addOne name.text (Tree.elementsOf values).head?) false more
    | .node .doubleStarredParameter _ [.node .parameter _ (name :: notes)] =>
      let p := p.note name.text notes
      add { p with signature := { s with namedRest := some name.text } } false more
    | _ => add p false more

def ofTree (tree : Tree) : Parameters :=
  add {} false <| tree.elements.flatMap fun part =>
    match part with
    | .node .parameters _ parts => Tree.elementsOf parts
    | other => other.elements

end Parameters

end Forwarding.Script
