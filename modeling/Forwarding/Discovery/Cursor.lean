import Forwarding.Text.Basic

/-! Cursors: what a parser shows of a header.

A cursor is an entity of the source with the entities inside it. Only namespaces, classes and member
functions matter here; every other kind is kept by its name. What an entity belongs to need not be what it
stands in: a nested class can be defined outside its class.
-/

set_option autoImplicit false

namespace Forwarding

open Text

namespace Cursor

inductive Kind where
  | wholeUnit
  | namespaceScope
  | classDecl
  | structDecl
  | method
  | methodTemplate
  | other (name : Text)
  deriving Repr, DecidableEq

def Kind.isClass : Kind → Bool
  | .classDecl | .structDecl => true
  | _ => false

def Kind.classWord : Kind → Text
  | .classDecl => "class_decl"
  | _ => "struct_decl"

/-- A file and a line in it. -/
structure Place where
  file : Text
  line : Nat
  deriving Repr, DecidableEq

/-- What is asked of an entity that others belong to. -/
structure Scope where
  kind : Kind
  name : Text
  deriving Repr, DecidableEq

structure Entity where
  kind : Kind
  name : Text := []
  /-- What the entity belongs to, the innermost first. -/
  owners : List Scope := []
  place : Option Place := none
  isPublic : Bool := true
  result : Text := "void"
  parameters : List Text := []
  isStatic : Bool := false
  isVariadic : Bool := false
  isDefinition : Bool := true
  deriving Repr, DecidableEq

def Entity.scope (e : Entity) : Scope := ⟨e.kind, e.name⟩

end Cursor

/-- An entity and those inside it. -/
inductive Cursor where
  | node (entity : Cursor.Entity) (children : List Cursor)
  deriving Repr

instance : Inhabited Cursor := ⟨.node { kind := .wholeUnit } []⟩

namespace Cursor

def entity : Cursor → Entity
  | node entity _ => entity

def children : Cursor → List Cursor
  | node _ children => children

mutual

/-- The cursor in which everything belongs to what it stands in, and the root to some owners. -/
def nested (owners : List Scope) : Cursor → Cursor
  | node e members => node { e with owners } (nestedIn (e.scope :: owners) members)

def nestedIn (owners : List Scope) : List Cursor → List Cursor
  | [] => []
  | c :: rest => nested owners c :: nestedIn owners rest

end

end Cursor

/-- A parsed header. -/
structure HeaderUnit where
  root : Option Cursor
  diagnostics : List Text
  deriving Repr

end Forwarding
