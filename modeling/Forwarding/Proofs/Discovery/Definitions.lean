import Forwarding.Discovery.Scan

/-! The class definitions that a scan of one header finds, said by where they stand.

The walk goes from the root inwards, so that a definition is found just when it and everything around it
is looked at and its methods are collected. What is around a class counts only for where it stands: its name,
and whether it is hidden, are up to what it belongs to.
-/

set_option autoImplicit false

namespace Forwarding

namespace Cursor

/-- Inside a cursor, which has the entities `outer` around it, another one stands with the entities that are
around that, the innermost first. -/
inductive Stands : List Entity → Cursor → List Entity → Cursor → Prop where
  | here {outer : List Entity} {c : Cursor} : Stands outer c outer c
  | inside {outer enclosing : List Entity} {e : Entity} {members : List Cursor} {c inner : Cursor} :
      c ∈ members → Stands (e :: outer) c enclosing inner → Stands outer (.node e members) enclosing inner

namespace Stands

variable {outer enclosing : List Entity} {e : Entity} {members : List Cursor} {c inner : Cursor}

theorem suffix (stands : Stands outer c enclosing inner) : outer <:+ enclosing := by
  induction stands with
  | here => exact List.suffix_rfl
  | inside _ _ ih => exact (List.suffix_cons _ _).trans ih

theorem node_iff : Stands outer (.node e members) enclosing inner ↔
    (enclosing = outer ∧ inner = .node e members) ∨
      ∃ c ∈ members, Stands (e :: outer) c enclosing inner := by
  constructor
  · rintro (_ | ⟨member, stands⟩)
    · exact .inl ⟨rfl, rfl⟩
    · exact .inr ⟨_, member, stands⟩
  · rintro (⟨rfl, rfl⟩ | ⟨c, member, stands⟩)
    · exact .here
    · exact .inside member stands

end Stands

/-! ### Trees in which everything belongs to what it stands in -/

/-- The owners of everything in a cursor are the entities around it. -/
def Matching (root : Cursor) : Prop :=
  ∀ {enclosing : List Entity} {inner : Cursor}, Stands [] root enclosing inner →
    inner.entity.owners = enclosing.map Entity.scope

theorem mem_nestedIn_iff {owners : List Scope} {members : List Cursor} {c : Cursor} :
    c ∈ nestedIn owners members ↔ ∃ d ∈ members, nested owners d = c := by
  induction members with
  | nil => simp [nestedIn]
  | cons d members ih => simp [nestedIn, ih, eq_comm]

theorem owners_of_stands {outer enclosing : List Entity} {c tree inner : Cursor}
    (stands : Stands outer tree enclosing inner) (made : tree = nested (outer.map Entity.scope) c) :
    inner.entity.owners = enclosing.map Entity.scope := by
  induction stands generalizing c with
  | here =>
    obtain ⟨e, members⟩ := c
    rw [made]
    rfl
  | @inside outer enclosing e members child inner member stands ih =>
    obtain ⟨own, own'⟩ := c
    rw [nested, node.injEq] at made
    obtain ⟨rfl, rfl⟩ := made
    obtain ⟨d, -, same⟩ := mem_nestedIn_iff.mp member
    exact ih same.symm

theorem matching_nested (c : Cursor) : (nested [] c).Matching := fun stands => owners_of_stands stands rfl

end Cursor

namespace Scan

open Cursor (Entity Scope)

/-- A class definition with the entities around it, the innermost first. -/
structure Definition where
  enclosing : List Entity
  entity : Entity
  members : List Cursor

namespace Definition

variable (d : Definition)

def cursor : Cursor := .node d.entity d.members

/-- The class name under which its methods are collected. -/
def subject : Text := subjectOf d.entity

/-- What it contributes under its name. -/
def methods (o : ScanOptions) : List Declaration := (methodsOf o d.entity d.members).2

theorem mem_methods_iff {d : Definition} {o : ScanOptions} {m : Declaration} :
    m ∈ d.methods o ↔ ∃ c ∈ d.members, isForwardable c.entity = true ∧
      declarationOf d.subject (headingFor o (fileOf d.entity)) c.entity = m := by
  simp only [methods, methodsOf, subject, List.mem_map, List.mem_filter]
  constructor
  · rintro ⟨e, ⟨⟨c, member, rfl⟩, forwardable⟩, made⟩
    exact ⟨c, member, forwardable, made⟩
  · rintro ⟨c, member, forwardable, made⟩
    exact ⟨_, ⟨⟨c, member, rfl⟩, forwardable⟩, made⟩

/-- What makes a scan collect the methods of a definition: it has a name, it and everything around it is looked
at, it is not itself a non-public member of a class, and it is not left out by its name. -/
structure Collected (o : ScanOptions) : Prop where
  defines : isClassDefinition d.entity = true
  considered : ∀ e ∈ d.entity :: d.enclosing, considers o e = true
  shown : isHidden d.entity = false
  included : isExcluded o d.entity = false

instance (d : Definition) (o : ScanOptions) : Decidable (d.Collected o) :=
  decidable_of_iff (isClassDefinition d.entity = true ∧
      (∀ e ∈ d.entity :: d.enclosing, considers o e = true) ∧
      isHidden d.entity = false ∧ isExcluded o d.entity = false)
    ⟨fun ⟨defines, considered, shown, included⟩ => ⟨defines, considered, shown, included⟩,
      fun ⟨defines, considered, shown, included⟩ => ⟨defines, considered, shown, included⟩⟩

structure Scanned (o : ScanOptions) (u : HeaderUnit) : Prop extends d.Collected o where
  stands : ∃ root, u.root = some root ∧ Cursor.Stands [] root d.enclosing d.cursor

end Definition

variable {o : ScanOptions} {entry : Text × List Declaration}

theorem Definition.collected_iff {d : Definition} (looked : ∀ e ∈ d.entity :: d.enclosing, considers o e = true) :
    d.Collected o ↔ isCollected o d.entity = true := by
  rw [isCollected, Bool.and_eq_true, Bool.and_eq_true, Bool.not_eq_true', Bool.not_eq_true']
  exact ⟨fun ⟨defines, _, shown, included⟩ => ⟨⟨defines, shown⟩, included⟩,
    fun ⟨⟨defines, shown⟩, included⟩ => ⟨defines, looked, shown, included⟩⟩

theorem Definition.mem_of_stands {d : Definition} {outer : List Entity} {e : Entity} {members : List Cursor}
    (stands : Cursor.Stands outer (.node e members) d.enclosing d.cursor) : e ∈ d.entity :: d.enclosing := by
  rcases Cursor.Stands.node_iff.mp stands with ⟨-, same⟩ | ⟨c, -, below⟩
  · rw [Definition.cursor, Cursor.node.injEq] at same
    exact same.1 ▸ List.mem_cons_self
  · exact List.mem_cons_of_mem _ (below.suffix.subset List.mem_cons_self)

mutual

theorem mem_found_iff : ∀ (c : Cursor) {outer : List Entity}, (∀ e ∈ outer, considers o e = true) →
    (entry ∈ found o c ↔
      ∃ d : Definition, d.Collected o ∧ Cursor.Stands outer c d.enclosing d.cursor ∧
        entry = (d.subject, d.methods o))
  | .node e members, outer, looked => by
    rw [found]
    split
    case isFalse passed =>
      -- What is passed over is not entered, and all that stands in it has it around.
      refine ⟨nofun, fun ⟨d, collected, stands, _⟩ => absurd ?_ passed⟩
      exact collected.considered e (Definition.mem_of_stands stands)
    case isTrue here =>
      have inner : ∀ a ∈ e :: outer, considers o a = true := List.forall_mem_cons.mpr ⟨here, looked⟩
      have own := Definition.collected_iff (d := ⟨outer, e, members⟩) inner
      rw [List.mem_append, mem_foundIn_iff members inner]
      constructor
      · rintro (member | ⟨d, collected, ⟨c, inside, stands⟩, same⟩)
        · split at member
          · next collects => exact ⟨_, own.mpr collects, .here, List.mem_singleton.mp member⟩
          · cases member
        · exact ⟨d, collected, .inside inside stands, same⟩
      · rintro ⟨d, collected, stands, same⟩
        rcases Cursor.Stands.node_iff.mp stands with ⟨around, cursor⟩ | ⟨c, inside, below⟩
        · obtain ⟨enclosing, entity, children⟩ := d
          obtain rfl : enclosing = outer := around
          rw [Definition.cursor, Cursor.node.injEq] at cursor
          obtain ⟨rfl, rfl⟩ := cursor
          rw [if_pos (own.mp collected)]
          exact .inl (List.mem_singleton.mpr same)
        · exact .inr ⟨d, collected, ⟨c, inside, below⟩, same⟩

theorem mem_foundIn_iff : ∀ (members : List Cursor) {outer : List Entity},
    (∀ e ∈ outer, considers o e = true) →
    (entry ∈ foundIn o members ↔
      ∃ d : Definition, d.Collected o ∧ (∃ c ∈ members, Cursor.Stands outer c d.enclosing d.cursor) ∧
        entry = (d.subject, d.methods o))
  | [], outer, _ => by simp [foundIn]
  | c :: rest, outer, looked => by
    rw [foundIn, List.mem_append, mem_found_iff c looked, mem_foundIn_iff rest looked, ← exists_or]
    refine exists_congr fun d => ?_
    rw [← and_or_left, ← or_and_right]
    simp only [List.mem_cons, exists_eq_or_imp]

end

end Scan

/-! ### Small headers -/

namespace Cursor

def classOf (isPublic : Bool) (name : Text) (members : List Cursor) : Cursor :=
  .node { kind := .classDecl, name, isPublic, place := some ⟨"/sdk/pool.hpp", 1⟩ } members

def methodOf (name : Text) (parameters : List Text) : Cursor :=
  .node { kind := .method, name, parameters, place := some ⟨"/sdk/pool.hpp", 2⟩ } []

def namespaceOf (name : Text) (members : List Cursor) : Cursor :=
  .node { kind := .namespaceScope, name } members

end Cursor

/-- Entities that stand in those behind them, and belong to them. -/
def Cursor.owned : List Cursor.Entity → List Cursor.Entity
  | [] => []
  | e :: outer => { e with owners := outer.map Entity.scope } :: owned outer

/-- The definition of a class that stands in some entities, and belongs to them. -/
def Scan.Definition.inside (enclosing : List Cursor.Entity) (e : Cursor.Entity) (members : List Cursor) :
    Scan.Definition where
  enclosing := Cursor.owned enclosing
  entity := { e with owners := enclosing.map Cursor.Entity.scope }
  members := Cursor.nestedIn ((e :: enclosing).map Cursor.Entity.scope) members

/-- A header that declares some entities, each of which belongs to what it stands in. -/
def HeaderUnit.of (members : List Cursor) : HeaderUnit :=
  { root := some (.nested [] (.node { kind := .wholeUnit } members)), diagnostics := [] }

end Forwarding
