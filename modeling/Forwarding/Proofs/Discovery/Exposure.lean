import Forwarding.Proofs.Discovery.Headers

/-! From which class definitions the rows come, and which of them cannot be named from outside.

A class is out of reach if it, or a class around it, is a non-public member of a class. Only the former is looked
at where methods are collected, and what stands in a class that is passed over for it is walked through all the
same; so rows come from classes out of reach just when one that is public stands somewhere in a hidden one. Being
a member is read off the tree here; a scan asks what the class belongs to, which is the same where every class is
defined in the one it belongs to.
-/

set_option autoImplicit false

namespace Forwarding.Scan

open Text
open Cursor (Entity)

variable {o : ScanOptions} {units : List HeaderUnit} {d : Definition} {r : Declaration}

/-- An entity that stands in those of `outer` is a non-public member of a class. -/
def IsPrivate (outer : List Entity) (e : Entity) : Prop :=
  e.isPublic = false ∧ ∃ around ∈ outer.head?, around.kind.isClass = true

/-- One of some entities, each of which stands in those behind it, is a class and a non-public member of another. -/
def Hides (entities : List Entity) : Prop :=
  ∃ e outer, e :: outer <:+ entities ∧ e.kind.isClass = true ∧ IsPrivate outer e

theorem hides_cons {e : Entity} {outer : List Entity} :
    Hides (e :: outer) ↔ (e.kind.isClass = true ∧ IsPrivate outer e) ∨ Hides outer := by
  constructor
  · rintro ⟨inner, around, suffix, isClass, hidden⟩
    rcases List.suffix_cons_iff.mp suffix with same | deeper
    · obtain ⟨rfl, rfl⟩ := List.cons.inj same
      exact .inl ⟨isClass, hidden⟩
    · exact .inr ⟨inner, around, deeper, isClass, hidden⟩
  · rintro (⟨isClass, hidden⟩ | ⟨inner, around, suffix, isClass, hidden⟩)
    · exact ⟨e, outer, List.suffix_rfl, isClass, hidden⟩
    · exact ⟨inner, around, suffix.trans (List.suffix_cons _ _), isClass, hidden⟩

theorem isHidden_iff {e : Entity} {outer : List Entity} (belongs : e.owners = outer.map Entity.scope) :
    isHidden e = true ↔ IsPrivate outer e := by
  rw [isHidden, IsPrivate, belongs]
  cases outer <;> simp [Entity.scope]

/-- The class or one around it is a non-public member of another class. -/
def Definition.Inaccessible (d : Definition) : Prop := Hides (d.entity :: d.enclosing)

theorem Definition.Collected.inaccessible_iff (collected : d.Collected o)
    (belongs : d.entity.owners = d.enclosing.map Entity.scope) : d.Inaccessible ↔ Hides d.enclosing := by
  have shown : ¬ IsPrivate d.enclosing d.entity := by
    rw [← isHidden_iff belongs, collected.shown]
    exact Bool.false_ne_true
  simp [Definition.Inaccessible, hides_cons, shown]

/-- Everything in a header belongs to what it stands in. -/
def Matching (u : HeaderUnit) : Prop := ∀ root, u.root = some root → root.Matching

theorem matching_of (members : List Cursor) : Matching (.of members) := by
  rintro root ⟨rfl⟩
  exact Cursor.matching_nested _

theorem Definition.Scanned.owners_eq {u : HeaderUnit} (scanned : d.Scanned o u) (matching : Matching u) :
    d.entity.owners = d.enclosing.map Entity.scope :=
  let ⟨root, given, stands⟩ := scanned.stands
  matching root given stands

/-! ### Where the rows come from -/

def Counts (o : ScanOptions) (units : List HeaderUnit) (d : Definition) : Prop :=
  ∃ u, firstShowing o units d.subject = some u ∧ d.Scanned o u

theorem Counts.collected (counts : Counts o units d) : d.Collected o :=
  let ⟨_, _, scanned⟩ := counts
  scanned.toCollected

theorem Counts.inaccessible_iff (counts : Counts o units d) (matching : ∀ u ∈ units, Matching u) :
    d.Inaccessible ↔ Hides d.enclosing := by
  obtain ⟨u, first, scanned⟩ := counts
  exact scanned.inaccessible_iff (scanned.owners_eq (matching u (of_firstShowing first).1))

/-- A row is, up to its tag, one of the methods of a definition that counts. -/
def ComesFrom (o : ScanOptions) (units : List HeaderUnit) (r : Declaration) (d : Definition) : Prop :=
  Counts o units d ∧ untagged r ∈ d.methods o

theorem exists_comesFrom (row : r ∈ declarationsOf (merged o units)) : ∃ d, ComesFrom o units r d := by
  obtain ⟨u, first, inside⟩ := exists_showing row
  obtain ⟨d, scanned, named, method⟩ := mem_methodsUnder_iff.mp inside
  exact ⟨d, ⟨u, named ▸ first, scanned⟩, method⟩

theorem exists_row_iff : (∃ r ∈ declarationsOf (merged o units), ComesFrom o units r d) ↔
    Counts o units d ∧ d.methods o ≠ [] := by
  constructor
  · rintro ⟨r, -, counts, method⟩
    exact ⟨counts, List.ne_nil_of_mem method⟩
  · rintro ⟨⟨u, first, scanned⟩, some⟩
    obtain ⟨m, method⟩ := List.exists_mem_of_ne_nil _ some
    have inside : m ∈ methodsUnder o u d.subject := mem_methodsUnder_iff.mpr ⟨d, scanned, rfl, method⟩
    obtain ⟨r, row, rfl⟩ := exists_row first inside
    exact ⟨r, row, ⟨u, first, scanned⟩, method⟩

/-- Every row comes from a definition, and a row comes from each that counts and has methods. None of these is
itself a non-public member of a class; so all of them are within reach, where everything belongs to what it stands
in, just when none of them stands in a class that is one. -/
theorem accessible_iff {parser : HeaderParser} {headers : List Text} {tree : Text → HeaderUnit}
    (read : ∀ header ∈ headers, parser header = some (tree header)) :
    ∃ rows, collect o (some parser) headers = .ok rows ∧
      (∀ r ∈ rows, ∃ d, ComesFrom o (headers.map tree) r d) ∧
      (∀ d, (∃ r ∈ rows, ComesFrom o (headers.map tree) r d) ↔
        Counts o (headers.map tree) d ∧ d.methods o ≠ []) ∧
      (∀ r ∈ rows, ∀ d, ComesFrom o (headers.map tree) r d → isHidden d.entity = false) ∧
      ((∀ header ∈ headers, Matching (tree header)) →
        ((∀ r ∈ rows, ∀ d, ComesFrom o (headers.map tree) r d → ¬ d.Inaccessible) ↔
          ∀ d, Counts o (headers.map tree) d → d.methods o ≠ [] → ¬ Hides d.enclosing)) := by
  refine ⟨_, collect_eq_ok read, fun r => exists_comesFrom, fun d => exists_row_iff, ?_, fun matching => ?_⟩
  · intro r _ d source
    exact source.1.collected.shown
  · have units : ∀ u ∈ headers.map tree, Matching u := List.forall_mem_map.mpr matching
    constructor
    -- What is collected is not hidden itself, so that only the classes around it matter.
    · intro safe d counts some
      obtain ⟨r, row, source⟩ := exists_row_iff.mpr ⟨counts, some⟩
      exact mt (counts.inaccessible_iff units).mpr (safe r row d source)
    · intro safe r row d source
      obtain ⟨counts, some⟩ := exists_row_iff.mp ⟨r, row, source⟩
      exact mt (counts.inaccessible_iff units).mp (safe d counts some)

/-! ### A public class in a private one -/

def burrow : HeaderUnit :=
  .of [.classOf true "IPool" [.classOf false "Slot" [.classOf true "Key" [.methodOf "get" []]]]]

/-- The innermost class, which is public where it stands. -/
def burrowKey : Definition :=
  .inside [(Cursor.classOf false "Slot" []).entity, (Cursor.classOf true "IPool" []).entity, { kind := .wholeUnit }]
    (Cursor.classOf true "Key" []).entity [.methodOf "get" []]

theorem counts_burrowKey : Counts {} [burrow] burrowKey := by
  have scanned : burrowKey.Scanned {} burrow :=
    ⟨by decide, _, rfl, .inside (.head _) (.inside (.head _) (.inside (.head _) .here))⟩
  have speaks : methodsUnder {} burrow burrowKey.subject ≠ [] := by decide
  exact ⟨burrow, by rw [firstShowing_cons, if_neg speaks], scanned⟩

theorem hides_burrowKey : Hides burrowKey.enclosing :=
  ⟨_, _, List.suffix_rfl, rfl, rfl, _, rfl, rfl⟩

theorem accessible_iff_burrow : (∀ header ∈ [['a']], (fun _ => some burrow) header = some burrow) ∧
    Matching burrow ∧ ∃ rows, collect {} (some fun _ => some burrow) [['a']] = .ok rows ∧
      (∃ r ∈ rows, ComesFrom {} [burrow] r burrowKey) ∧
      ¬ ∀ r ∈ rows, ∀ d, ComesFrom {} [burrow] r d → ¬ d.Inaccessible := by
  have read : ∀ header ∈ [['a']], (fun _ => some burrow) header = some burrow := fun _ _ => rfl
  have matching : Matching burrow := matching_of _
  have some : burrowKey.methods {} ≠ [] := by decide
  obtain ⟨rows, collected, -, sources, -, safe⟩ := accessible_iff (o := {}) read
  refine ⟨read, matching, rows, collected, (sources burrowKey).mpr ⟨counts_burrowKey, some⟩, fun all => ?_⟩
  exact (safe fun _ _ => matching).mp all _ counts_burrowKey some hides_burrowKey

theorem not_accessible : Matching burrow ∧
    ∃ rows, collect {} (some fun _ => some burrow) [['a']] = .ok rows ∧
      ∃ r ∈ rows, ∃ d, ComesFrom {} [burrow] r d ∧ d.Inaccessible := by
  obtain ⟨r, row, source⟩ := exists_row_iff.mpr ⟨counts_burrowKey, by decide⟩
  have inaccessible : burrowKey.Inaccessible := hides_cons.mpr (.inr hides_burrowKey)
  exact ⟨matching_of _, _, collect_eq_ok fun _ _ => rfl, r, row, burrowKey, source, inaccessible⟩

end Forwarding.Scan
