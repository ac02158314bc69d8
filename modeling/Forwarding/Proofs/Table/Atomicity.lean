import Forwarding.Proofs.Table.Replay
import Mathlib.Data.List.TakeWhile

/-! What a refused call leaves of a table.

A call that binds a name looks at the name before it changes anything. Appending a table binds one name after the
other, so that a refused one leaves what it has bound until then: `refused_iff` says what that is, and when it is
nothing. An alias that is left counts the rows of a table that was not appended, and stands behind rows that come
next.
-/

set_option autoImplicit false

namespace Forwarding

open Text Checks

namespace Table

/-- What a call leaves behind and what it reports: a refused one leaves the table as it was. -/
def Call.perform (t : Table) (call : Call) : Table × Option Fault :=
  match call.apply t with
  | .ok next => (next, none)
  | .error fault => (t, some fault)

/-- A table that calls have made of an empty one, in any order and with refused ones among them. -/
inductive Reachable : Table → Prop where
  | empty : Reachable {}
  | call {t : Table} (call : Call) : Reachable t → Reachable (call.perform t).1
  | addSource {t : Table} (source : Text) : Reachable t → Reachable (t.addSource source)
  | merge {t other : Table} : Reachable t → Reachable other → Reachable (t.merge other).1

/-- The aliases that are bound before one is refused, at the places that they get behind the rows of the table. -/
def leftOver (t other : Table) : List Alias :=
  (other.aliases.takeWhile fun a => !t.aliasNames.contains a.name).map (Alias.shift t.rows.length)

variable {t other next : Table}

theorem leftOver_of_parts {earlier later : List Alias} {a : Alias} (parts : other.aliases = earlier ++ a :: later)
    (new : ∀ b ∈ earlier, b.name ∉ t.aliasNames) (taken : a.name ∈ t.aliasNames) :
    t.leftOver other = earlier.map (Alias.shift t.rows.length) := by
  unfold leftOver
  rw [parts, List.takeWhile_append_of_pos, List.takeWhile_cons_of_neg]
  · simp
  · simpa using taken
  · intro b member
    simpa using new b member

/-- Appending a table is refused just when a name is taken, and leaves the aliases before it. -/
theorem merge_of_not_apart (distinct : other.aliasNames.Nodup) (shared : ¬ t.Apart other) :
    ∃ fault, t.merge other = ({ t with aliases := t.aliases ++ t.leftOver other }, some fault) := by
  obtain ⟨earlier, a, later, parts, new, taken⟩ := exists_taken shared
  rw [merge_of_taken distinct parts new taken, leftOver_of_parts parts new taken]
  exact ⟨_, rfl⟩

theorem names_leftOver (t other : Table) : (t.leftOver other).map Alias.name <+: other.aliasNames := by
  have shifted : (Alias.name ∘ Alias.shift t.rows.length) = Alias.name := rfl
  rw [leftOver, List.map_map, shifted]
  exact (List.takeWhile_prefix _).map _

theorem name_of_mem_leftOver {b : Alias} (left : b ∈ t.leftOver other) : b.name ∉ t.aliasNames := by
  obtain ⟨a, member, rfl⟩ := List.mem_map.mp left
  have free : a.name ∉ t.aliasNames := by simpa using List.mem_takeWhile_imp member
  exact free

theorem nodup_leftOver (names : t.aliasNames.Nodup) (distinct : other.aliasNames.Nodup) :
    ({ t with aliases := t.aliases ++ t.leftOver other } : Table).aliasNames.Nodup := by
  unfold aliasNames
  rw [List.map_append, List.nodup_append]
  refine ⟨names, distinct.sublist (names_leftOver t other).sublist, ?_⟩
  intro name old name' left same
  obtain ⟨b, member, rfl⟩ := List.mem_map.mp left
  exact name_of_mem_leftOver member (same ▸ old)

namespace Reachable

/-- What each call keeps: an alias name is bound once. -/
theorem nodup (reachable : Reachable t) : t.aliasNames.Nodup := by
  induction reachable with
  | empty => exact List.nodup_nil
  | @call t call _ ih =>
    unfold Call.perform
    split
    · next next made => exact (aliasNames_apply made).2 ih
    · exact ih
  | addSource source _ ih => exact ih
  | @merge t other _ _ first second =>
    -- Either all aliases are bound or those in front of the first name that is taken: new names in both cases.
    by_cases apart : t.Apart other
    · rw [merge_of_apart apart second, aliasNames_append, List.nodup_append]
      refine ⟨first, second, ?_⟩
      intro name old name' new same
      exact apart name' new (same ▸ old)
    · obtain ⟨fault, refused⟩ := merge_of_not_apart second apart
      rw [refused]
      exact nodup_leftOver first second

theorem of_replay {calls : List Call} (reachable : Reachable t) (made : t.replay calls = .ok next) :
    Reachable next := by
  refine replay_induction reachable (fun {u v call} before applied => ?_) made
  have step := before.call call
  rwa [Call.perform, applied] at step

end Reachable

/-- Nothing is left just when the first alias of the second table is the refused one. -/
theorem leftOver_eq_nil_iff (shared : ¬ t.Apart other) :
    t.leftOver other = [] ↔ ∃ a, other.aliases.head? = some a ∧ a.name ∈ t.aliasNames := by
  obtain ⟨earlier, a, later, parts, new, taken⟩ := exists_taken shared
  rw [leftOver_of_parts parts new taken, List.map_eq_nil_iff, parts]
  cases earlier with
  | nil => simpa using taken
  | cons b earlier => simpa using new b List.mem_cons_self

/-- A row that comes next and mentions an alias that is left is refused as coming before it, unless that alias
stood before the first row of its own table. -/
theorem not_valid_of_mem_leftOver (names : t.aliasNames.Nodup) (distinct : other.aliasNames.Nodup) {b : Alias}
    (left : b ∈ t.leftOver other) (late : t.rows.length < b.position) {d : Declaration} {type : Text}
    (member : type ∈ d.result :: d.parameters) (token : b.name ∈ identifiers type) :
    ¬ (({ t with aliases := t.aliases ++ t.leftOver other } : Table).declare d).Valid := by
  intro valid
  have row := valid.rows t.rows.length d (by simp [declare])
  -- The name is looked up among all aliases and bound once, so that the one that is left is found.
  have bound := find?_name (nodup_leftOver names distinct) (List.mem_append_right t.aliases left)
  have place := (row.types type member).defined b.name token b bound
  omega

/-- A refused call leaves a table as it was, and appending a table that is refused leaves all but the aliases: to
these it adds those of the second table before the first one whose name is taken. So the table is as it was just
when that is the first one of all. Of what is added, each alias that stands behind a row in its own table spoils
the next row that mentions it. -/
theorem refused_iff (reachable : Reachable t) (second : Reachable other) :
    (∀ (call : Call) next fault, call.perform t = (next, some fault) → next = t) ∧
    (∀ next fault, t.merge other = (next, some fault) →
      next = { t with aliases := t.aliases ++ t.leftOver other } ∧
      (next = t ↔ ∃ a, other.aliases.head? = some a ∧ a.name ∈ t.aliasNames) ∧
      ∀ b ∈ t.leftOver other, t.rows.length < b.position → ∀ d : Declaration,
        (∃ type ∈ d.result :: d.parameters, b.name ∈ identifiers type) → (next.declare d).validate ≠ .ok ()) := by
  constructor
  · intro call next fault refused
    unfold Call.perform at refused
    split at refused
    · cases refused
    · cases refused
      rfl
  · intro next fault refused
    have shared : ¬ t.Apart other := by
      intro apart
      rw [merge_of_apart apart second.nodup] at refused
      cases refused
    obtain ⟨_, left⟩ := merge_of_not_apart second.nodup shared
    rw [left] at refused
    cases refused
    refine ⟨rfl, ?_, ?_⟩
    · rw [← leftOver_eq_nil_iff shared]
      constructor
      · intro same
        have aliases : t.aliases ++ t.leftOver other = t.aliases := congrArg Table.aliases same
        exact List.append_right_eq_self.mp aliases
      · intro nothing
        rw [nothing, List.append_nil]
    · intro b member late d mentions valid
      obtain ⟨type, inside, token⟩ := mentions
      exact not_valid_of_mem_leftOver reachable.nodup second.nodup member late inside token
        (validate_eq_ok_iff.mp valid)

namespace Call

/-- Calls that bind a new name behind a row, and a name of the calls for pairs again. -/
def late : List Call := [
  .declare { subject := "C", result := "int", method := "size" },
  .register "Grid" "Map<int, Cell>" (some "o:2"), .register "IntPair" "Pair<a, b>" (some "o:3")]

/-- A row that is valid behind the calls for pairs: to these, its result is any class. -/
def gridRow : Declaration := { subject := "A", result := "Grid", method := "h" }

end Call

theorem refused_iff_late : ∃ one two next fault, replay {} Call.pairs = .ok one ∧ replay {} Call.late = .ok two ∧
    (∀ changed refusal, (Call.register "IntPair" "int" none).perform one = (changed, some refusal) → changed = one) ∧
    one.merge two = (next, some fault) ∧ next ≠ one ∧
    (one.declare Call.gridRow).validate = .ok () ∧ (next.declare Call.gridRow).validate ≠ .ok () := by
  have reachable := @Reachable.of_replay _ _ Call.pairs .empty rfl
  have second := @Reachable.of_replay _ _ Call.late .empty rfl
  obtain ⟨call, merge⟩ := refused_iff reachable second
  obtain ⟨-, same, spoiled⟩ := merge _ _ rfl
  refine ⟨_, _, _, _, rfl, rfl, call _, rfl, ?_, by decide +kernel, ?_⟩
  · rw [ne_eq, same]
    decide +kernel
  · refine spoiled ⟨"Grid", "Map<int, Cell>", 3, some "o:2"⟩ ?_ ?_ _ ?_
    all_goals decide +kernel

/-- An alias is left of a table that is refused. -/
theorem changed_of_refused : ∃ one two next fault, Reachable one ∧ Reachable two ∧
    one.merge two = (next, some fault) ∧ next ≠ one := by
  have reachable := @Reachable.of_replay _ _ Call.pairs .empty rfl
  have second := @Reachable.of_replay _ _ Call.late .empty rfl
  exact ⟨_, _, _, _, reachable, second, rfl, by decide +kernel⟩

end Table

end Forwarding
