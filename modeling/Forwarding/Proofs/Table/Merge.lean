import Forwarding.Proofs.Table.Roundtrip

/-! Appending one table to another, and when the result is valid.

The aliases of the second table move behind the rows of the first, so that rows of the first must not
mention them.
-/

set_option autoImplicit false

namespace Forwarding

open Text Checks

namespace Table

/-- No alias is placed behind the last row. -/
def Placed (t : Table) : Prop := ∀ a ∈ t.aliases, a.position ≤ t.rows.length

/-- What holds of the aliases of a table that has been read or merged: their names have no line feed,
and they are placed. -/
structure Settled (t : Table) : Prop where
  names : ∀ a ∈ t.aliases, isIdentifierCore a.name = true
  placed : t.Placed

instance (t : Table) : Decidable t.Settled :=
  decidable_of_iff ((∀ a ∈ t.aliases, isIdentifierCore a.name = true) ∧
      ∀ a ∈ t.aliases, a.position ≤ t.rows.length)
    ⟨fun ⟨names, placed⟩ => ⟨names, placed⟩, fun settled => ⟨settled.names, settled.placed⟩⟩

variable {t other : Table}

theorem Placed.declare (placed : t.Placed) (d : Declaration) : (t.declare d).Placed := fun a member => by
  rw [Table.declare, List.length_append]
  exact Nat.le_trans (placed a member) (Nat.le_add_right _ _)

theorem addInclude_eq (t : Table) (header : Text) : (t.addInclude header).rows = t.rows ∧
    (t.addInclude header).aliases = t.aliases ∧ (t.addInclude header).notes = t.notes := by
  rw [addInclude]
  split <;> exact ⟨rfl, rfl, rfl⟩

theorem Placed.addInclude (placed : t.Placed) (header : Text) : (t.addInclude header).Placed := by
  obtain ⟨rows, aliases, -⟩ := t.addInclude_eq header
  rw [Placed, rows, aliases]
  exact placed

theorem Placed.register {name type : Text} {origin : Option Text} {next : Table} (placed : t.Placed)
    (added : t.register name type origin = .ok next) : next.Placed := by
  obtain ⟨-, -, rfl⟩ := register_eq_ok_iff.mp added
  refine List.forall_mem_append.mpr ⟨placed, ?_⟩
  simp

/-- Aliases with new and distinct names are added before what comes behind them is looked at. -/
theorem addAliases_append {count : Nat} {first : List Alias} (rest : List Alias)
    (new : ∀ a ∈ first, a.name ∉ t.aliases.map Alias.name) (distinct : (first.map Alias.name).Nodup) :
    addAliases count t (first ++ rest) =
      addAliases count { t with aliases := t.aliases ++ first.map (Alias.shift count) } rest := by
  induction first generalizing t with
  | nil => simp
  | cons a first ih =>
    rw [List.forall_mem_cons] at new
    rw [List.map_cons, List.nodup_cons] at distinct
    have free : t.alias? a.name = none := alias?_eq_none_iff.mpr new.1
    have later : ∀ b ∈ first, b.name ∉ (t.aliases ++ [a.shift count]).map Alias.name := by
      intro b member taken
      rw [List.map_append, List.mem_append, List.map_singleton, List.mem_singleton] at taken
      rcases taken with old | same
      · exact new.2 b member old
      · have first : b.name = a.name := same
        exact distinct.1 (first ▸ List.mem_map_of_mem member)
    rw [List.cons_append, addAliases, free]
    have rest := ih (t := { t with aliases := t.aliases ++ [a.shift count] }) later distinct.2
    simp only [Option.isSome_none, Bool.false_eq_true, if_false, rest, List.map_cons, List.append_assoc,
      List.singleton_append]

theorem addAliases_eq {count : Nat} {more : List Alias} (new : ∀ a ∈ more, a.name ∉ t.aliases.map Alias.name)
    (distinct : (more.map Alias.name).Nodup) :
    addAliases count t more = ({ t with aliases := t.aliases ++ more.map (Alias.shift count) }, none) := by
  have added := @addAliases_append t count more [] new distinct
  rwa [List.append_nil] at added

/-- Between two tables and the one that they make. -/
structure Joined (t other merged : Table) : Prop where
  rows : merged.rows = t.rows ++ other.rows
  aliases : merged.aliases = t.aliases ++ other.aliases.map (Alias.shift t.rows.length)
  notes : merged.notes = t.notes ++ other.notes

theorem exists_merge (new : ∀ a ∈ other.aliases, a.name ∉ t.aliases.map Alias.name)
    (distinct : (other.aliases.map Alias.name).Nodup) :
    ∃ merged, t.merge other = (merged, none) ∧ t.Joined other merged := by
  have includes : ∀ (headers : List Text) (s : Table), (headers.foldl addInclude s).rows = s.rows ∧
      (headers.foldl addInclude s).aliases = s.aliases ∧ (headers.foldl addInclude s).notes = s.notes := by
    intro headers
    induction headers with
    | nil => exact fun s => ⟨rfl, rfl, rfl⟩
    | cons header headers ih =>
      intro s
      obtain ⟨rows, aliases, notes⟩ := ih (s.addInclude header)
      obtain ⟨rows', aliases', notes'⟩ := s.addInclude_eq header
      exact ⟨rows.trans rows', aliases.trans aliases', notes.trans notes'⟩
  rw [merge, addAliases_eq new distinct]
  obtain ⟨rows, aliases, notes⟩ := includes other.includes
    { t with rows := t.rows ++ other.rows
             aliases := t.aliases ++ other.aliases.map (Alias.shift t.rows.length) }
  exact ⟨_, rfl, rows, aliases, by rw [notes]⟩

namespace Joined

variable {merged : Table} (joined : t.Joined other merged)
include joined

theorem alias?_eq (name : Text) : merged.alias? name =
    (t.alias? name).or ((other.alias? name).map (Alias.shift t.rows.length)) := by
  rw [alias?, joined.aliases, List.find?_append, List.find?_map]
  rfl

theorem settled (first : t.Settled) (second : other.Settled) : merged.Settled := by
  refine ⟨?_, ?_⟩
  · rw [joined.aliases]
    exact List.forall_mem_append.mpr ⟨first.names, List.forall_mem_map.mpr second.names⟩
  · rw [Placed, joined.aliases, joined.rows, List.length_append]
    refine List.forall_mem_append.mpr ⟨fun a member => ?_, List.forall_mem_map.mpr fun a member => ?_⟩
    · exact Nat.le_trans (first.placed a member) (Nat.le_add_right _ _)
    · have place := second.placed a member
      simp only [Alias.shift]
      omega

/-- An alias is known from the first table, or from the second one, with whose rows it has moved. -/
theorem exists_of_alias?_eq_some {name : Text} {a : Alias} (bound : merged.alias? name = some a) :
    t.alias? name = some a ∨ ∃ b, other.alias? name = some b ∧ b.shift t.rows.length = a := by
  rw [joined.alias?_eq, Option.or_eq_some_iff] at bound
  exact bound.imp_right fun later => Option.map_eq_some_iff.mp later.2

/-- A row of the first table sees the aliases of the second one too, but mentions none of them. -/
theorem rowValid_left {i : Nat} {d : Declaration} (row : t.RowValid i d)
    (unused : ∀ type ∈ d.result :: d.parameters, ∀ a ∈ other.aliases, a.name ∉ identifiers type) :
    merged.RowValid i d := by
  refine row.of_content rfl fun type member name token a bound => ?_
  rcases joined.exists_of_alias?_eq_some bound with old | ⟨b, known, -⟩
  · exact (row.types type member).defined name token a old
  · have named : b.name = name := by simpa using List.find?_some known
    exact absurd (named ▸ token) (unused type member b (List.mem_of_find?_eq_some known))

/-- To a row of the second table the aliases of the first come before, and its own have moved with it. -/
theorem rowValid_right (placed : t.Placed) {j : Nat} {d : Declaration} (row : other.RowValid j d) :
    merged.RowValid (t.rows.length + j) d := by
  refine row.of_content rfl fun type member name token a bound => ?_
  rcases joined.exists_of_alias?_eq_some bound with old | ⟨b, known, rfl⟩
  · exact Nat.le_trans (placed a (List.mem_of_find?_eq_some old)) (Nat.le_add_right _ _)
  · have place := (row.types type member).defined name token b known
    simp only [Alias.shift]
    omega

theorem not_mem_identifiers {i : Nat} {d : Declaration} (row : merged.RowValid i d) (early : i < t.rows.length)
    {type : Text} (member : type ∈ d.result :: d.parameters) {a : Alias} (known : a ∈ other.aliases)
    (new : a.name ∉ t.aliases.map Alias.name) : a.name ∉ identifiers type := by
  intro token
  obtain ⟨b, bound⟩ : ∃ b, other.alias? a.name = some b := by
    refine Option.ne_none_iff_exists'.mp fun none => ?_
    exact alias?_eq_none_iff.mp none (List.mem_map_of_mem known)
  have place := (row.types type member).defined a.name token (b.shift t.rows.length) (by
    rw [joined.alias?_eq, alias?_eq_none_iff.mpr new, bound]
    rfl)
  simp only [Alias.shift] at place
  omega

/-- When the rows of both tables are valid by themselves, the merged table is valid unless two symbols are equal
or a row of the first table mentions an alias of the second. -/
theorem valid_iff (valid : t.Valid) (placed : t.Placed)
    (rows : ∀ j d, other.rows[j]? = some d → other.RowValid j d)
    (new : ∀ a ∈ other.aliases, a.name ∉ t.aliases.map Alias.name) :
    merged.Valid ↔ ((t.rows ++ other.rows).map Declaration.symbol).Nodup ∧
      ∀ d ∈ t.rows, ∀ type ∈ d.result :: d.parameters, ∀ a ∈ other.aliases, a.name ∉ identifiers type := by
  rw [← joined.rows]
  constructor
  · refine fun whole => ⟨whole.symbols, fun d row type member a known => ?_⟩
    obtain ⟨i, early, rfl⟩ := List.getElem_of_mem row
    have found : merged.rows[i]? = some t.rows[i] := by
      rw [joined.rows, List.getElem?_append_left early, List.getElem?_eq_getElem early]
    exact joined.not_mem_identifiers (whole.rows i _ found) early member known (new a known)
  · rintro ⟨symbols, unused⟩
    refine ⟨fun i d found => ?_, symbols⟩
    rw [joined.rows] at found
    by_cases early : i < t.rows.length
    · rw [List.getElem?_append_left early] at found
      exact joined.rowValid_left (valid.rows i d found) (unused d (List.mem_of_getElem? found))
    · obtain ⟨j, rfl⟩ := Nat.exists_eq_add_of_le (Nat.le_of_not_lt early)
      rw [List.getElem?_append_right (Nat.le_add_right _ _), Nat.add_sub_cancel_left] at found
      exact joined.rowValid_right placed (rows j d found)

end Joined

end Table

end Forwarding
