import Forwarding.Proofs.Discovery.Composite
import Forwarding.Table.Basic

/-! What the aliases for composite types are, whatever the types are.

A type must have no line feed, and nothing else is asked of it. It is written with an alias, and what the alias stands
for put back in its place gives the type again. The aliases that are made have names of their own, but not always
names that a table takes.
-/

set_option autoImplicit false

namespace Forwarding

open Text Spelling Checks

namespace Composite

theorem freeName_cases (used : List Text) (base : Text) :
    freeName used base = base ∨ ∃ k, 2 ≤ k ∧ freeName used base = base ++ decimal k := by
  rw [freeName]
  cases found : List.find? (fun name => !used.contains name)
      (base :: (List.range (used.length + 1)).map fun i => base ++ decimal (i + 2)) with
  | none => exact .inl rfl
  | some chosen =>
    rcases List.mem_cons.mp (List.mem_of_find?_eq_some found) with rfl | member
    · exact .inl rfl
    · obtain ⟨i, -, rfl⟩ := List.mem_map.mp member
      exact .inr ⟨i + 2, Nat.le_add_left 2 i, rfl⟩

/-- An alias whose name is the one that its type suggests, perhaps with a number. -/
def Suggested (a : Alias) : Prop :=
  a.name = Alias.suggestedName a.underlying ∨ ∃ k, 2 ≤ k ∧ a.name = Alias.suggestedName a.underlying ++ decimal k

/-- What holds of the names at any time after some aliases, whatever the types are. -/
structure Naming.Fresh (existing : List Alias) (n : Naming) : Prop where
  bound : n.names = .ofList (typeNames (existing ++ n.created))
  used : n.used = (Naming.ofAliases existing).used ++ n.created.map Alias.name
  created : ∀ a ∈ n.created, Name a.name ∧ Suggested a ∧ a.name ∉ (Naming.ofAliases existing).used
  names : (n.created.map Alias.name).Nodup
  types : (n.created.map Alias.underlying).Nodup
  unknown : ∀ a ∈ n.created, a.underlying ∉ existing.map Alias.underlying

/-- How a type without line feeds is written with the names of a naming. -/
inductive Naming.Shortens (n : Naming) : Text → Text → Prop where
  | single {type : Text} : ¬ HasOuterComma type → Shortens n type type
  | composite {type name : Text} {p : Parts} : HasOuterComma type → p.Cuts type →
      n.names.get? p.core = some name → Shortens n type (p.lead ++ name ++ p.tail)

theorem Naming.Shortens.extend {n later : Naming} {type written : Text} (shortens : n.Shortens type written)
    (more : later.Extends n) : later.Shortens type written := by
  cases shortens with
  | single single => exact .single single
  | composite composite cuts found => exact .composite composite cuts (more _ _ found)

variable {existing : List Alias} {n : Naming} {type : Text}

namespace Naming

theorem fresh_ofAliases (existing : List Alias) : (Naming.ofAliases existing).Fresh existing where
  bound := by
    rw [ofAliases, List.append_nil]
    rfl
  used := by simp [ofAliases]
  created := by simp [ofAliases]
  names := by simp [ofAliases]
  types := by simp [ofAliases]
  unknown := by simp [ofAliases]

theorem Fresh.get?_eq_none_iff (fresh : n.Fresh existing) :
    n.names.get? type = none ↔ type ∉ (existing ++ n.created).map Alias.underlying := by
  rw [fresh.bound, Bindings.get?_eq_none_iff, Bindings.mem_keys_ofList, typeNames, List.map_map]
  rfl

theorem Fresh.name (fresh : n.Fresh existing) (type : Text) : (n.name type).1.Fresh existing := by
  rw [Naming.name]
  split
  · exact fresh
  · next none =>
    rw [fresh.get?_eq_none_iff, List.map_append, List.mem_append, not_or] at none
    -- A name that is free among the used ones is neither that of a new alias nor one that counts before.
    have new := freeName_not_mem n.used (Alias.suggestedName type)
    rw [fresh.used, List.mem_append, not_or, ← fresh.used] at new
    refine ⟨?_, ?_, ?_, ?_, ?_, ?_⟩
    · rw [← List.append_assoc, ofList_typeNames_concat, ← fresh.bound]
    · dsimp only
      rw [List.map_append, ← List.append_assoc, ← fresh.used]
      rfl
    · refine List.forall_mem_append.mpr ⟨fresh.created, List.forall_mem_singleton.mpr ⟨?_, ?_, new.1⟩⟩
      · exact name_freeName _ (name_suggestedName type)
      · exact freeName_cases _ _
    · exact nodup_map_concat fresh.names new.2
    · exact nodup_map_concat fresh.types none.2
    · exact List.forall_mem_append.mpr ⟨fresh.unknown, List.forall_mem_singleton.mpr none.1⟩

/-- A type is written with an alias, which may be new, if it has a comma outside brackets. -/
theorem Fresh.exists_spell (fresh : n.Fresh existing) (noFeed : '\n' ∉ type) :
    ∃ later written, spell n type = .ok (later, written) ∧ later.Fresh existing ∧ later.Extends n ∧
      later.Shortens type written := by
  by_cases composite : HasOuterComma type
  · obtain ⟨p, parts, cuts⟩ := exists_cut noFeed
    refine ⟨(n.name p.core).1, p.lead ++ (n.name p.core).2 ++ p.tail, ?_, fresh.name p.core,
      n.extends_name p.core, .composite composite cuts (n.get?_name p.core)⟩
    simp [spell, isComposite_iff.mpr composite, parts]
  · refine ⟨n, type, ?_, fresh, .refl n, .single composite⟩
    rw [← isComposite_iff, Bool.not_eq_true] at composite
    simp [spell, composite]

end Naming

/-- Rows without line feeds in their types can always be written with aliases. -/
theorem exists_aliases {rows : List Declaration} (existing : List Alias)
    (noFeed : ∀ d ∈ rows, ∀ type ∈ d.result :: d.parameters, '\n' ∉ type) :
    ∃ (n : Naming) (drafts : List Declaration), aliases rows existing = .ok (n.created, drafts) ∧ n.Fresh existing ∧
      List.Forall₂ (Redraws n.Shortens) rows drafts := by
  have steady : Naming.Steady (Naming.Fresh existing) ('\n' ∉ ·) Naming.Shortens :=
    ⟨Naming.Fresh.exists_spell, Naming.Shortens.extend⟩
  obtain ⟨n, drafts, found, fresh, -, redrawn⟩ := steady.spellRows (Naming.fresh_ofAliases existing) noFeed
  refine ⟨n, drafts, ?_, fresh, redrawn⟩
  rw [aliases, found]
  rfl

/-! ### Types are kept -/

/-- A type as it is written with some aliases. With what the alias stands for in its place it is the type again, but
for blanks before the declarators. -/
inductive Abbreviates (known : List Alias) : Text → Text → Prop where
  | single {type : Text} : ¬ HasOuterComma type → Abbreviates known type type
  | composite {a : Alias} {lead gap tail : Text} : HasOuterComma (lead ++ (a.underlying ++ (gap ++ tail))) →
      a ∈ known →
      (lead = [] ∨ ∃ blanks, lead = "const".toList ++ blanks ∧ blanks ≠ [] ∧ ∀ c ∈ blanks, isBlank c = true) →
      (∀ c ∈ gap, isBlank c = true) → (∀ c ∈ tail, isDeclarator c = true) → (tail = [] → gap = []) →
      Abbreviates known (lead ++ (a.underlying ++ (gap ++ tail))) (lead ++ a.name ++ tail)

theorem Naming.Fresh.exists_alias {name : Text} (fresh : n.Fresh existing) (found : n.names.get? type = some name) :
    ∃ a ∈ existing ++ n.created, a.underlying = type ∧ a.name = name := by
  rw [fresh.bound] at found
  obtain ⟨a, member, same⟩ := List.mem_map.mp (Bindings.mem_of_mem_ofList (Bindings.mem_of_get? found))
  exact ⟨a, member, congrArg Prod.fst same, congrArg Prod.snd same⟩

theorem Naming.Shortens.abbreviates {written : Text} (shortens : n.Shortens type written) (fresh : n.Fresh existing) :
    Abbreviates (existing ++ n.created) type written := by
  cases shortens with
  | single single => exact .single single
  | composite composite cuts found =>
    obtain ⟨a, member, core, rfl⟩ := fresh.exists_alias found
    obtain ⟨gap, whole, blank, none⟩ := cuts.whole
    rw [← core] at whole
    subst whole
    exact .composite composite member cuts.lead blank cuts.tail none

theorem comma_not_mem_of_isIdentifier {name : Text} (identifier : isIdentifier name = true) : ',' ∉ name := by
  have core := (name_of_isIdentifierCore identifier).rest
  intro member
  have other : ',' ∉ dropNewline name := fun inside => by
    have rest := core ',' inside
    revert rest
    decide
  -- One line feed is let pass behind an identifier, and that is no comma.
  rw [dropNewline] at other
  split at other
  · next feed =>
    obtain ⟨front, parts⟩ := List.getLast?_eq_some_iff.mp (eq_of_beq feed)
    rw [parts] at member other
    rw [List.dropLast_concat] at other
    rcases List.mem_append.mp member with inside | last
    · exact other inside
    · revert last
      decide
  · exact other member

theorem Abbreviates.not_hasOuterComma {known : List Alias} {written : Text}
    (abbreviates : Abbreviates known type written) (names : ∀ a ∈ known, ',' ∉ a.name) :
    ¬ HasOuterComma written := by
  cases abbreviates with
  | single single => exact single
  | @composite a lead gap tail _ member front blank marks none =>
    have cuts : Parts.Cuts ⟨lead, a.underlying, tail⟩ (lead ++ (a.underlying ++ (gap ++ tail))) :=
      ⟨⟨gap, rfl, blank, none⟩, front, marks⟩
    rintro ⟨left, right, same, -⟩
    -- None of the three parts has a comma at all.
    have comma : ',' ∈ lead ++ a.name ++ tail := by
      rw [same]
      simp
    simp only [List.mem_append] at comma
    rcases comma with (before | inside) | behind
    · exact cuts.not_comma.1 before
    · exact names a member inside
    · exact cuts.not_comma.2 behind

/-- Writing rows with aliases keeps their types: the rows are the same but for their types, and each type without a
comma outside brackets stays, while any other one is written with an alias that stands for it. The types of the new
aliases differ from each other and from those of the existing ones. -/
theorem exists_abbreviated {rows : List Declaration} {existing : List Alias}
    (noFeed : ∀ d ∈ rows, ∀ type ∈ d.result :: d.parameters, '\n' ∉ type)
    (identifiers : ∀ a ∈ existing, isIdentifier a.name = true) :
    ∃ created drafts, aliases rows existing = .ok (created, drafts) ∧
      List.Forall₂ (Redraws (Abbreviates (existing ++ created))) rows drafts ∧
      (∀ draft ∈ drafts, ∀ written ∈ draft.result :: draft.parameters, ¬ HasOuterComma written) ∧
      (created.map Alias.underlying).Nodup ∧
      ∀ a ∈ created, a.underlying ∉ existing.map Alias.underlying := by
  obtain ⟨n, drafts, found, fresh, redrawn⟩ := exists_aliases existing noFeed
  have abbreviated : List.Forall₂ (Redraws (Abbreviates (existing ++ n.created))) rows drafts :=
    redrawn.imp fun _ _ redraws => redraws.imp fun shortens => shortens.abbreviates fresh
  refine ⟨n.created, drafts, found, abbreviated, ?_, fresh.types, fresh.unknown⟩
  have names : ∀ a ∈ existing ++ n.created, ',' ∉ a.name := by
    refine List.forall_mem_append.mpr ⟨fun a member => comma_not_mem_of_isIdentifier (identifiers a member), ?_⟩
    intro a member inside
    have rest := (fresh.created a member).1.rest ',' inside
    revert rest
    decide
  intro draft member
  obtain ⟨d, -, redraws⟩ := exists_of_mem_right abbreviated member
  refine List.forall_mem_cons.mpr ⟨redraws.result.not_hasOuterComma names, fun written inside => ?_⟩
  obtain ⟨type, -, abbreviates⟩ := exists_of_mem_right redraws.parameters inside
  exact abbreviates.not_hasOuterComma names

/-- A row with three types that are written with aliases, one of which there is. -/
def gridRow : Declaration where
  subject := "A"
  result := "const Pair<a, b> &"
  method := "f"
  parameters := ["int", "Map<c, d>", "Pair<a, b>*"]

def gridAliases : List Alias := [⟨"Grid", "Map<c, d>", 0, none⟩]

theorem exists_abbreviated_grid :
    (∀ d ∈ [gridRow], ∀ type ∈ d.result :: d.parameters, '\n' ∉ type) ∧
    (∀ a ∈ gridAliases, isIdentifier a.name = true) ∧
    ∃ created drafts, aliases [gridRow] gridAliases = .ok (created, drafts) ∧
      List.Forall₂ (Redraws (Abbreviates (gridAliases ++ created))) [gridRow] drafts ∧
      (∀ draft ∈ drafts, ∀ written ∈ draft.result :: draft.parameters, ¬ HasOuterComma written) ∧
      (created.map Alias.underlying).Nodup ∧
      ∀ a ∈ created, a.underlying ∉ gridAliases.map Alias.underlying := by
  have noFeed : ∀ d ∈ [gridRow], ∀ type ∈ d.result :: d.parameters, '\n' ∉ type := by decide
  have identifiers : ∀ a ∈ gridAliases, isIdentifier a.name = true := by decide
  exact ⟨noFeed, identifiers, exists_abbreviated noFeed identifiers⟩

example : aliases [gridRow] gridAliases = .ok ([⟨"PairAB", "Pair<a, b>", 0, none⟩],
    [{ gridRow with result := "const PairAB&", parameters := ["int", "Grid", "PairAB*"] }]) := by decide +kernel

end Composite

/-! ### Registering -/

namespace Table

def registerAll (t : Table) (aliases : List Alias) : Except Fault Table :=
  aliases.foldlM (fun t a => t.register a.name a.underlying a.origin) t

/-- Aliases can be registered when their names are identifiers that differ from each other and from those of the
table. -/
theorem registerAll_eq_ok_iff (t : Table) (aliases : List Alias) : (∃ later, t.registerAll aliases = .ok later) ↔
    (∀ a ∈ aliases, isIdentifier a.name = true ∧ a.name ∉ t.aliases.map Alias.name) ∧
      (aliases.map Alias.name).Nodup := by
  induction aliases generalizing t with
  | nil => simp [registerAll, pure, Except.pure]
  | cons a rest ih =>
    rw [List.forall_mem_cons, List.map_cons, List.nodup_cons]
    constructor
    · rintro ⟨later, registered⟩
      rw [registerAll, List.foldlM_cons] at registered
      obtain ⟨next, first, registered⟩ := bind_eq_ok.mp registered
      obtain ⟨identifier, new, rfl⟩ := register_eq_ok_iff.mp first
      obtain ⟨others, distinct⟩ := (ih _).mp ⟨later, registered⟩
      simp only [List.map_append, List.mem_append, not_or, List.map_singleton, List.mem_singleton] at others
      refine ⟨⟨⟨identifier, new⟩, fun b member => ⟨(others b member).1, (others b member).2.1⟩⟩, ?_, distinct⟩
      rintro member
      obtain ⟨b, inside, same⟩ := List.mem_map.mp member
      exact (others b inside).2.2 same
    · -- When the first alias has been registered its name is taken for the others.
      rintro ⟨⟨⟨identifier, new⟩, others⟩, apart, distinct⟩
      let next : Table :=
        { t with aliases := t.aliases ++ [⟨a.name, squeeze a.underlying, t.rows.length, a.origin⟩] }
      have first : t.register a.name a.underlying a.origin = .ok next := register_eq_ok_iff.mpr ⟨identifier, new, rfl⟩
      have othersFree : ∀ b ∈ rest, isIdentifier b.name = true ∧ b.name ∉ next.aliases.map Alias.name := by
        intro b member
        refine ⟨(others b member).1, ?_⟩
        simp only [next, List.map_append, List.mem_append, not_or, List.map_singleton, List.mem_singleton]
        exact ⟨(others b member).2, fun same => apart (same ▸ List.mem_map_of_mem member)⟩
      obtain ⟨later, registered⟩ := (ih next).mpr ⟨othersFree, distinct⟩
      refine ⟨later, ?_⟩
      rw [registerAll, List.foldlM_cons, first]
      exact registered

end Table

/-! ### Names are new, but not always usable -/

namespace Composite

/-- Of some existing aliases for one type the last one keeps its name from being made again. -/
theorem name_mem_used {before after : List Alias} {b : Alias} (last : b.underlying ∉ after.map Alias.underlying) :
    b.name ∈ (Naming.ofAliases (before ++ b :: after)).used := by
  have bound : (Naming.ofAliases (before ++ b :: after)).names.get? b.underlying = some b.name := by
    -- The last pair for a type is what a binding keeps of all of them.
    have others : (typeNames after).filter (fun entry => entry.1 = b.underlying) = [] := by
      refine List.filter_eq_nil_iff.mpr fun entry member => ?_
      obtain ⟨a, inside, rfl⟩ := List.mem_map.mp member
      have other : a.underlying ≠ b.underlying := fun same => last (same ▸ List.mem_map_of_mem inside)
      simpa using other
    have parts : typeNames (before ++ b :: after) = typeNames before ++ (b.underlying, b.name) :: typeNames after := by
      simp [typeNames]
    rw [Naming.ofAliases]
    dsimp only
    rw [← typeNames, Bindings.get?_ofList, parts, List.filter_append, List.filter_cons_of_pos (by simp), others,
      List.getLast?_concat]
    rfl
  exact List.mem_map.mpr ⟨_, Bindings.mem_of_get? bound, rfl⟩

/-- New aliases have the names that their types suggest, perhaps with numbers. The names differ from each other and
from those of the existing aliases, but of some for one type only the last one counts. The new aliases can be
registered behind the existing ones when no name begins with a digit and none is that of an alias that did not
count. -/
theorem exists_registered_iff {rows : List Declaration} (existing : List Alias)
    (noFeed : ∀ d ∈ rows, ∀ type ∈ d.result :: d.parameters, '\n' ∉ type) :
    ∃ created drafts, aliases rows existing = .ok (created, drafts) ∧
      (created.map Alias.name).Nodup ∧ (∀ a ∈ created, Name a.name ∧ Suggested a) ∧
      (∀ before b after, existing = before ++ b :: after → b.underlying ∉ after.map Alias.underlying →
        ∀ a ∈ created, a.name ≠ b.name) ∧
      ∀ t : Table, t.aliases.map Alias.name = existing.map Alias.name →
        ((∃ later, t.registerAll created = .ok later) ↔
          ∀ a ∈ created, (∀ c, a.name.head? = some c → c.isDigit = false) ∧ a.name ∉ existing.map Alias.name) := by
  obtain ⟨n, drafts, found, fresh, -⟩ := exists_aliases existing noFeed
  refine ⟨n.created, drafts, found, fresh.names, fun a member => ?_, ?_, fun t same => ?_⟩
  · exact ⟨(fresh.created a member).1, (fresh.created a member).2.1⟩
  · rintro before b after rfl last a member taken
    exact (fresh.created a member).2.2 (taken ▸ name_mem_used last)
  · rw [Table.registerAll_eq_ok_iff, and_iff_left fresh.names, same]
    refine forall₂_congr fun a member => and_congr_left' ?_
    exact (fresh.created a member).1.isIdentifier_iff

theorem exists_registered_iff_grid : (∀ d ∈ [gridRow], ∀ type ∈ d.result :: d.parameters, '\n' ∉ type) ∧
    ∃ created drafts, aliases [gridRow] gridAliases = .ok (created, drafts) ∧ (created.map Alias.name).Nodup ∧
      ∃ later, ({ aliases := gridAliases } : Table).registerAll created = .ok later := by
  have noFeed : ∀ d ∈ [gridRow], ∀ type ∈ d.result :: d.parameters, '\n' ∉ type := by decide
  obtain ⟨created, drafts, found, distinct, -, -, registered⟩ := exists_registered_iff gridAliases noFeed
  have made : (aliases [gridRow] gridAliases).toOption.map (·.1) = some [⟨"PairAB", "Pair<a, b>", 0, none⟩] := by
    decide +kernel
  rw [found] at made
  cases made
  exact ⟨noFeed, _, drafts, found, distinct, (registered { aliases := gridAliases } rfl).mpr (by decide)⟩

/-- New aliases for some rows, besides existing ones with different names, that a table with those refuses. -/
structure Refused (rows : List Declaration) (existing : List Alias) : Prop where
  noFeed : ∀ d ∈ rows, ∀ type ∈ d.result :: d.parameters, '\n' ∉ type
  names : (existing.map Alias.name).Nodup
  refused : ∃ created drafts fault, aliases rows existing = .ok (created, drafts) ∧
    ({ aliases := existing } : Table).registerAll created = .error fault

/-- Of two aliases for one type the first is forgotten and its name made again, and a name that is made can begin
with a digit. -/
theorem refused_forgotten_and_digit :
    Refused [{ subject := "A", result := "void", method := "f", parameters := ["Pair<A, B>"] }]
      [⟨"PairAB", "Pair<a, b>", 0, none⟩, ⟨"Other", "Pair<a, b>", 0, none⟩] ∧
    Refused [{ subject := "A", result := "void", method := "f", parameters := ["_3D<a, b>"] }] [] := by
  constructor
  · refine ⟨by decide, by decide, [⟨"PairAB", "Pair<A, B>", 0, none⟩],
      [{ subject := "A", result := "void", method := "f", parameters := ["PairAB"] }],
      ⟨.aliasRedefined "PairAB" none, none⟩, by decide +kernel, by decide +kernel⟩
  · refine ⟨by decide, by decide, [⟨"3dAB", "_3D<a, b>", 0, none⟩],
      [{ subject := "A", result := "void", method := "f", parameters := ["3dAB"] }],
      ⟨.invalidAliasName "3dAB", none⟩, by decide +kernel, by decide +kernel⟩

end Composite

end Forwarding
