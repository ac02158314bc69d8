import Forwarding.Proofs.Coverage.Names
import Forwarding.Proofs.Discovery.Definitions
import Forwarding.Proofs.Discovery.Scan
import Forwarding.Proofs.Table.Sections
import Mathlib.Data.List.Basic

/-! The draft for the methods that a table misses, read back and appended to the table.

`exists_closes_iff` tells from the table and the draft whether that closes the gap. Coverage puts in the names
of types one after the other, so that what it finds depends on their order; where no type that has a name
stands in another one it finds everything.
-/

set_option autoImplicit false

namespace Forwarding

open Text Spelling Checks Composite Coverage

/-- A method as a scan gives it, with names that are identifiers and types whose brackets pair up. -/
@[mk_iff]
structure Declaration.Scanned (d : Declaration) : Prop where
  subject : isIdentifierCore (flat d.subject) = true
  method : isIdentifierCore d.method = true
  tag : ∀ c ∈ d.tag, isIdentifierRest c = true
  arity : d.parameters.length ≤ 10
  types : ∀ type ∈ d.result :: d.parameters, Spelled type
  heading : Inline d.heading
  noColon : d.heading.head? ≠ some ':'

instance (d : Declaration) : Decidable d.Scanned := decidable_of_iff' _ (Declaration.scanned_iff d)

theorem Declaration.Collected.scanned {subject : Text} {d : Declaration} (collected : d.Collected subject)
    (class_ : isIdentifierCore (flat d.subject) = true) (method : isIdentifierCore d.method = true)
    (arity : d.parameters.length ≤ 10)
    (types : ∀ type ∈ d.result :: d.parameters,
      type ≠ [] ∧ ¬ "//".toList <:+: type ∧ Nested type ∧ AnglesBalanced type)
    (heading : Inline d.heading) (noColon : d.heading.head? ≠ some ':') : d.Scanned where
  subject := class_
  method := method
  tag := collected.tag
  arity := arity
  types type member :=
    have ⟨given, plain, nested, balanced⟩ := types type member
    ⟨given, collected.squeezed type member, plain, nested, balanced⟩
  heading := heading
  noColon := noColon

namespace Declaration

variable {d draft : Declaration}

theorem writable_of_written (written : ∀ a ∈ d.fields, Written a) : d.Writable where
  fields a member := (written a member).toField
  closed a member := (written a (List.dropLast_subset _ member)).nested.openAfter
  paired := Nested.paired_join fun a member => (written a member).nested

theorem written_of_rest {t : Text} (given : t ≠ [])
    (rest : ∀ c ∈ t, c = ':' ∨ isIdentifierRest c = true) : Written t := by
  have solid : ∀ c ∈ t, isBlank c = false := fun c member => by
    rcases rest c member with rfl | word
    · decide
    · exact isBlank_of_isIdentifierRest word
  refine written_of_isInert given (.of_solid solid) fun c member => ?_
  rcases rest c member with rfl | word
  · decide
  · simp [isInert, word]

namespace Scanned

variable (scanned : d.Scanned)
include scanned

theorem rest_of_mem_subject {c : Char} (member : c ∈ d.subject) : c = ':' ∨ isIdentifierRest c = true := by
  by_cases colon : c = ':'
  · exact .inl colon
  · refine .inr ((name_of_isIdentifierCore scanned.subject).rest c (mem_replace ?_ member))
    simpa using colon

theorem subject_ne_nil : d.subject ≠ [] := by
  intro none
  have core := scanned.subject
  rw [none] at core
  cases core

theorem subjectName_eq : d.subjectName = d.subject := by
  have written := written_of_rest scanned.subject_ne_nil fun c => scanned.rest_of_mem_subject
  rw [subjectName, bare, dropEnd_eq_self, written.inline.stripped]
  intro c last
  rcases scanned.rest_of_mem_subject (List.mem_of_getLast? last) with rfl | word
  · decide
  -- The marks of references and pointers are no characters of a name.
  · cases mark : isDeclarator c with
    | false => rfl
    | true =>
      simp only [isDeclarator, Bool.or_eq_true, beq_iff_eq] at mark
      rcases mark with rfl | rfl <;> revert word <;> decide

theorem checkNames_eq : d.checkNames = .ok () := by
  have result := (scanned.types d.result List.mem_cons_self)
  refine checkNames_eq_ok_iff.mpr ⟨?_, isIdentifier_of_isIdentifierCore scanned.method, ?_, ?_⟩
  · rw [scanned.subjectName_eq]
    exact isIdentifier_of_isIdentifierCore scanned.subject
  · rw [(squeeze_eq_self_iff.mp result.squeezed).1]
    exact result.given
  · apply isIdentifier_of_isIdentifierCore
    have bare : bare d.subject = d.subject := scanned.subjectName_eq
    have method := (name_of_isIdentifierCore scanned.method).rest
    rw [symbol, symbolOf, scanned.subjectName_eq, bare]
    exact isIdentifierCore_append (isIdentifierCore_append
      (isIdentifierCore_append scanned.subject (by decide)) method) scanned.tag

section
variable {existing : List Alias} {n : Naming} (redraws : Redraws n.Writes d draft) (sound : n.Sound existing)
include redraws sound

theorem written_types : ∀ type ∈ draft.result :: draft.parameters, Written type := by
  refine List.forall_mem_cons.mpr
    ⟨redraws.result.written sound (scanned.types d.result List.mem_cons_self), fun type member => ?_⟩
  obtain ⟨source, found, writes⟩ := exists_of_mem_right redraws.parameters member
  exact writes.written sound (scanned.types source (List.mem_cons_of_mem _ found))

theorem writable : draft.Writable := by
  have types := scanned.written_types redraws sound
  have method := name_of_isIdentifierCore scanned.method
  have same := redraws.same
  refine writable_of_written fun a member => ?_
  rw [fields, same] at member
  simp only [List.mem_cons, List.mem_append] at member
  rcases member with rfl | rfl | rfl | tag | parameter
  · exact written_of_rest scanned.subject_ne_nil fun c => scanned.rest_of_mem_subject
  · exact types _ List.mem_cons_self
  · exact written_of_rest method.given fun c inside => .inr (method.rest c inside)
  · split at tag
    · cases tag
    · next given =>
      rw [List.mem_singleton] at tag
      subst tag
      exact written_of_rest given fun c inside => .inr (scanned.tag c inside)
  · exact types a (List.mem_cons_of_mem _ parameter)

/-- A drafted row is valid wherever its types mention no alias. -/
theorem rowValid : ({} : Table).RowValid 0 draft := by
  have types := scanned.written_types redraws sound
  have names := checkNames_eq_ok_iff.mp scanned.checkNames_eq
  have same := redraws.same
  refine ⟨checkNames_eq_ok_iff.mpr ?_, ?_, fun type member => ?_⟩
  · rw [same]
    refine ⟨names.1, names.2.1, ?_, names.2.2.2⟩
    have result := types draft.result List.mem_cons_self
    rw [result.inline.stripped]
    exact result.given
  · rw [← redraws.parameters.length_eq]
    exact scanned.arity
  · have written := types type member
    refine ⟨?_, written.single, written.balanced, fun name _ a bound => by cases bound⟩
    rw [written.inline.stripped]
    exact written.given

end

end Scanned

end Declaration

namespace Draft

section
variable (t : Table) (discovered : List Declaration)

/-- The methods that a table misses. -/
def missing : List Declaration := (compute t discovered []).missing

/-- The table of the missing methods, with aliases for their composite types. -/
def table : Except Failure Table := do
  let (aliases, rows) ← Composite.aliases (missing t discovered) t.aliases
  return { rows, aliases }

/-- A table with its draft: the draft is written, read again as `source`, and appended. -/
def merged (source : Text) : Except Failure Table := do
  let draft ← table t discovered
  let again ← (Table.read source (draft.write [])).mapError .table
  match t.merge again with
  | (whole, none) => .ok whole
  | (_, some fault) => .error (.table fault)

/-- What a draft is for: the whole table is valid and misses nothing. -/
def Closes (source : Text) : Prop :=
  ∃ whole, merged t discovered source = .ok whole ∧ whole.validate = .ok () ∧ missing whole discovered = []

instance (source : Text) : Decidable (Closes t discovered source) :=
  match made : merged t discovered source with
  | .ok whole =>
    decidable_of_iff (whole.validate = .ok () ∧ missing whole discovered = []) (by simp [Closes, made])
  | .error _ => .isFalse (by simp [Closes, made])

/-- Each discovered method that no note is about has a row in the table or in the draft, as far as coverage can
tell: the names for types are put in one after the other, those of the table first. -/
def Covers (draft : Table) : Prop :=
  ∀ d ∈ discovered, noteFor t.notes d = none →
    discoveredKey (.ofList (normalNames (t.aliases ++ draft.aliases))) d ∈ (t.rows ++ draft.rows).map keyOf

instance (draft : Table) : Decidable (Covers t discovered draft) := inferInstanceAs (Decidable (∀ _ ∈ _, _))

/-- The draft goes with the table: its aliases have names that are identifiers, none of which the table has or
mentions; the symbols of the rows stay different; and every method is covered. -/
@[mk_iff]
structure Fits (draft : Table) : Prop where
  named : ∀ a ∈ draft.aliases, isIdentifier a.name = true
  new : ∀ a ∈ draft.aliases, a.name ∉ t.aliases.map Alias.name
  unused : ∀ d ∈ t.rows, ∀ type ∈ d.result :: d.parameters, ∀ a ∈ draft.aliases, a.name ∉ identifiers type
  symbols : ((t.rows ++ missing t discovered).map Declaration.symbol).Nodup
  covers : Covers t discovered draft

instance (draft : Table) : Decidable (Fits t discovered draft) := decidable_of_iff' _ (fits_iff ..)

/-- No type that has a name occurs where coverage should not put one in. -/
@[mk_iff]
structure Separate (draft : Table) : Prop where
  new : ∀ a ∈ draft.aliases, ∀ b ∈ t.aliases, normal a.underlying ≠ normal b.underlying
  /-- Coverage still finds the rows of the table that it has found. -/
  untouched : ∀ d ∈ t.rows, keyOf d ∈ discovered.map (discoveredKey (named t [])) →
    ∀ type ∈ d.parameters, ∀ a ∈ draft.aliases, ¬ normal a.underlying <:+: normal type
  /-- Coverage finds the rows of the draft. -/
  plain : ∀ d ∈ draft.rows, ∀ type ∈ d.parameters, ∀ a ∈ t.aliases ++ draft.aliases,
    ¬ normal a.underlying <:+: normal type
  alone : ∀ d ∈ missing t discovered, ∀ type ∈ d.parameters, isComposite type = true →
    ∀ p ∈ parts? type, p.isApart ∧
      ∀ a ∈ t.aliases ++ draft.aliases, normal a.underlying <:+: normal type → a.underlying = p.core

instance (draft : Table) : Decidable (Separate t discovered draft) := decidable_of_iff' _ (separate_iff ..)

end

variable {t : Table} {discovered : List Declaration}

theorem missing_subset : missing t discovered ⊆ discovered := fun _ member => (mem_missing_iff.mp member).1

theorem exists_table (settled : t.Settled) (scanned : ∀ d ∈ discovered, d.Scanned) :
    ∃ (n : Naming) (rows : List Declaration),
      table t discovered = .ok { rows, aliases := n.created } ∧ n.Sound t.aliases ∧
        List.Forall₂ (Redraws n.Writes) (missing t discovered) rows := by
  have start := Naming.sound_ofAliases fun a member => name_of_isIdentifierCore (settled.names a member)
  obtain ⟨n, rows, found, sound, -, redraws⟩ := exists_spellRows start
    fun d (member : d ∈ missing t discovered) => (scanned d (missing_subset member)).types
  refine ⟨n, rows, ?_, sound, redraws⟩
  simp only [table, Composite.aliases, found, ok_bind]
  rfl

theorem closes_iff_of_table {draft : Table} (made : table t discovered = .ok draft) {source : Text} :
    Closes t discovered source ↔ ∃ again whole, Table.read source (draft.write []) = .ok again ∧
      t.merge again = (whole, none) ∧ whole.validate = .ok () ∧ missing whole discovered = [] := by
  simp only [Closes, merged, made, ok_bind]
  cases Table.read source (draft.write []) with
  | error fault => simp [Except.mapError, error_bind]
  | ok again =>
    rcases result : t.merge again with ⟨whole, _ | fault⟩ <;> simp [Except.mapError, ok_bind, result]

/-! ### Reading a draft again -/

section
variable {existing : List Alias} {n : Naming} {missed rows : List Declaration}
  (redraws : List.Forall₂ (Redraws n.Writes) missed rows)
include redraws

theorem map_symbol_eq : missed.map Declaration.symbol = rows.map Declaration.symbol :=
  map_eq_map_of_forall₂ redraws fun d _ row _ here => by
    rw [here.same]
    rfl

variable (scanned : ∀ d ∈ missed, d.Scanned)
include scanned

theorem noColon_rows : ∀ row ∈ rows, row.heading.head? ≠ some ':' := fun row member => by
  obtain ⟨d, found, here⟩ := exists_of_mem_right redraws member
  rw [here.same]
  exact (scanned d found).noColon

variable (sound : n.Sound existing)
include sound

theorem writable_rows : ({ rows } : Table).Writable where
  rows row member := by
    obtain ⟨d, found, here⟩ := exists_of_mem_right redraws member
    refine ⟨(scanned d found).writable here sound, ?_⟩
    rw [here.same]
    exact (scanned d found).heading
  aliases := by simp
  names := by simp
  includes := by simp
  distinct := by simp
  notes := by simp

theorem isIdentifier_of_read {source : Text} {again : Table}
    (read : Table.read source (({ rows, aliases := n.created } : Table).write []) = .ok again) :
    ∀ a ∈ n.created, isIdentifier a.name = true := fun a member => by
  have definable : ∀ a ∈ n.created, a.Definable := fun a known =>
    have ⟨name, nameable⟩ := sound.created a known
    ⟨name, nameable.given, nameable.squeezed, nameable.plain⟩
  exact isIdentifier_of_isIdentifierCore (Table.isIdentifierCore_of_read_write
    (writable_rows redraws scanned sound) definable (noColon_rows redraws scanned) (by simp) read a member)

theorem exists_read (named : ∀ a ∈ n.created, isIdentifier a.name = true) (source : Text) :
    ∃ again, Table.read source (({ rows, aliases := n.created } : Table).write []) = .ok again ∧
      ({ rows, aliases := n.created } : Table).SameContent again ∧ (∀ a ∈ again.aliases, a.position = 0) ∧
        again.notes = [] := by
  have writable : ({ rows, aliases := n.created } : Table).Writable :=
    { writable_rows redraws scanned sound with
      aliases := fun a member => by
        obtain ⟨name, nameable⟩ := sound.created a member
        have core := named a member
        rw [name.isIdentifier_eq] at core
        exact ⟨⟨name, nameable.given, nameable.squeezed, nameable.plain⟩, core⟩
      names := sound.distinct }
  obtain ⟨again, read, same, places⟩ :=
    writable.exists_read_write source (noColon_rows redraws scanned) (by simp)
  exact ⟨again, read, same, places, Table.notes_of_read_write writable rfl read⟩

end

section
variable {draft again whole : Table} (same : draft.SameContent again)
include same

theorem map_keyOf_eq : again.rows.map keyOf = draft.rows.map keyOf := by
  have key : keyOf = keyOf ∘ Declaration.content := rfl
  rw [key, ← List.map_map, same.rows, List.map_map]

theorem map_name_eq : again.aliases.map Alias.name = draft.aliases.map Alias.name := by
  have names := congrArg (List.map Prod.fst) same.aliases
  simp only [Table.pairs, List.map_map] at names
  exact names

theorem forall_name_iff (P : Text → Prop) :
    (∀ a ∈ again.aliases, P a.name) ↔ ∀ a ∈ draft.aliases, P a.name := by
  simpa using congrArg (fun names => ∀ name ∈ names, P name) (map_name_eq same)

theorem exists_merge (distinct : (draft.aliases.map Alias.name).Nodup)
    (new : ∀ a ∈ draft.aliases, a.name ∉ t.aliases.map Alias.name) :
    ∃ whole, t.merge again = (whole, none) ∧ t.Joined again whole := by
  rw [← map_name_eq same] at distinct
  exact Table.exists_merge ((forall_name_iff same fun name => name ∉ t.aliases.map Alias.name).mpr new) distinct

theorem joined_of_merge (distinct : (draft.aliases.map Alias.name).Nodup) (merged : t.merge again = (whole, none)) :
    (∀ a ∈ draft.aliases, a.name ∉ t.aliases.map Alias.name) ∧ t.Joined again whole := by
  have apart := Table.apart_of_merge (by rwa [Table.aliasNames, map_name_eq same]) merged
  have new := (forall_name_iff same fun name => name ∉ t.aliases.map Alias.name).mp fun a member =>
    apart a.name (List.mem_map_of_mem member)
  obtain ⟨whole', again', joined⟩ := exists_merge same distinct new
  cases merged.symm.trans again'
  exact ⟨new, joined⟩

/-- Coverage takes the same names from the whole table as from the table and its draft. -/
theorem named_eq (joined : t.Joined again whole) :
    named whole [] = .ofList (normalNames (t.aliases ++ draft.aliases)) := by
  have pairs := congrArg (List.map fun entry => (Spelling.normal entry.2, entry.1)) same.aliases
  simp only [Table.pairs, List.map_map] at pairs
  rw [named, normalNames, joined.aliases]
  simp only [List.map_append, List.map_map, List.map_nil, List.append_nil]
  exact congrArg (fun behind => Bindings.ofList (_ ++ behind)) pairs

theorem missing_eq_nil_iff (silent : again.notes = []) (joined : t.Joined again whole) :
    missing whole discovered = [] ↔ Covers t discovered draft := by
  have notes : whole.notes = t.notes := by rw [joined.notes, silent, List.append_nil]
  have keys : whole.rows.map keyOf = (t.rows ++ draft.rows).map keyOf := by
    rw [joined.rows, List.map_append, map_keyOf_eq same, List.map_append]
  simp only [List.eq_nil_iff_forall_not_mem, missing, mem_missing_iff, notes, keys, named_eq same joined, Covers]
  grind

end

section
variable {n : Naming} {missed rows : List Declaration} {again whole : Table}
  (redraws : List.Forall₂ (Redraws n.Writes) missed rows) (scanned : ∀ d ∈ missed, d.Scanned)
  (sound : n.Sound t.aliases) (same : ({ rows, aliases := n.created } : Table).SameContent again)
  (places : ∀ a ∈ again.aliases, a.position = 0)
include redraws scanned sound same places

theorem rowValid_of_sameContent {j : Nat} {other : Declaration} (found : again.rows[j]? = some other) :
    again.RowValid j other := by
  have contents := congrArg (·[j]?) same.rows
  simp only [List.getElem?_map, found, Option.map_some] at contents
  obtain ⟨row, here, content⟩ := Option.map_eq_some_iff.mp contents.symm
  obtain ⟨d, member, draft⟩ := exists_of_mem_right redraws (List.mem_of_getElem? here)
  -- Its aliases are read before any row, so that none comes too late.
  refine ((scanned d member).rowValid draft sound).of_content content fun _ _ name _ a bound => ?_
  rw [places a (List.mem_of_find?_eq_some bound)]
  exact Nat.zero_le j

theorem valid_whole_iff (valid : t.Valid) (settled : t.Settled)
    (new : ∀ a ∈ n.created, a.name ∉ t.aliases.map Alias.name) (joined : t.Joined again whole) :
    whole.Valid ↔ ((t.rows ++ missed).map Declaration.symbol).Nodup ∧
      ∀ d ∈ t.rows, ∀ type ∈ d.result :: d.parameters, ∀ a ∈ n.created, a.name ∉ identifiers type := by
  have symbol : Declaration.symbol = Declaration.symbol ∘ Declaration.content := rfl
  have symbols : again.rows.map Declaration.symbol = missed.map Declaration.symbol := by
    rw [map_symbol_eq redraws, symbol, ← List.map_map, same.rows, List.map_map]
  have mentions := fun type => forall_name_iff same fun name => name ∉ identifiers type
  rw [joined.valid_iff valid settled.placed
    (fun j d found => rowValid_of_sameContent redraws scanned sound same places found)
    ((forall_name_iff same fun name => name ∉ t.aliases.map Alias.name).mpr new),
    List.map_append, symbols, ← List.map_append]
  simp only [mentions]

end

/-! ### Names that are put in -/

theorem discoveredKey_missing {n : Naming} {rows : List Declaration}
    (separate : Separate t discovered { rows, aliases := n.created })
    (redraws : List.Forall₂ (Redraws n.Writes) (missing t discovered) rows) (sound : n.Sound t.aliases)
    (scanned : ∀ d ∈ discovered, d.Scanned) :
    (missing t discovered).map (discoveredKey (.ofList (normalNames (t.aliases ++ n.created)))) =
      rows.map keyOf := by
  refine map_eq_map_of_forall₂ redraws fun d member row among here => ?_
  have types : (d.parameters.map normal).map (applyNames (.ofList (normalNames (t.aliases ++ n.created)))) =
      row.parameters.map normal := by
    rw [List.map_map]
    refine map_eq_map_of_forall₂ here.parameters fun type inside written found writes => ?_
    exact applyNames_normal writes sound
      ((scanned d (missing_subset member)).types type (List.mem_cons_of_mem _ inside))
      (separate.plain row among written found) (separate.alone d member type inside)
  rw [discoveredKey, here.same]
  simp only [keyOf, types]
  rfl

/-- Where the draft names no type of the table, its names are put in behind those of the table. -/
theorem names_eq {draft : Table}
    (new : ∀ a ∈ draft.aliases, ∀ b ∈ t.aliases, normal a.underlying ≠ normal b.underlying) :
    Bindings.ofList (normalNames (t.aliases ++ draft.aliases)) =
      named t [] ++ .ofList (normalNames draft.aliases) := by
  have apart : ∀ key ∈ (normalNames draft.aliases).map (·.1), key ∉ (normalNames t.aliases).map (·.1) := by
    intro key member known
    simp only [normalNames, List.map_map, List.mem_map, Function.comp_apply] at member known
    obtain ⟨a, inside, rfl⟩ := member
    obtain ⟨b, old, same⟩ := known
    exact new a inside b old same.symm
  rw [normalNames, List.map_append, ← normalNames, ← normalNames, Bindings.ofList_append apart, named]
  simp [normalNames]

theorem discoveredKey_declared {draft : Table} (separate : Separate t discovered draft) {d : Declaration}
    (among : d ∈ discovered) (declared : discoveredKey (named t []) d ∈ t.rows.map keyOf) :
    discoveredKey (.ofList (normalNames (t.aliases ++ draft.aliases))) d ∈ t.rows.map keyOf := by
  obtain ⟨row, member, key⟩ := List.mem_map.mp declared
  refine List.mem_map.mpr ⟨row, member, ?_⟩
  -- The names of the table lead to the types of the row, and those of the draft leave them alone.
  have types : ((keyOf d).parameters.map (applyNames (named t []))) = row.parameters.map normal :=
    (congrArg MatchKey.parameters key).symm
  have untouched : (row.parameters.map normal).map (applyNames (.ofList (normalNames draft.aliases))) =
      row.parameters.map normal := by
    rw [List.map_map]
    refine List.map_congr_left fun type inside => applyNames_of_absent fun entry found => ?_
    obtain ⟨a, known, rfl⟩ := List.mem_map.mp (Bindings.mem_of_mem_ofList found)
    exact separate.untouched row member (List.mem_map.mpr ⟨d, among, key.symm⟩) type inside a known
  have whole : (keyOf d).parameters.map (applyNames (.ofList (normalNames (t.aliases ++ draft.aliases)))) =
      row.parameters.map normal := by
    rw [names_eq separate.new, ← untouched, ← types, List.map_map]
    exact List.map_congr_left fun type _ => applyNames_append _ _ type
  have subject : row.subjectName = d.subjectName := congrArg MatchKey.subject key
  have method : row.method = d.method := congrArg MatchKey.method key
  simp only [discoveredKey, whole]
  simp only [keyOf, subject, method]

theorem covers_of_separate {n : Naming} {rows : List Declaration}
    (separate : Separate t discovered { rows, aliases := n.created })
    (redraws : List.Forall₂ (Redraws n.Writes) (missing t discovered) rows) (sound : n.Sound t.aliases)
    (scanned : ∀ d ∈ discovered, d.Scanned) : Covers t discovered { rows, aliases := n.created } := by
  intro d found silent
  rw [List.map_append, List.mem_append]
  by_cases missed : d ∈ missing t discovered
  · refine .inr ?_
    rw [← discoveredKey_missing separate redraws sound scanned]
    exact List.mem_map_of_mem missed
  · refine .inl (discoveredKey_declared separate found (Decidable.by_contra fun new => missed ?_))
    exact mem_missing_iff.mpr ⟨found, new, silent⟩

/-- A draft can always be made. It closes the gap, wherever it is stored in between, just when it fits; and it
covers every method if the types that have names are separate. -/
theorem exists_closes_iff (valid : t.validate = .ok ()) (settled : t.Settled)
    (scanned : ∀ d ∈ discovered, d.Scanned) :
    ∃ draft, table t discovered = .ok draft ∧ (∀ source, Closes t discovered source ↔ Fits t discovered draft) ∧
      (Separate t discovered draft → Covers t discovered draft) := by
  obtain ⟨n, rows, made, sound, redraws⟩ := exists_table settled scanned
  have missed : ∀ d ∈ missing t discovered, d.Scanned := fun d member => scanned d (missing_subset member)
  refine ⟨_, made, fun source => ?_, fun separate => covers_of_separate separate redraws sound scanned⟩
  rw [closes_iff_of_table made]
  constructor
  · -- That the draft could be read makes its names identifiers, and then it is known what was read.
    rintro ⟨again', whole, read', merged, accepted, covered⟩
    have named := isIdentifier_of_read redraws missed sound read'
    obtain ⟨again, read, same, places, silent⟩ := exists_read redraws missed sound named source
    cases read.symm.trans read'
    obtain ⟨new, joined⟩ := joined_of_merge same sound.distinct merged
    obtain ⟨symbols, unused⟩ :=
      (valid_whole_iff redraws missed sound same places (Table.validate_eq_ok_iff.mp valid) settled new joined).mp
        (Table.validate_eq_ok_iff.mp accepted)
    exact ⟨named, new, unused, symbols, (missing_eq_nil_iff same silent joined).mp covered⟩
  · intro fits
    obtain ⟨again, read, same, places, silent⟩ := exists_read redraws missed sound fits.named source
    obtain ⟨whole, merged, joined⟩ := exists_merge same sound.distinct fits.new
    have validity :=
      valid_whole_iff redraws missed sound same places (Table.validate_eq_ok_iff.mp valid) settled fits.new joined
    exact ⟨again, whole, read, merged, Table.validate_eq_ok_iff.mpr (validity.mpr ⟨fits.symbols, fits.unused⟩),
      (missing_eq_nil_iff same silent joined).mpr fits.covers⟩

/-! ### Drafts for one class -/

/-- A table, and a header that defines a class with methods that return nothing. -/
structure Sample where
  table : Table := {}
  file : Text := "a.h"
  methods : List (Text × List Text)

namespace Sample

def header (s : Sample) : HeaderUnit :=
  .of [.node { kind := .classDecl, name := "A", place := some ⟨s.file, 1⟩ }
    (s.methods.map fun (name, parameters) => .node { kind := .method, name, parameters } [])]

/-- What a scan of the header returns. -/
def scan (s : Sample) : List Declaration := Scan.declarationsOf (Scan.merged {} [s.header])

def row (method : Text) (parameters : List Text) : Declaration :=
  { subject := "A", result := "void", method, parameters }

end Sample

open Sample (row)

def closed : Sample where
  table := { aliases := [⟨"Grid", "Map<int, Cell>", 0, none⟩], rows := [row "f" ["int"]] }
  methods := [("f", ["int"]), ("g", ["const Pair<a, b> &"]), ("g", ["Pair<a, b> *", "Map<int, Cell>"])]

theorem closes_closed : ∃ draft, table closed.table closed.scan = .ok draft ∧
    Separate closed.table closed.scan draft ∧ Closes closed.table closed.scan "draft" := by
  obtain ⟨draft, made, closes, covers⟩ := exists_closes_iff (by decide +kernel : closed.table.validate = .ok ())
    (by decide +kernel) (by decide +kernel : ∀ d ∈ closed.scan, d.Scanned)
  have checked : (table closed.table closed.scan).toOption.all (fun draft => decide
      (Separate closed.table closed.scan draft ∧ Fits closed.table closed.scan draft)) = true := by
    decide +kernel
  rw [made] at checked
  obtain ⟨separate, fits⟩ := of_decide_eq_true checked
  exact ⟨draft, made, separate, (closes "draft").mpr fits⟩

/-- Samples whose drafts close the gap though a type that has a name stands in another one. -/
def nested : List Sample := [
  -- The outer type has its name first.
  { methods := [("f", ["Map<Pair<a, b>, c>"]), ("g", ["Pair<a, b>"])] },
  -- Nothing uses the alias that the table has for the type.
  { table := { aliases := [⟨"Other", "Pair<a,b>", 0, none⟩] }, methods := [("f", ["Pair<a, b>"])] },
  -- The class of the row is not discovered.
  { table := { rows := [{ row "h" ["function<void(Pair<a, b>)>"] with subject := "B" }] }
    methods := [("f", ["Pair<a, b>"])] }]

example : ∀ s ∈ nested, Closes s.table s.scan "draft" := by decide +kernel

/-- The table is valid and its aliases could have been registered, and the methods differ from each other
and are named and spelled as in a header; but the draft does not close the gap. -/
@[mk_iff]
structure Sample.StaysOpen (s : Sample) : Prop where
  valid : s.table.validate = .ok ()
  aliases : ∀ a ∈ s.table.aliases, isIdentifier a.name = true ∧ a.position ≤ s.table.rows.length
  names : ∀ d ∈ s.scan, isIdentifierCore (Declaration.flat d.subject) = true ∧ isIdentifierCore d.method = true
  arity : ∀ d ∈ s.scan, d.parameters.length ≤ 10
  types : ∀ d ∈ s.scan, ∀ type ∈ d.result :: d.parameters, Nested type ∧ AnglesBalanced type
  distinct : (s.scan.map keyOf).Nodup
  gap : ¬ Closes s.table s.scan "draft"

instance (s : Sample) : Decidable s.StaysOpen := decidable_of_iff' _ (Sample.staysOpen_iff s)

def gaps : List Sample := [
  -- The first overload in rank has no tag, and neither has the row of the other one.
  { table := { rows := [row "f" ["int"]] }, methods := [("f", []), ("f", ["int"])] },
  -- The type of the first method stands inside the type of the second.
  { methods := [("f", ["Pair<a, b>"]), ("g", ["Map<Pair<a, b>, c>"])] },
  -- In normal form there is no blank behind `const`.
  { methods := [("f", ["const <a, b>"])] },
  -- Coverage writes an alias for a type that the draft leaves as it is.
  { table := { aliases := [⟨"Count", "int", 0, none⟩] }, methods := [("f", ["int"])] },
  -- With an alias for the type of the second method, the row of the first is not found.
  { table := { rows := [row "f" ["function<void(Pair<a, b>)>"]] }
    methods := [("f", ["function<void(Pair<a, b>)>"]), ("g", ["Pair<a, b>"])] },
  -- The row comes before the alias that it happens to mention.
  { table := { rows := [row "f" ["PairAB"]] }, methods := [("g", ["Pair<a, b>"])] },
  -- Of two aliases for one type the first is forgotten, and its name is made again.
  { table := { aliases := [⟨"PairAB", "Pair<a, b>", 0, none⟩, ⟨"Other", "Pair<a, b>", 0, none⟩] }
    methods := [("f", ["Pair<A, B>"])] },
  -- The type has an alias in another spelling, which coverage gives up for the new one.
  { table := { aliases := [⟨"Other", "Pair<a,b>", 0, none⟩], rows := [row "f" ["Other"]] }
    methods := [("f", ["Pair<a, b>"]), ("g", ["Pair<a, b>"])] },
  -- The names that are made begin with a digit or run over a line.
  { methods := [("f", ["_3D<a, b>"])] },
  { table := { aliases := [⟨"Other\n", "Pair<a, b>", 0, none⟩] }, methods := [("f", ["Pair<a, b>"])] },
  -- The lines of the draft are not read as they were meant.
  { methods := [("f", ["a//b"])] },
  { methods := [("f", [" "])] },
  { file := ":/a.h", methods := [("f", [])] }]

theorem gaps_stay_open : gaps.Forall Sample.StaysOpen :=
  List.forall_iff_forall_mem.mpr (by decide +kernel)

end Draft

end Forwarding
