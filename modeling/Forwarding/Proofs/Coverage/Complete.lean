import Forwarding.Proofs.Coverage.Names
import Forwarding.Table.Validation
import Mathlib.Data.List.Dedup
import Mathlib.Data.List.Perm.Subperm

/-! When a comparison finds nothing to report.

A method is looked up under the key that it gets when the types with names have been replaced, a row
under its own. Nothing is reported when the two sets of keys agree in the classes that have been
discovered.
-/

set_option autoImplicit false

namespace Forwarding.Coverage

open Text

/-- Every method that has been discovered is declared, and every row of its class has been discovered. -/
@[mk_iff]
structure Full (c : Coverage) : Prop where
  covered : c.covered = c.discovered
  uncovered : c.uncovered = []
  stale : c.stale = []

instance (c : Coverage) : Decidable c.Full := decidable_of_iff' _ (full_iff c)

variable {t : Table} {discovered : List Declaration} {others : Bindings Text Text} {row : Declaration}

theorem covered_eq_discovered_iff :
    (compute t discovered others).covered = (compute t discovered others).discovered ↔
      ∀ d ∈ discovered, discoveredKey (named t others) d ∈ t.rows.map keyOf := by
  simp only [compute, List.partition_eq_filter_filter]
  rw [← List.length_map (fun d => (discoveredKey (named t others) d, d)),
    List.length_filter_eq_length_iff, List.forall_mem_map]
  simp only [any_declared_iff]

theorem uncovered_eq_nil_iff : (compute t discovered others).uncovered = [] ↔
    ∀ d ∈ discovered, discoveredKey (named t others) d ∈ t.rows.map keyOf := by
  simp only [compute, List.partition_eq_filter_filter, List.map_eq_nil_iff, List.filter_eq_nil_iff,
    List.forall_mem_map, Function.comp_apply, Bool.not_eq_true', Bool.not_eq_false, any_declared_iff]

theorem keyOf_of_mem_declared {entry : MatchKey × Declaration} (member : entry ∈ declared t) :
    entry.2 ∈ t.rows ∧ keyOf entry.2 = entry.1 := by
  obtain ⟨row, inside, rfl⟩ := List.mem_map.mp (Bindings.mem_of_mem_ofList member)
  exact ⟨inside, rfl⟩

/-- A row is stale when its class has been discovered, declared or not, and the key of the row has not. -/
theorem compute_stale : (compute t discovered others).stale = ((declared t).filter fun entry =>
    entry.1 ∉ discovered.map (discoveredKey (named t others)) ∧
      entry.2.subjectName ∈ discovered.map Declaration.subjectName).map fun entry => entry.2 := by
  simp only [compute, List.partition_eq_filter_filter, List.filter_map, List.map_map]
  refine congrArg (List.map _) (List.filter_congr fun entry member => ?_)
  obtain ⟨inside, own⟩ := keyOf_of_mem_declared member
  have known : ((declared t).any fun row => row.1 == entry.1) = true :=
    any_declared_iff.mpr (List.mem_map.mpr ⟨entry.2, inside, own⟩)
  rw [Bool.eq_iff_iff, Bool.and_eq_true, Bool.not_eq_true', decide_eq_true_eq, ← Bool.not_eq_true,
    List.contains_iff_mem, List.contains_iff_mem]
  refine and_congr (not_congr ?_) ?_
  · simp only [List.mem_map, List.mem_filter, Function.comp_apply]
    constructor
    · rintro ⟨d, seen, same⟩
      exact ⟨d, seen.1, same⟩
    · rintro ⟨d, seen, same⟩
      exact ⟨d, ⟨seen, same ▸ known⟩, same⟩
  · -- The classes are counted among what is declared and what is not, which is all that is discovered.
    let isDeclared (d : Declaration) := (declared t).any fun row => row.1 == discoveredKey (named t others) d
    have both := List.perm_append_comm.trans (List.filter_append_perm isDeclared discovered)
    have names := both.map Declaration.subjectName
    rw [List.map_append] at names
    exact names.mem_iff

theorem map_keyOf_stale : (compute t discovered others).stale.map keyOf = ((declared t).filter fun entry =>
    entry.1 ∉ discovered.map (discoveredKey (named t others)) ∧
      entry.2.subjectName ∈ discovered.map Declaration.subjectName).map fun entry => entry.1 := by
  rw [compute_stale, List.map_map]
  exact List.map_congr_left fun entry member => (keyOf_of_mem_declared (List.mem_of_mem_filter member)).2

theorem mem_map_keyOf_stale_iff {key : MatchKey} : key ∈ (compute t discovered others).stale.map keyOf ↔
    key ∈ t.rows.map keyOf ∧ key ∉ discovered.map (discoveredKey (named t others)) ∧
      key.subject ∈ discovered.map Declaration.subjectName := by
  have subject : ∀ {entry}, entry ∈ declared t → entry.2.subjectName = entry.1.subject := fun member =>
    congrArg MatchKey.subject (keyOf_of_mem_declared member).2
  rw [map_keyOf_stale, List.mem_map]
  constructor
  · rintro ⟨entry, member, rfl⟩
    rw [List.mem_filter, decide_eq_true_eq] at member
    obtain ⟨found, missed, seen⟩ := member
    obtain ⟨inside, own⟩ := keyOf_of_mem_declared found
    exact ⟨List.mem_map.mpr ⟨entry.2, inside, own⟩, missed, subject found ▸ seen⟩
  · rintro ⟨known, missed, seen⟩
    obtain ⟨entry, found, same⟩ := List.any_eq_true.mp (any_declared_iff.mpr known)
    obtain rfl := eq_of_beq same
    exact ⟨entry, List.mem_filter.mpr ⟨found, decide_eq_true ⟨missed, (subject found).symm ▸ seen⟩⟩, rfl⟩

theorem stale_eq_nil_iff : (compute t discovered others).stale = [] ↔
    ∀ row ∈ t.rows, row.subjectName ∈ discovered.map Declaration.subjectName →
      keyOf row ∈ discovered.map (discoveredKey (named t others)) := by
  rw [← List.map_eq_nil_iff (f := keyOf), List.eq_nil_iff_forall_not_mem]
  simp only [mem_map_keyOf_stale_iff]
  constructor
  · intro none row member seen
    exact not_not.mp fun missed => none (keyOf row) ⟨List.mem_map_of_mem member, missed, seen⟩
  · rintro each _ ⟨known, missed, seen⟩
    obtain ⟨row, member, rfl⟩ := List.mem_map.mp known
    exact missed (each row member seen)

/-- Nothing is reported when the keys of what has been discovered are the keys of the rows of the classes
that have been discovered. -/
theorem full_compute_iff : (compute t discovered others).Full ↔
    (∀ d ∈ discovered, discoveredKey (named t others) d ∈ t.rows.map keyOf) ∧
      ∀ row ∈ t.rows, row.subjectName ∈ discovered.map Declaration.subjectName →
        keyOf row ∈ discovered.map (discoveredKey (named t others)) := by
  rw [← stale_eq_nil_iff]
  constructor
  · exact fun full => ⟨uncovered_eq_nil_iff.mp full.uncovered, full.stale⟩
  · rintro ⟨each, fresh⟩
    exact ⟨covered_eq_discovered_iff.mpr each, uncovered_eq_nil_iff.mpr each, fresh⟩

theorem named_nil (t : Table) : named t [] = .ofList (normalNames t.aliases) := by
  rw [named, List.map_nil, List.append_nil]
  rfl

theorem discoveredKey_eq {names : Bindings Text Text} {d row : Declaration}
    (subject : d.subjectName = row.subjectName) (method : d.method = row.method)
    (parameters : d.parameters.map (fun type => applyNames names (Spelling.normal type)) =
      row.parameters.map Spelling.normal) : discoveredKey names d = keyOf row := by
  rw [discoveredKey, keyOf, keyOf, MatchKey.mk.injEq, List.map_map]
  exact ⟨subject, method, parameters⟩

/-! ### A table against its own rows -/

def MatchKey.named (names : Bindings Text Text) (key : MatchKey) : MatchKey :=
  { key with parameters := key.parameters.map (applyNames names) }

/-- A function that reaches each member of a list from a member does not lead out of the list, for there
are not more values than members. -/
theorem mem_of_forall_mem_map {α : Type} [DecidableEq α] {f : α → α} {members : List α}
    (reached : ∀ a ∈ members, a ∈ members.map f) {a : α} (member : a ∈ members) : f a ∈ members := by
  have values : ∀ b ∈ members, f b ∈ members.dedup.map f := fun b inside =>
    List.mem_map_of_mem (List.mem_dedup.mpr inside)
  have subset : members.dedup ⊆ members.dedup.map f := by
    intro b inside
    obtain ⟨origin, found, rfl⟩ := List.mem_map.mp (reached b (List.mem_dedup.mp inside))
    exact values origin found
  have perm := ((List.nodup_dedup members).subperm subset).perm_of_length_le (List.length_map f).le
  exact List.mem_dedup.mp (perm.mem_iff.mpr (values a member))

theorem map_discoveredKey (names : Bindings Text Text) (rows : List Declaration) :
    rows.map (discoveredKey names) = (rows.map keyOf).map (.named names) := by
  rw [List.map_map]
  rfl

/-- A table reports nothing about its own rows when each row's key is the one under which some row is
looked up, which is so when no alias's type occurs in a parameter. -/
theorem full_compute_rows (t : Table) :
    (compute t t.rows []).discovered = t.rows.length ∧
    ((compute t t.rows []).Full ↔
      ∀ row ∈ t.rows, ∃ other ∈ t.rows, discoveredKey (named t []) other = keyOf row) ∧
    ((∀ a ∈ t.aliases, ∀ row ∈ t.rows, ∀ type ∈ row.parameters,
      ¬ Spelling.normal a.underlying <:+: Spelling.normal type) → (compute t t.rows []).Full) := by
  have iff : (compute t t.rows []).Full ↔
      ∀ row ∈ t.rows, ∃ other ∈ t.rows, discoveredKey (named t []) other = keyOf row := by
    simp only [← List.mem_map]
    rw [full_compute_iff]
    refine ⟨fun full row member => full.2 row member (List.mem_map_of_mem member), fun each => ?_⟩
    refine ⟨fun d member => ?_, fun row member _ => each row member⟩
    -- Every key is reached from a key, so that no key can lead to one that no row has.
    rw [map_discoveredKey, ← List.forall_mem_map (f := keyOf)] at each
    exact mem_of_forall_mem_map each (List.mem_map_of_mem member)
  refine ⟨rfl, iff, fun absent => iff.mpr fun row member => ⟨row, member, ?_⟩⟩
  refine discoveredKey_eq rfl rfl (List.map_congr_left fun type inside => ?_)
  refine applyNames_of_absent fun entry found => ?_
  rw [named_nil] at found
  obtain ⟨a, alias_, rfl⟩ := List.mem_map.mp (Bindings.mem_of_mem_ofList found)
  exact absent a alias_ row member type inside

/-- A method that takes one parameter. -/
def setter (parameter : Text) : Declaration :=
  { subject := "IActor", result := "void", method := "set", parameters := [parameter] }

def single (aliases : List (Text × Text)) (parameter : Text) : Table :=
  { rows := [setter parameter]
    aliases := aliases.map fun (name, underlying) => { name, underlying } }

theorem full_compute_single :
    (compute (single [("IntPair", "Pair<int, int>")] "const IntPair &") [setter "const IntPair &"] []).Full :=
  (full_compute_rows (single [("IntPair", "Pair<int, int>")] "const IntPair &")).2.2 (by decide)

/-- A row is not covered by itself when it spells out the type of an alias inside another type, when a
type in it only begins with that type, and when it has an alias whose name holds the type. -/
theorem valid_not_full :
    [single [("IntPair", "Pair<int, int>")] "function<void(Pair<int, int>)>",
      single [("Index", "int")] "int32", single [("intId", "int")] "intId"].Forall
      fun t => t.validate = .ok () ∧ ¬ (compute t t.rows []).Full := by
  decide +kernel

end Forwarding.Coverage
