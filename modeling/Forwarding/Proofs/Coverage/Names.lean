import Forwarding.Coverage.Report
import Forwarding.Proofs.Bindings
import Forwarding.Proofs.Discovery.Composite
import Forwarding.Proofs.Spelling.Spacing
import Forwarding.Proofs.Text.Occurs

/-! Which methods a table misses, and how coverage writes their types. -/

set_option autoImplicit false

namespace Forwarding

open Text

namespace Coverage

variable {t : Table} {discovered : List Declaration} {others : Bindings Text Text} {d : Declaration}

theorem statusOf_eq_missing_iff {note : Option Note} : statusOf note = .missing ↔ note = none := by
  cases note with
  | none => simp [statusOf]
  | some n => cases kind : n.kind <;> simp [statusOf, kind]

theorem any_declared_iff {key : MatchKey} :
    ((declared t).any fun row => row.1 == key) = true ↔ key ∈ t.rows.map keyOf := by
  have keys : t.rows.map keyOf = (t.rows.map fun d => (keyOf d, d)).map (·.1) := by simp
  rw [keys, ← Bindings.mem_keys_ofList]
  simp [declared, List.any_eq_true]

theorem mem_missing_iff : d ∈ (compute t discovered others).missing ↔
    d ∈ discovered ∧ discoveredKey (named t others) d ∉ t.rows.map keyOf ∧ noteFor t.notes d = none := by
  simp only [missing, compute, List.partition_eq_filter_filter, List.mem_map, List.mem_filter]
  have undeclared : ∀ key, (!(declared t).any fun row => row.1 == key) = true ↔
      ¬ ∃ row, row ∈ t.rows ∧ keyOf row = key := by
    intro key
    rw [← List.mem_map, ← any_declared_iff, Bool.not_eq_true', Bool.not_eq_true]
  constructor
  · rintro ⟨u, ⟨⟨entry, ⟨⟨other, member, rfl⟩, new⟩, rfl⟩, status⟩, rfl⟩
    exact ⟨member, (undeclared _).mp new, statusOf_eq_missing_iff.mp (eq_of_beq status)⟩
  · rintro ⟨member, new, silent⟩
    refine ⟨⟨d, noteFor t.notes d⟩, ⟨⟨_, ⟨⟨d, member, rfl⟩, (undeclared _).mpr new⟩, rfl⟩, ?_⟩, rfl⟩
    simp [Uncovered.status, statusOf_eq_missing_iff.mpr silent]

end Coverage

end Forwarding

/-! ### Names instead of types

How coverage writes a type, and when that is how a draft writes it.

Coverage replaces one named type after the other wherever it occurs, so that types with names may not
occur in each other.
-/

namespace Forwarding

open Text Spelling

namespace Coverage

def normalNames (aliases : List Alias) : List (Text × Text) :=
  aliases.map fun a => (Spelling.normal a.underlying, a.name)

variable {names : Bindings Text Text} {s : Text}

theorem applyNames_cons (type name : Text) (names : Bindings Text Text) (s : Text) :
    applyNames ((type, name) :: names) s = applyNames names (replace type name s) := by
  have replaced : (if occurs type s then replace type name s else s) = replace type name s := by
    split
    · rfl
    · next absent => exact (replace_of_absent (mt occurs_iff.mpr absent)).symm
  exact congrArg (applyNames names) replaced

theorem applyNames_append (first second : Bindings Text Text) (s : Text) :
    applyNames (first ++ second) s = applyNames second (applyNames first s) := List.foldl_append

theorem applyNames_of_absent (absent : ∀ entry ∈ names, ¬ entry.1 <:+: s) : applyNames names s = s := by
  induction names with
  | nil => rfl
  | cons entry names ih =>
    rw [List.forall_mem_cons] at absent
    rw [applyNames_cons, replace_of_absent absent.1, ih absent.2]

/-- The only named type that occurs is written with its name, if it has a comma in it that tells where it
stands. -/
theorem applyNames_of_once {left old new right : Text} (member : (old, new) ∈ names)
    (distinct : (names.map (·.1)).Nodup) (comma : ',' ∈ old) (before : ',' ∉ left) (behind : ',' ∉ right)
    (others : ∀ entry ∈ names, entry.1 ≠ old → ¬ entry.1 <:+: left ++ (old ++ right))
    (after : ∀ entry ∈ names, ¬ entry.1 <:+: left ++ (new ++ right)) :
    applyNames names (left ++ (old ++ right)) = left ++ (new ++ right) := by
  obtain ⟨earlier, later, rfl⟩ := List.append_of_mem member
  rw [List.map_append, List.nodup_append] at distinct
  -- The pairs in front find nothing, and when this one has been used those behind it find nothing either.
  have first : applyNames earlier (left ++ (old ++ right)) = left ++ (old ++ right) :=
    applyNames_of_absent fun entry inside => others entry (List.mem_append_left _ inside) fun same =>
      distinct.2.2 entry.1 (List.mem_map_of_mem inside) old (by simp) same
  have last : applyNames later (left ++ (new ++ right)) = left ++ (new ++ right) :=
    applyNames_of_absent fun entry inside => after entry (by simp [inside])
  rw [applyNames_append, first, applyNames_cons, replace_once comma before behind, last]

/-- The name of a type in normal form is the name of the type itself, unless another type has the same
normal form. -/
theorem get?_normalNames {aliases : List Alias} {type : Text}
    (same : ∀ a ∈ aliases, normal a.underlying = normal type → a.underlying = type) :
    (Bindings.ofList (normalNames aliases)).get? (normal type) =
      (Bindings.ofList (Composite.typeNames aliases)).get? type := by
  have chosen : (aliases.filter fun a => normal a.underlying = normal type) =
      aliases.filter fun a => a.underlying = type := by
    refine List.filter_congr fun a member => ?_
    rw [decide_eq_decide]
    exact ⟨same a member, congrArg normal⟩
  rw [Bindings.get?_ofList, Bindings.get?_ofList, normalNames, Composite.typeNames, List.filter_map,
    List.filter_map, List.getLast?_map, List.getLast?_map, Option.map_map, Option.map_map]
  exact congrArg (fun found => (List.getLast? found).map Alias.name) chosen

end Coverage

namespace Composite

/-- No punctuation follows `const`. -/
def Parts.isApart (p : Parts) : Prop := p.lead ≠ [] → ∀ c ∈ p.core.head?, isPunctuation c = false

instance (p : Parts) : Decidable p.isApart := inferInstanceAs (Decidable (_ → ∀ _ ∈ p.core.head?, _))

namespace Parts.Spells

variable {p : Parts} {type name : Text} (spells : p.Spells type)
include spells

theorem isPunctuation_tail : ∀ c ∈ p.tail, isPunctuation c = true := fun c member => by
  have mark := spells.tail c member
  simp only [isDeclarator, Bool.or_eq_true, beq_iff_eq] at mark
  rcases mark with rfl | rfl <;> decide

theorem normal_eq (squeezed : squeeze type = type) (composite : HasOuterComma type) (apart : p.isApart) :
    normal type = p.lead ++ (normal p.core ++ p.tail) := by
  obtain ⟨gap, parts, gaps⟩ := spells.whole
  have core := squeeze_of_isInfix squeezed spells.core_isInfix spells.core
  have last : ∀ c, p.core.getLast? = some c → c ≠ ' ' := by
    rintro c found rfl
    have solid := getLast?_strip (t := p.core) (by rwa [spells.core])
    revert solid
    decide
  have rest : tighten false (p.core ++ (gap ++ p.tail)) = normal p.core ++ p.tail := by
    rw [normal_of_squeezed core]
    exact tighten_append_marks last gaps spells.isPunctuation_tail
  rw [normal_of_squeezed squeezed, ← rest]
  conv => lhs; rw [parts]
  rcases spells.lead with lead | lead
  · rw [lead]
    rfl
  · rw [lead]
    refine tighten_const fun c first => apart (by rw [lead]; decide) c ?_
    cases inside : p.core with
    | nil => exact absurd inside (List.ne_nil_of_mem (spells.comma_mem_core composite))
    | cons d core =>
      rw [inside] at first
      exact first

theorem squeeze_named (spelled : Spelled type) (named : Name name) :
    squeeze (p.lead ++ name ++ p.tail) = p.lead ++ name ++ p.tail := by
  have solid : ∀ c ∈ name ++ p.tail, isBlank c = false :=
    List.forall_mem_append.mpr ⟨named.solid, spells.solid_tail⟩
  have noSpace : ' ' ∉ name ++ p.tail := fun member => by
    have space := solid ' ' member
    revert space
    decide
  refine squeeze_eq_self_iff.mpr ⟨(spells.inline_named spelled named).stripped, fun c member blank => ?_, ?_⟩
  · rw [List.append_assoc, List.mem_append] at member
    have lead := member.resolve_right fun inside => by
      rw [solid c inside] at blank
      cases blank
    rcases spells.lead with none | const
    · rw [none] at lead
      cases lead
    · have each : "const ".toList.all (fun c => !isBlank c || c == ' ') = true := rfl
      rw [const] at lead
      simpa [blank] using List.all_eq_true.mp each c lead
  · rw [List.append_assoc]
    refine not_pair_append ?_ (not_pair_of_not_mem noSpace) (.inr fun first => noSpace (List.mem_of_head? first))
    rcases spells.lead with lead | lead <;> rw [lead] <;> decide

theorem normal_named (spelled : Spelled type) (named : Name name) :
    normal (p.lead ++ name ++ p.tail) = p.lead ++ (name ++ p.tail) := by
  have solid : ∀ c ∈ name ++ p.tail, c ≠ ' ' := by
    rintro c member rfl
    have space := List.forall_mem_append.mpr ⟨named.solid, spells.solid_tail⟩ ' ' member
    revert space
    decide
  rw [normal_of_squeezed (spells.squeeze_named spelled named), List.append_assoc]
  rcases spells.lead with lead | lead
  · rw [lead]
    exact tighten_of_solid solid
  · rw [lead, tighten_const, tighten_of_solid solid]
    intro c first
    cases parts : name with
    | nil => exact absurd parts named.given
    | cons d rest =>
      rw [parts] at first
      cases first
      have rest := named.rest c (by rw [parts]; exact List.mem_cons_self)
      exact isPunctuation_of_isWordChar (isWordChar_of_isIdentifierRest rest)

end Parts.Spells

end Composite

open Composite

/-- Coverage writes a type as a draft does, if no type that has a name occurs in the written type and
no other one in a composite type. -/
theorem Coverage.applyNames_normal {existing : List Alias} {n : Naming} {type written : Text}
    (writes : n.Writes type written) (sound : n.Sound existing) (spelled : Spelled type)
    (plain : ∀ a ∈ existing ++ n.created, ¬ normal a.underlying <:+: normal written)
    (alone : isComposite type = true → ∀ p, parts? type = some p → p.isApart ∧
      ∀ a ∈ existing ++ n.created, normal a.underlying <:+: normal type → a.underlying = p.core) :
    applyNames (.ofList (normalNames (existing ++ n.created))) (normal type) = normal written := by
  have of_mem : ∀ entry ∈ Bindings.ofList (normalNames (existing ++ n.created)),
      ∃ a ∈ existing ++ n.created, normal a.underlying = entry.1 := fun entry member => by
    obtain ⟨a, found, rfl⟩ := List.mem_map.mp (Bindings.mem_of_mem_ofList member)
    exact ⟨a, found, rfl⟩
  have absent : ∀ entry ∈ Bindings.ofList (normalNames (existing ++ n.created)),
      ¬ entry.1 <:+: normal written := fun entry member => by
    obtain ⟨a, found, same⟩ := of_mem entry member
    exact same ▸ plain a found
  cases writes with
  | single => exact applyNames_of_absent absent
  | @composite name p composite parts spells bound =>
    obtain ⟨apart, only⟩ := alone (isComposite_iff.mpr composite) p parts
    have named := sound.names _ (Bindings.mem_of_get? bound)
    have whole := spells.normal_eq spelled.squeezed composite apart
    rw [spells.normal_named spelled named] at absent ⊢
    rw [whole] at only ⊢
    have core : normal p.core <:+: p.lead ++ (normal p.core ++ p.tail) := ⟨p.lead, p.tail, by simp⟩
    -- The core is the only named type in it, and stands in one place since a comma stands nowhere else.
    refine applyNames_of_once (Bindings.mem_of_get? ?_) (Bindings.nodup_keys_ofList _) ?_
      spells.cuts.not_comma.1 spells.cuts.not_comma.2 (fun entry member other inside => other ?_) absent
    · rw [get?_normalNames fun a member same => only a member (same ▸ core), ← sound.bound, bound]
    · rw [normal_of_squeezed (squeeze_of_isInfix spelled.squeezed spells.core_isInfix spells.core)]
      exact mem_tighten (by decide) (spells.comma_mem_core composite)
    · obtain ⟨a, found, same⟩ := of_mem entry member
      rw [← same, only a found (same ▸ inside)]

end Forwarding
