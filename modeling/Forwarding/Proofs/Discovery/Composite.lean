import Forwarding.Proofs.Bindings
import Forwarding.Proofs.Discovery.Parts
import Forwarding.Proofs.Spelling.Brackets
import Forwarding.Proofs.Table.Writable
import Mathlib.Data.List.Forall2
import Mathlib.Data.List.Infix
import Mathlib.Data.List.Nodup
import Mathlib.Tactic.MkIffOfInductiveProp

/-! Writing rows with aliases for their composite types.

The names that are made are new, and a row that is written with them can be written as a line. The
invariant is `Naming.Sound`; each operation on a naming keeps it.
-/

set_option autoImplicit false

namespace Forwarding

open Text Spelling Checks

section
variable {α β γ : Type} {R : α → β → Prop} {xs : List α} {ys : List β} (related : List.Forall₂ R xs ys)
include related

theorem exists_of_mem_right {y : β} (member : y ∈ ys) : ∃ x ∈ xs, R x y := by
  induction related with
  | nil => cases member
  | @cons x _ _ _ here _ ih =>
    rcases List.mem_cons.mp member with rfl | later
    · exact ⟨x, List.mem_cons_self, here⟩
    · obtain ⟨other, found, holds⟩ := ih later
      exact ⟨other, List.mem_cons_of_mem _ found, holds⟩

theorem map_eq_map_of_forall₂ {f : α → γ} {g : β → γ}
    (same : ∀ x ∈ xs, ∀ y ∈ ys, R x y → f x = g y) : xs.map f = ys.map g := by
  induction related with
  | nil => rfl
  | cons here _ ih =>
    rw [List.map_cons, List.map_cons, same _ List.mem_cons_self _ List.mem_cons_self here]
    exact congrArg (_ :: ·) (ih fun x inside y among =>
      same x (List.mem_cons_of_mem _ inside) y (List.mem_cons_of_mem _ among))

end

namespace Composite

theorem nodup_numbered (base : Text) (count : Nat) :
    (base :: (List.range count).map fun i => base ++ decimal (i + 2)).Nodup := by
  refine List.nodup_cons.mpr ⟨fun member => ?_, ?_⟩
  · obtain ⟨i, -, same⟩ := List.mem_map.mp member
    exact Nat.toDigits_ne_nil (List.append_right_eq_self.mp same)
  · refine List.pairwise_map.mpr (List.nodup_range.imp fun {i j} differ same => differ ?_)
    have numbers := decimal_injective (List.append_cancel_left same)
    omega

theorem freeName_not_mem (used : List Text) (base : Text) : freeName used base ∉ used := by
  rw [freeName]
  cases found : List.find? (fun name => !used.contains name)
      (base :: (List.range (used.length + 1)).map fun i => base ++ decimal (i + 2)) with
  | some name =>
    have free := List.find?_some found
    simpa using free
  | none =>
    rw [List.find?_eq_none] at found
    -- There are more numbered names than names in use, so that not all of them can be.
    have within := (nodup_numbered base (used.length + 1)).length_le_of_subset
      fun name member => (by simpa using found name member : name ∈ used)
    rw [List.length_cons, List.length_map, List.length_range] at within
    omega

/-! ### Names that types suggest -/

/-- Letters and digits stay letters and digits in the other case. -/
private theorem isAlphanum_cased {c : Char} (alphanum : c.isAlphanum = true) :
    c.toUpper.isAlphanum = true ∧ c.toLower.isAlphanum = true := by
  have each : ∀ n < 128, (Char.ofNat n).isAlphanum = true →
      (Char.ofNat n).toUpper.isAlphanum = true ∧ (Char.ofNat n).toLower.isAlphanum = true := by
    decide +kernel
  -- Letters and digits are ASCII here, and few enough to be looked at one by one.
  have bound : c.toNat < 128 := by
    have ranges := isAlphanum_iff.mp alphanum
    omega
  rw [← Char.ofNat_toNat c] at alphanum ⊢
  exact each _ bound alphanum

private theorem isAlphanum_capitalized {word : Text} (all : ∀ c ∈ word, c.isAlphanum = true) :
    ∀ c ∈ Alias.capitalized word, c.isAlphanum = true := by
  rw [Alias.capitalized]
  split
  · simp
  · next first rest cased =>
    have kept : ∀ c ∈ first :: rest, c.isAlphanum = true := by
      rw [← cased]
      split
      · exact List.forall_mem_map.mpr fun c member => (isAlphanum_cased (all c member)).2
      · exact all
    rw [List.forall_mem_cons] at kept
    exact List.forall_mem_cons.mpr ⟨(isAlphanum_cased kept.1).1, kept.2⟩

private theorem of_mem_runs {kind : Char → Bool} {t run : Text} (member : run ∈ runs kind kind t) :
    ∀ c ∈ run, kind c = true := by
  have each : ∀ inside, (∀ c ∈ (runsFrom kind kind inside t).1, kind c = true) ∧
      ∀ run ∈ (runsFrom kind kind inside t).2, ∀ c ∈ run, kind c = true := by
    clear member
    induction t with
    | nil => simp [runsFrom]
    | cons c t ih =>
      intro inside
      cases fits : kind c with
      | false => simpa [runsFrom, fits] using (ih false).2
      | true =>
        have run : ∀ d ∈ c :: (runsFrom kind kind true t).1, kind d = true :=
          List.forall_mem_cons.mpr ⟨fits, (ih true).1⟩
        cases inside with
        | false =>
          rw [show runsFrom kind kind false (c :: t) = ([], (c :: (runsFrom kind kind true t).1) ::
            (runsFrom kind kind true t).2) by simp [runsFrom, fits]]
          exact ⟨by simp, List.forall_mem_cons.mpr ⟨run, (ih true).2⟩⟩
        | true =>
          rw [show runsFrom kind kind true (c :: t) = (c :: (runsFrom kind kind true t).1,
            (runsFrom kind kind true t).2) by simp [runsFrom, fits]]
          exact ⟨run, (ih true).2⟩
  exact (each false).2 run member

theorem name_suggestedName (type : Text) : Name (Alias.suggestedName type) := by
  rw [Alias.suggestedName]
  split
  · exact ⟨by decide, by decide⟩
  · next given =>
    refine ⟨given, fun c member => isIdentifierRest_of_isAlphanum ?_⟩
    obtain ⟨word, found, inside⟩ := List.mem_flatMap.mp member
    exact isAlphanum_capitalized (of_mem_runs (List.mem_filter.mp found).1) c inside

theorem name_freeName (used : List Text) {base : Text} (name : Name base) :
    Name (freeName used base) := by
  have numbered : ∀ n, Name (base ++ decimal n) := fun n =>
    ⟨by simp [name.given],
      List.forall_mem_append.mpr ⟨name.rest, fun _ => isIdentifierRest_of_mem_decimal⟩⟩
  rw [freeName]
  cases found : List.find? (fun name => !used.contains name)
      (base :: (List.range (used.length + 1)).map fun i => base ++ decimal (i + 2)) with
  | none => exact name
  | some chosen =>
    rcases List.mem_cons.mp (List.mem_of_find?_eq_some found) with rfl | member
    · exact name
    · obtain ⟨i, -, rfl⟩ := List.mem_map.mp member
      exact numbered (i + 2)

/-! ### What a naming does to a type -/

/-- A type as a header has it. -/
@[mk_iff]
structure Spelled (type : Text) : Prop where
  given : type ≠ []
  squeezed : squeeze type = type
  plain : ¬ "//".toList <:+: type
  nested : Nested type
  balanced : AnglesBalanced type

instance (type : Text) : Decidable (Spelled type) := decidable_of_iff' _ (spelled_iff type)

/-- A type that a row can be written with. -/
structure Written (type : Text) : Prop extends Field type where
  nested : Nested type
  balanced : AnglesBalanced type

/-- A type that an alias can be made for. -/
structure Nameable (type : Text) : Prop where
  given : type ≠ []
  squeezed : squeeze type = type
  plain : ¬ "//".toList <:+: type

def typeNames (aliases : List Alias) : List (Text × Text) := aliases.map fun a => (a.underlying, a.name)

theorem ofList_typeNames_concat (aliases : List Alias) (a : Alias) :
    Bindings.ofList (typeNames (aliases ++ [a])) = (Bindings.ofList (typeNames aliases)).set a.underlying a.name := by
  rw [typeNames, List.map_append, List.map_singleton, Bindings.ofList_concat, ← typeNames]

/-- A new alias keeps the names of aliases different, or their types. -/
theorem nodup_map_concat {part : Alias → Text} {aliases : List Alias} {a : Alias} (distinct : (aliases.map part).Nodup)
    (new : part a ∉ aliases.map part) : ((aliases ++ [a]).map part).Nodup := by
  rw [List.map_append, List.map_singleton, ← List.concat_eq_append]
  exact List.Nodup.concat new distinct

/-- What holds of the names at any time after some aliases. -/
structure Naming.Sound (existing : List Alias) (n : Naming) : Prop where
  bound : n.names = .ofList (typeNames (existing ++ n.created))
  names : ∀ entry ∈ n.names, Name entry.2
  used : ∀ a ∈ n.created, a.name ∈ n.used
  distinct : (n.created.map Alias.name).Nodup
  created : ∀ a ∈ n.created, Name a.name ∧ Nameable a.underlying

def Naming.Extends (later n : Naming) : Prop :=
  ∀ type name, n.names.get? type = some name → later.names.get? type = some name

theorem Naming.Extends.refl (n : Naming) : n.Extends n := fun _ _ => id

theorem Naming.Extends.trans {first second third : Naming} (two : third.Extends second)
    (one : second.Extends first) : third.Extends first :=
  fun type name found => two type name (one type name found)

inductive Naming.Writes (n : Naming) : Text → Text → Prop where
  | single {type : Text} : ¬ HasOuterComma type → Writes n type type
  | composite {type name : Text} {p : Parts} : HasOuterComma type → parts? type = some p →
      p.Spells type → n.names.get? p.core = some name → Writes n type (p.lead ++ name ++ p.tail)

theorem Naming.Writes.extend {n later : Naming} {type written : Text} (writes : n.Writes type written)
    (extends_ : later.Extends n) : later.Writes type written := by
  cases writes with
  | single single => exact .single single
  | composite composite parts spells found =>
    exact .composite composite parts spells (extends_ _ _ found)

namespace Naming

variable {existing : List Alias} {n : Naming} {type : Text}

theorem get?_name (n : Naming) (type : Text) :
    (n.name type).1.names.get? type = some (n.name type).2 := by
  rw [name]
  split
  · next found => exact found
  · rw [Bindings.get?_set, if_pos rfl]

theorem extends_name (n : Naming) (type : Text) : (n.name type).1.Extends n := by
  rw [name]
  split
  · exact .refl n
  · next none =>
    intro other name found
    have apart : type ≠ other := by
      rintro rfl
      rw [none] at found
      cases found
    rwa [Bindings.get?_set, if_neg apart]

theorem Sound.name (sound : n.Sound existing) (nameable : Nameable type) :
    (n.name type).1.Sound existing := by
  rw [Naming.name]
  split
  · exact sound
  · have new := freeName_not_mem n.used (Alias.suggestedName type)
    -- A type that has no name gets one that is not in use; the five parts grow by it one by one.
    have name := name_freeName n.used (name_suggestedName type)
    refine ⟨?_, fun entry member => ?_, ?_, ?_, ?_⟩
    · rw [← List.append_assoc, ofList_typeNames_concat, ← sound.bound]
    · rcases Bindings.mem_of_mem_set member with old | rfl
      · exact sound.names entry old
      · exact name
    · refine List.forall_mem_append.mpr ⟨fun a member => ?_, ?_⟩
      · exact List.mem_append_left _ (sound.used a member)
      · simp
    · refine nodup_map_concat sound.distinct fun member => new ?_
      obtain ⟨a, inside, same⟩ := List.mem_map.mp member
      have taken := sound.used a inside
      rwa [same] at taken
    · refine List.forall_mem_append.mpr ⟨sound.created, ?_⟩
      simpa using ⟨name, nameable⟩

end Naming

/-! ### Writing types and rows -/

/-- The characters that neither end an argument of a row nor open or close anything in it. -/
def isInert (c : Char) : Bool := isBlank c || isIdentifierRest c || isDeclarator c || c == ':'

theorem not_mem_of_isInert {t : Text} {c : Char} (inert : ∀ c ∈ t, isInert c = true)
    (other : isInert c = false) : c ∉ t := fun member => by
  rw [inert c member] at other
  cases other

namespace Parts.Cuts

variable {p : Parts} {type : Text} (cuts : p.Cuts type)
include cuts

theorem isInert_lead : ∀ c ∈ p.lead, isInert c = true := by
  rcases cuts.lead with lead | ⟨blanks, lead, -, blank⟩ <;> rw [lead]
  · simp
  · refine List.forall_mem_append.mpr ⟨List.all_eq_true.mp rfl, fun c member => ?_⟩
    simp [isInert, blank c member]

theorem isInert_tail : ∀ c ∈ p.tail, isInert c = true := fun c member => by
  simp [isInert, cuts.tail c member]

theorem not_comma : ',' ∉ p.lead ∧ ',' ∉ p.tail :=
  ⟨not_mem_of_isInert cuts.isInert_lead (by decide), not_mem_of_isInert cuts.isInert_tail (by decide)⟩

end Parts.Cuts

namespace Parts.Spells

variable {p : Parts} {type name : Text} (spells : p.Spells type)
include spells

theorem comma_mem_core (composite : HasOuterComma type) : ',' ∈ p.core := by
  obtain ⟨left, right, comma, -⟩ := composite
  obtain ⟨gap, parts, gaps⟩ := spells.whole
  have member : ',' ∈ p.lead ++ (p.core ++ (gap ++ p.tail)) := by
    rw [← parts, comma]
    simp
  have between : ',' ∉ gap := by
    rcases gaps with rfl | ⟨rfl, -⟩ <;> decide
  simp only [List.mem_append] at member
  rcases member with lead | core | inside | tail
  · exact absurd lead spells.cuts.not_comma.1
  · exact core
  · exact absurd inside between
  · exact absurd tail spells.cuts.not_comma.2

theorem solid_tail : ∀ c ∈ p.tail, isBlank c = false := fun c member => by
  have mark := spells.tail c member
  simp only [isDeclarator, Bool.or_eq_true, beq_iff_eq] at mark
  rcases mark with rfl | rfl <;> decide

theorem core_isInfix : p.core <:+: type := by
  obtain ⟨gap, parts, -⟩ := spells.whole
  exact ⟨p.lead, gap ++ p.tail, by rw [parts, List.append_assoc]⟩

theorem nameable (spelled : Spelled type) (composite : HasOuterComma type) : Nameable p.core where
  given := List.ne_nil_of_mem (spells.comma_mem_core composite)
  squeezed := squeeze_of_isInfix spelled.squeezed spells.core_isInfix spells.core
  plain slashes := spelled.plain (slashes.trans spells.core_isInfix)

theorem isInert_named (named : Name name) : ∀ c ∈ p.lead ++ name ++ p.tail, isInert c = true := by
  refine List.forall_mem_append.mpr ⟨List.forall_mem_append.mpr ⟨spells.cuts.isInert_lead, ?_⟩,
    spells.cuts.isInert_tail⟩
  intro c member
  simp [isInert, named.rest c member]

theorem inline_named (spelled : Spelled type) (named : Name name) :
    Inline (p.lead ++ name ++ p.tail) := by
  obtain ⟨gap, parts, -⟩ := spells.whole
  have whole := unbroken_of_squeezed spelled.squeezed
  have lead : Unbroken p.lead := whole.of_infix ⟨[], p.core ++ (gap ++ p.tail), parts.symm⟩
  have front : Inline (p.lead ++ name) := by
    refine .append lead (fun c first => ?_) named.given (.of_solid named.solid)
    rcases spells.lead with lead | lead <;> rw [lead] at first <;> cases first
    rfl
  by_cases none : p.tail = []
  · rwa [none, List.append_nil]
  · exact .append front.unbroken (fun c first => front.head first) none (.of_solid spells.solid_tail)

end Parts.Spells

theorem isBracket_of_isInert {c : Char} (inert : isInert c = true) : isBracket c = false := by
  cases kind : isBracket c with
  | false => rfl
  | true =>
    simp only [isBracket, isOpener, Bool.or_eq_true, beq_iff_eq] at kind
    rcases kind with (((((rfl | rfl) | rfl) | rfl) | rfl) | rfl) <;> revert inert <;> decide

variable {existing : List Alias} {n : Naming} {type : Text}

theorem Spelled.written (spelled : Spelled type) (single : ¬ HasOuterComma type) : Written type where
  given := spelled.given
  inline := ⟨unbroken_of_squeezed spelled.squeezed, (squeeze_eq_self_iff.mp spelled.squeezed).1⟩
  plain := spelled.plain
  single := single
  nested := spelled.nested
  balanced := spelled.balanced

theorem written_of_isInert {t : Text} (given : t ≠ []) (inline : Inline t)
    (inert : ∀ c ∈ t, isInert c = true) : Written t where
  given := given
  inline := inline
  plain := not_pair_of_not_mem (not_mem_of_isInert inert (by decide))
  single := by
    rintro ⟨left, right, rfl, -⟩
    exact not_mem_of_isInert inert (by decide : isInert ',' = false) (by simp)
  nested := .of_plain fun c member => isBracket_of_isInert (inert c member)
  balanced := .plain (not_mem_of_isInert inert (by decide)) (not_mem_of_isInert inert (by decide))

theorem Naming.Writes.written {found : Text} (writes : n.Writes type found) (sound : n.Sound existing)
    (spelled : Spelled type) : Written found := by
  cases writes with
  | single single => exact spelled.written single
  | composite _ _ spells bound =>
    have named := sound.names _ (Bindings.mem_of_get? bound)
    exact written_of_isInert (by simp [named.given]) (spells.inline_named spelled named)
      (spells.isInert_named named)

theorem exists_spell (sound : n.Sound existing) (spelled : Spelled type) :
    ∃ later written, spell n type = .ok (later, written) ∧ later.Sound existing ∧ later.Extends n ∧
      later.Writes type written := by
  by_cases composite : HasOuterComma type
  · obtain ⟨p, parts, spells⟩ := exists_parts spelled.squeezed
    refine ⟨(n.name p.core).1, p.lead ++ (n.name p.core).2 ++ p.tail, ?_,
      sound.name (spells.nameable spelled composite), n.extends_name p.core,
      .composite composite parts spells (n.get?_name p.core)⟩
    simp [spell, isComposite_iff.mpr composite, parts]
  · refine ⟨n, type, ?_, sound, .refl n, .single composite⟩
    rw [← isComposite_iff, Bool.not_eq_true] at composite
    simp [spell, composite]

/-- Something holds of a naming and goes on to hold while types are written, and how a type has been written stays
true of later namings. -/
structure Naming.Steady (Holds : Naming → Prop) (Fits : Text → Prop) (Writes : Naming → Text → Text → Prop) :
    Prop where
  spell : ∀ {n type}, Holds n → Fits type →
    ∃ later written, spell n type = .ok (later, written) ∧ Holds later ∧ later.Extends n ∧ Writes later type written
  extend : ∀ {n later : Naming} {type written}, Writes n type written → later.Extends n → Writes later type written

/-- A row with other types. -/
structure Redraws (Writes : Text → Text → Prop) (d draft : Declaration) : Prop where
  same : draft = { d with result := draft.result, parameters := draft.parameters }
  result : Writes d.result draft.result
  parameters : List.Forall₂ Writes d.parameters draft.parameters

theorem Redraws.imp {Writes More : Text → Text → Prop} {d draft : Declaration} (redraws : Redraws Writes d draft)
    (more : ∀ {type written}, Writes type written → More type written) : Redraws More d draft :=
  ⟨redraws.same, more redraws.result, redraws.parameters.imp fun _ _ => more⟩

namespace Naming.Steady

variable {Holds : Naming → Prop} {Fits : Text → Prop} {Writes : Naming → Text → Text → Prop}
  (steady : Steady Holds Fits Writes)
include steady

theorem spellAll {types : List Text} (holds : Holds n) (fits : ∀ type ∈ types, Fits type) :
    ∃ later written, Composite.spellAll n types = .ok (later, written) ∧ Holds later ∧ later.Extends n ∧
      List.Forall₂ (Writes later) types written := by
  induction types generalizing n with
  | nil => exact ⟨n, [], rfl, holds, .refl n, .nil⟩
  | cons type types ih =>
    rw [List.forall_mem_cons] at fits
    obtain ⟨middle, first, here, kept, grows, writes⟩ := steady.spell holds fits.1
    obtain ⟨later, rest, behind, still, more, others⟩ := ih kept fits.2
    -- The later naming only has more names, so that what has been written with the earlier one stays right.
    refine ⟨later, first :: rest, ?_, still, more.trans grows, .cons (steady.extend writes more) others⟩
    simp only [Composite.spellAll, here, behind, ok_bind]
    rfl

theorem spellRow {d : Declaration} (holds : Holds n) (fits : ∀ type ∈ d.result :: d.parameters, Fits type) :
    ∃ later draft, Composite.spellRow n d = .ok (later, draft) ∧ Holds later ∧ later.Extends n ∧
      Redraws (Writes later) d draft := by
  rw [List.forall_mem_cons] at fits
  obtain ⟨middle, result, here, kept, grows, writes⟩ := steady.spell holds fits.1
  obtain ⟨later, parameters, behind, still, more, others⟩ := steady.spellAll kept fits.2
  refine ⟨later, { d with result, parameters }, ?_, still, more.trans grows, rfl, steady.extend writes more, others⟩
  simp only [Composite.spellRow, here, behind, ok_bind]
  rfl

theorem spellRows {rows : List Declaration} (holds : Holds n)
    (fits : ∀ d ∈ rows, ∀ type ∈ d.result :: d.parameters, Fits type) :
    ∃ later drafts, Composite.spellRows n rows = .ok (later, drafts) ∧ Holds later ∧ later.Extends n ∧
      List.Forall₂ (Redraws (Writes later)) rows drafts := by
  induction rows generalizing n with
  | nil => exact ⟨n, [], rfl, holds, .refl n, .nil⟩
  | cons d rows ih =>
    rw [List.forall_mem_cons] at fits
    obtain ⟨middle, draft, here, kept, grows, redraws⟩ := steady.spellRow holds fits.1
    obtain ⟨later, rest, behind, still, more, others⟩ := ih kept fits.2
    have redrawn : Redraws (Writes later) d draft := redraws.imp fun writes => steady.extend writes more
    refine ⟨later, draft :: rest, ?_, still, more.trans grows, .cons redrawn others⟩
    simp only [Composite.spellRows, here, behind, ok_bind]
    rfl

end Naming.Steady

theorem exists_spellRows {rows : List Declaration} (sound : n.Sound existing)
    (spelled : ∀ d ∈ rows, ∀ type ∈ d.result :: d.parameters, Spelled type) :
    ∃ later drafts, spellRows n rows = .ok (later, drafts) ∧ later.Sound existing ∧ later.Extends n ∧
      List.Forall₂ (Redraws later.Writes) rows drafts := by
  have steady : Naming.Steady (Naming.Sound existing) Spelled Naming.Writes := ⟨exists_spell, Naming.Writes.extend⟩
  exact steady.spellRows sound spelled

theorem Naming.sound_ofAliases (named : ∀ a ∈ existing, Name a.name) :
    (Naming.ofAliases existing).Sound existing where
  bound := by
    rw [ofAliases, List.append_nil]
    rfl
  names entry member := by
    obtain ⟨a, found, rfl⟩ := List.mem_map.mp (Bindings.mem_of_mem_ofList member)
    exact named a found
  used := by simp [ofAliases]
  distinct := by simp [ofAliases]
  created := by simp [ofAliases]

end Composite

end Forwarding
