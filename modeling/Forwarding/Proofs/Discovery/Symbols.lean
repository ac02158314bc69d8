import Forwarding.Proofs.Discovery.Overloads
import Forwarding.Proofs.Table.Validation

/-! Symbols of the methods of a class.

Tags tell the overloads of one name apart, but a symbol joins the name and the tag, so that a method may be
called just what a tagged overload of another name is called. `Apart` excludes that, and nothing else makes
two symbols equal.
-/

set_option autoImplicit false

namespace Forwarding

open Text

namespace Table

variable {t : Table} {index : Nat} {d : Declaration} {fault : Fault}

/-- Rows with symbols of their own are refused for something else. -/
theorem Blames.kind_ne_duplicate (blames : t.Blames index d fault) (found : t.rows[index]? = some d)
    (distinct : (t.rows.map Declaration.symbol).Nodup) : fault.cause.kind ≠ .duplicate := by
  cases blames with
  | names refused =>
    rw [Declaration.kind_of_checkNames refused]
    decide
  | arity | blank | composite | unbalanced | early =>
    intro same
    cases same
  | @duplicate j first less earlier same =>
    have places : (t.rows.map Declaration.symbol)[j]? = (t.rows.map Declaration.symbol)[index]? := by
      rw [List.getElem?_map, List.getElem?_map, earlier, found, Option.map_some, Option.map_some, same]
    have inside := (List.getElem?_eq_some_iff.mp earlier).1
    have place := (List.getElem?_inj (by rwa [List.length_map]) distinct).mp places
    exact absurd place (Nat.ne_of_lt less)

theorem Blames.kind_of_rowValid (blames : t.Blames index d fault) (valid : t.RowValid index d) :
    fault.cause.kind = .duplicate := by
  cases blames with
  | names refused => rw [valid.names] at refused; cases refused
  | arity beyond => exact absurd valid.arity (Nat.not_le_of_lt beyond)
  | blank member blank => exact absurd blank (valid.types _ member).notBlank
  | composite member composite => exact absurd composite (valid.types _ member).single
  | unbalanced member unbalanced => exact absurd (valid.types _ member).balanced unbalanced
  | early member token found late =>
    exact absurd ((valid.types _ member).defined _ token _ found) (Nat.not_le_of_lt late)
  | duplicate => rfl

end Table

namespace Overloads

variable {methods : List Declaration}

theorem underscore_not_mem_decimal (n : Nat) : '_' ∉ decimal n := fun member => by
  have digit := Nat.isDigit_of_mem_toDigits (by decide) (by decide) member
  revert digit
  decide

theorem append_tagFor_inj {s t : Text} {m n : Nat} (same : s ++ tagFor m = t ++ tagFor n) : s = t ∧ m = n := by
  have later : ∀ {s t : Text} {m n : Nat}, s ++ tagFor m = t ++ tagFor n → ∀ more, t = s ++ more → more = [] := by
    rintro s _ m n same more rfl
    rw [List.append_assoc, List.append_cancel_left_eq] at same
    cases more with
    | nil => rfl
    | cons c more =>
      -- If the texts had different lengths, an underscore would stand among the digits of one tag.
      have digits : decimal m = more ++ '_' :: decimal n := (List.cons.inj same).2
      exact absurd (digits ▸ by simp) (underscore_not_mem_decimal m)
  have equal : s = t := by
    rcases List.append_eq_append_iff.mp same with ⟨more, parts, -⟩ | ⟨more, parts, -⟩
    · rw [parts, later same more parts, List.append_nil]
    · rw [parts, later same.symm more parts, List.append_nil]
  subst equal
  exact ⟨rfl, decimal_injective (List.append_cancel_left (List.append_cancel_left same))⟩

/-- Two names with tags are equal only if one is the other with a tag, or if names and tags are equal. -/
theorem of_append_tagOf_eq {s t : Text} {m n : Nat} (same : s ++ tagOf m = t ++ tagOf n) :
    s = t ∧ m = n ∨ 0 < m ∧ t = s ++ tagFor m ∨ 0 < n ∧ s = t ++ tagFor n := by
  cases m with
  | zero =>
    rw [tagOf.eq_1, List.append_nil] at same
    cases n with
    | zero => exact .inl ⟨by rwa [tagOf, List.append_nil] at same, rfl⟩
    | succ n => exact .inr (.inr ⟨n.succ_pos, same⟩)
  | succ m =>
    cases n with
    | zero =>
      rw [tagOf.eq_1, List.append_nil] at same
      exact .inr (.inl ⟨m.succ_pos, same.symm⟩)
    | succ n => exact .inl (append_tagFor_inj same)

/-- No method is called what a tagged overload of another name is called. -/
def Apart (methods : List Declaration) : Prop :=
  ∀ a ∈ methods, ∀ b ∈ methods, ∀ n < methods.countP fun d => d.method = a.method,
    0 < n → b.method ≠ a.method ++ tagFor n

instance (methods : List Declaration) : Decidable (Apart methods) :=
  inferInstanceAs (Decidable (∀ a ∈ methods, ∀ b ∈ methods, _))

section
variable (untagged : ∀ d ∈ methods, d.tag = [])
  (class_ : ∀ a ∈ methods, ∀ b ∈ methods, a.subjectName = b.subjectName)
include untagged class_

theorem nodup_symbols_iff : ((tag methods).map Declaration.symbol).Nodup ↔
    ∀ p ∈ methods.zipIdx, ∀ q ∈ methods.zipIdx,
      p.1.method ++ tagOf (rankAt methods p) = q.1.method ++ tagOf (rankAt methods q) → p = q := by
  rw [tag_eq untagged, List.map_map, List.nodup_map_iff_inj_on (nodup_zipIdx methods)]
  refine forall₂_congr fun p first => forall₂_congr fun q second => ?_
  have subject : p.1.subjectName = q.1.subjectName :=
    class_ p.1 (List.fst_mem_of_mem_zipIdx first) q.1 (List.fst_mem_of_mem_zipIdx second)
  rw [Declaration.subjectName, Declaration.subjectName] at subject
  simp [Declaration.symbol, Declaration.symbolOf, Declaration.subjectName, subject]

theorem nodup_symbols_iff_apart : ((tag methods).map Declaration.symbol).Nodup ↔ Apart methods := by
  rw [nodup_symbols_iff untagged class_]
  constructor
  · intro distinct a inside b other n below positive same
    have given : 0 < methods.countP fun d => d.method = b.method :=
      List.countP_pos_iff.mpr ⟨b, other, decide_eq_true rfl⟩
    obtain ⟨p, found, named, rank⟩ := exists_rankAt_eq below
    obtain ⟨q, place, called, first⟩ := exists_rankAt_eq given
    -- The first method of the other name has no tag, and with it the symbol of this overload.
    have tagged : p.1.method ++ tagOf (rankAt methods p) = q.1.method ++ tagOf (rankAt methods q) := by
      rw [rank, first, named, called, same, tagOf_of_pos positive, tagOf, List.append_nil]
    have equal := distinct p (List.mem_zipIdx_iff_getElem?.mpr found) q (List.mem_zipIdx_iff_getElem?.mpr place) tagged
    rw [← named, equal, called, List.self_eq_append_right] at same
    cases same
  · intro apart p first q second same
    have inside := List.fst_mem_of_mem_zipIdx first
    have other := List.fst_mem_of_mem_zipIdx second
    rw [List.mem_zipIdx_iff_getElem?] at first second
    rcases of_append_tagOf_eq same with ⟨name, rank⟩ | ⟨positive, called⟩ | ⟨positive, called⟩
    · exact eq_of_rankAt_eq first second name rank
    · exact absurd called (apart p.1 inside q.1 other _ (rankAt_lt_count first) positive)
    · exact absurd called (apart q.1 other p.1 inside _ (rankAt_lt_count second) positive)

/-- The rows of a class have symbols of their own just when no method is called like a tagged overload of another
name. Only then a table of them is never refused for a symbol that two rows have. -/
theorem distinct_symbols_iff :
    (((tag methods).map Declaration.symbol).Nodup ↔ Apart methods) ∧
    ∀ t : Table, t.rows = tag methods →
      (Apart methods → ∀ fault, t.validate = .error fault → fault.cause.kind ≠ .duplicate) ∧
      (¬ Apart methods → (∀ i d, t.rows[i]? = some d → t.RowValid i d) →
        ∃ fault, t.validate = .error fault ∧ fault.cause.kind = .duplicate) := by
  have symbols := nodup_symbols_iff_apart untagged class_
  refine ⟨symbols, fun t rows => ⟨fun apart fault refused => ?_, fun clash valid => ?_⟩⟩
  · obtain ⟨i, d, found, blames⟩ := Table.exists_blames refused
    exact blames.kind_ne_duplicate found (rows ▸ symbols.mpr apart)
  · cases checked : t.validate with
    | ok _ => exact absurd (symbols.mp (rows ▸ (Table.validate_eq_ok_iff.mp checked).symbols)) clash
    | error fault =>
      obtain ⟨i, d, found, blames⟩ := Table.exists_blames checked
      exact ⟨fault, rfl, blames.kind_of_rowValid (valid i d found)⟩

end

/-- Two overloads beside methods that are called like overloads there are not. -/
def similar : List Declaration :=
  [{ subject := "A", result := "void", method := "f", parameters := ["int"] },
    { subject := "A", result := "void", method := "f_2" },
    { subject := "A", result := "void", method := "f" },
    { subject := "A", result := "void", method := "f_0" }]

theorem distinct_symbols_iff_similar : (∀ d ∈ similar, d.tag = []) ∧
    (∀ a ∈ similar, ∀ b ∈ similar, a.subjectName = b.subjectName) ∧
    ((tag similar).map Declaration.symbol).Nodup := by
  have untagged : ∀ d ∈ similar, d.tag = [] := by decide
  have class_ : ∀ a ∈ similar, ∀ b ∈ similar, a.subjectName = b.subjectName := by decide
  exact ⟨untagged, class_, (distinct_symbols_iff untagged class_).1.mpr (by decide +kernel)⟩

/-- Two overloads and a method that is called like the tagged one. -/
def clashing : List Declaration :=
  [{ subject := "A", result := "void", method := "f" },
    { subject := "A", result := "void", method := "f", parameters := ["int"] },
    { subject := "A", result := "void", method := "f_1" }]

theorem not_distinct_symbols :
    (∀ d ∈ clashing, d.tag = [] ∧ d.subject = ("A" : Text) ∧ isIdentifier d.method = true) ∧
    ¬ ((tag clashing).map Declaration.symbol).Nodup ∧
    ∃ fault, ({ rows := tag clashing } : Table).validate = .error fault ∧ fault.cause.kind = .duplicate := by
  have refused : ({ rows := tag clashing } : Table).validate =
      .error ⟨.duplicateSymbol "A_f_1" (⟨"A", "f", "_1"⟩, none) (⟨"A", "f_1", []⟩, none), none⟩ := by decide +kernel
  exact ⟨by decide, by decide +kernel, _, refused, rfl⟩

end Overloads

end Forwarding
