import Forwarding.Proofs.Text.Occurs
import Mathlib.Data.List.Infix

/-! Undoing replacements.

A text in which some occurrences of a word have been written as another text is got back by replacing
that text, when the text cannot overlap itself and did not occur before. Texts that cannot overlap each
other can be undone one after the other.
-/

set_option autoImplicit false

namespace Forwarding.Text

variable {old new other s t : Text}

/-- Some occurrences of one text written as another one. -/
inductive Rewritten (old new : Text) : Text → Text → Prop where
  | nil : Rewritten old new [] []
  | keep (c : Char) {s t : Text} : Rewritten old new s t → Rewritten old new (c :: s) (c :: t)
  | use {s t : Text} : Rewritten old new s t → Rewritten old new (old ++ s) (new ++ t)

/-- Nothing behind the first character of the one text can be the beginning of the other, or begin with
it. -/
def Clear (s t : Text) : Prop := ∀ y, y <:+ s.tail → y ≠ [] → ¬ y <+: t ∧ ¬ t <+: y

instance (s t : Text) : Decidable (Clear s t) :=
  decidable_of_iff (∀ y ∈ s.tail.tails, y ≠ [] → ¬ y <+: t ∧ ¬ t <+: y) (by simp [Clear, List.mem_tails])

/-- Two texts of which no part can be common to an occurrence of each. -/
structure Separate (s t : Text) : Prop where
  left : Clear s t
  right : Clear t s
  start : ¬ s <+: t ∧ ¬ t <+: s

instance (s t : Text) : Decidable (Separate s t) :=
  decidable_of_iff (Clear s t ∧ Clear t s ∧ ¬ s <+: t ∧ ¬ t <+: s)
    ⟨fun ⟨left, right, start⟩ => ⟨left, right, start⟩, fun h => ⟨h.left, h.right, h.start⟩⟩

namespace Rewritten

theorem refl (s : Text) : Rewritten old new s s := by
  induction s with
  | nil => exact .nil
  | cons c s ih => exact .keep c ih

theorem append {s' t' : Text} (first : Rewritten old new s t) (second : Rewritten old new s' t') :
    Rewritten old new (s ++ s') (t ++ t') := by
  induction first with
  | nil => exact second
  | keep c _ ih => exact .keep c ih
  | use _ ih =>
    rw [List.append_assoc, List.append_assoc]
    exact .use ih

/-- What the new text begins with, the old one begins with too, up to the first place that has been
written otherwise. -/
theorem isPrefix_or {start : Text} (rewritten : Rewritten old new s t) (starts : start <+: t) :
    start <+: s ∨ ∃ x y, start = x ++ y ∧ y ≠ [] ∧ (y <+: new ∨ new <+: y) := by
  induction rewritten generalizing start with
  | nil => exact .inl starts
  | @keep c s t _ ih =>
    cases start with
    | nil => exact .inl List.nil_prefix
    | cons d start =>
      obtain ⟨rfl, rest⟩ := List.cons_prefix_cons.mp starts
      rcases ih rest with same | ⟨x, y, rfl, given, meets⟩
      · exact .inl (List.cons_prefix_cons.mpr ⟨rfl, same⟩)
      · exact .inr ⟨d :: x, y, rfl, given, meets⟩
  | @use s t _ _ =>
    -- Here `new` stands in front, so that `start` and `new` are prefixes of one text.
    by_cases given : start = []
    · exact .inl (given ▸ List.nil_prefix)
    · exact .inr ⟨[], start, rfl, given, List.prefix_or_prefix_of_prefix starts (List.prefix_append new t)⟩

/-- No occurrence begins with a character that has been kept. -/
theorem not_isPrefix_keep {c : Char} (rewritten : Rewritten old new s t) (clear : Clear other new)
    (absent : ¬ other <+: c :: s) : ¬ other <+: c :: t := by
  intro starts
  cases other with
  | nil => exact absent List.nil_prefix
  | cons d rest =>
    obtain ⟨rfl, inside⟩ := List.cons_prefix_cons.mp starts
    -- Either the occurrence was there before, or its end overlaps something that has been written.
    rcases rewritten.isPrefix_or inside with same | ⟨x, y, rfl, given, meets⟩
    · exact absent (List.cons_prefix_cons.mpr ⟨rfl, same⟩)
    · have apart := clear y (List.suffix_append x y) given
      exact meets.elim apart.1 apart.2

/-- Replacing the text that has been written gives back what was there. -/
theorem replace_eq (rewritten : Rewritten old new s t) (clear : Clear new new) (absent : ¬ new <:+: s) :
    replace new old t = s := by
  have given : new ≠ [] := by
    rintro rfl
    exact absent List.nil_infix
  rw [replace, if_neg (by simpa using given)]
  induction rewritten with
  | nil => rfl
  | @keep c s t rest ih =>
    rw [List.infix_cons_iff, not_or] at absent
    rw [replaceFrom_cons (rest.not_isPrefix_keep clear absent.1), ih absent.2]
  | @use s t _ ih =>
    rw [replaceFrom_append given, ih fun inside => absent (inside.trans (List.suffix_append old s).isInfix)]

end Rewritten

/-- Where a text occurs in two others: in the second, or from some place of the first on. -/
theorem infix_append_cases (inside : other <:+: s ++ t) :
    other <:+: t ∨ ∃ y, y <:+ s ∧ y ≠ [] ∧ other <+: y ++ t := by
  induction s with
  | nil => exact .inl inside
  | cons c s ih =>
    rw [List.cons_append, List.infix_cons_iff] at inside
    rcases inside with here | later
    · exact .inr ⟨c :: s, List.suffix_rfl, List.cons_ne_nil c s, here⟩
    · rcases ih later with behind | ⟨y, part, given, starts⟩
      · exact .inl behind
      · exact .inr ⟨y, part.trans (List.suffix_cons c s), given, starts⟩

theorem Rewritten.not_infix (rewritten : Rewritten old new s t) (separate : Separate other new)
    (absent : ¬ other <:+: s) : ¬ other <:+: t := by
  induction rewritten with
  | nil => exact absent
  | @keep c s t rest ih =>
    rw [List.infix_cons_iff, not_or] at absent ⊢
    exact ⟨rest.not_isPrefix_keep separate.left absent.1, ih absent.2⟩
  | @use s t _ ih =>
    intro inside
    rcases infix_append_cases inside with behind | ⟨y, part, given, starts⟩
    · exact ih (fun found => absent (found.trans (List.suffix_append old s).isInfix)) behind
    -- It begins within what has been written, whose end `y` and the text that occurs begin alike.
    · have meets := List.prefix_or_prefix_of_prefix starts (List.prefix_append y t)
      cases new with
      | nil => exact given (List.suffix_nil.mp part)
      | cons c new =>
        rcases List.suffix_cons_iff.mp part with rfl | proper
        · exact meets.elim separate.start.1 separate.start.2
        · have apart := separate.right y proper given
          exact meets.elim apart.2 apart.1

/-! ### One replacement after the other -/

/-- Some occurrences of words written as the texts that they stand for, those of the last word first. -/
def RewrittenAll : List (Text × Text) → Text → Text → Prop
  | [], s, t => s = t
  | (new, old) :: rest, s, t => ∃ middle, RewrittenAll rest s middle ∧ Rewritten old new middle t

variable {pairs : List (Text × Text)}

theorem RewrittenAll.not_infix (rewritten : RewrittenAll pairs s t)
    (separate : ∀ pair ∈ pairs, Separate other pair.1) (absent : ¬ other <:+: s) : ¬ other <:+: t := by
  induction pairs generalizing t with
  | nil =>
    cases rewritten
    exact absent
  | cons pair pairs ih =>
    rw [List.forall_mem_cons] at separate
    obtain ⟨middle, rest, last⟩ := rewritten
    exact last.not_infix separate.1 (ih rest separate.2)

end Forwarding.Text
