import Forwarding.Proofs.Text.Strip
import Forwarding.Table.Line
import Forwarding.Text.Basic

/-! Where a text occurs in another one, and what is left of a line without its comment. -/

set_option autoImplicit false

namespace Forwarding

namespace Text

theorem occurs_iff {part t : Text} : occurs part t = true ↔ part <:+: t := by
  induction t with
  | nil => simp [occurs]
  | cons c t ih =>
    rw [occurs, Bool.or_eq_true, List.isPrefixOf_iff_prefix, ih, List.infix_cons_iff]

theorem before_isPrefix (mark t : Text) : before mark t <+: t := by
  induction t with
  | nil => exact List.prefix_rfl
  | cons c t ih =>
    rw [before]
    split
    · exact List.nil_prefix
    · exact (List.prefix_cons_inj c).mpr ih

theorem not_infix_before {mark : Text} (some : mark ≠ []) (t : Text) : ¬ mark <:+: before mark t := by
  induction t with
  | nil => simpa [before] using some
  | cons c t ih =>
    rw [before]
    split
    · simpa using some
    · next absent =>
      rw [List.infix_cons_iff, not_or]
      refine ⟨fun starts => absent ?_, ih⟩
      exact List.isPrefixOf_iff_prefix.mpr (starts.trans ((List.prefix_cons_inj c).mpr (before_isPrefix mark t)))

theorem before_of_absent {mark t : Text} (absent : ¬ mark <:+: t) : before mark t = t := by
  induction t with
  | nil => rfl
  | cons c t ih =>
    rw [List.infix_cons_iff, not_or] at absent
    rw [before, if_neg (by simpa [List.isPrefixOf_iff_prefix] using absent.1), ih absent.2]

/-- Only the first occurrence counts. -/
theorem before_append_of_isInfix {mark t : Text} (inside : mark <:+: t) (rest : Text) :
    before mark (t ++ rest) = before mark t := by
  induction t with
  | nil =>
    rw [List.infix_nil.mp inside]
    cases rest <;> rfl
  | cons c t ih =>
    rw [List.cons_append, before, before]
    by_cases starts : mark <+: c :: t
    · have longer : mark <+: c :: (t ++ rest) := starts.trans (List.prefix_append (c :: t) rest)
      rw [if_pos (List.isPrefixOf_iff_prefix.mpr longer), if_pos (List.isPrefixOf_iff_prefix.mpr starts)]
    · have later := (List.infix_cons_iff.mp inside).resolve_left starts
      -- The mark is too short to reach into the rest.
      have short : ¬ mark <+: c :: (t ++ rest) := fun longer =>
        starts (List.prefix_of_prefix_length_le longer (List.prefix_append (c :: t) rest)
          (Nat.le_succ_of_le later.length_le))
      rw [if_neg (by simpa [List.isPrefixOf_iff_prefix] using short),
        if_neg (by simpa [List.isPrefixOf_iff_prefix] using starts), ih later]

theorem not_pair_of_not_mem {a : Char} {t : Text} (absent : a ∉ t) : ¬ [a, a] <:+: t :=
  fun inside => absent (inside.subset (by simp))

/-- A pair of marks that are not in a piece itself does not arise where the piece is put behind
something that ends in another character. -/
theorem not_pair_append {a : Char} {s t : Text} (left : ¬ [a, a] <:+: s) (right : ¬ [a, a] <:+: t)
    (apart : s.getLast? ≠ some a ∨ t.head? ≠ some a) : ¬ [a, a] <:+: s ++ t := by
  induction s with
  | nil => simpa using right
  | cons c s ih =>
    rw [List.cons_append, List.infix_cons_iff, not_or]
    rw [List.infix_cons_iff, not_or] at left
    refine ⟨fun starts => ?_, ?_⟩
    · cases s with
      | nil =>
        rcases apart with ends | opens
        · simp_all
        · cases t with
          | nil => simp at starts
          | cons d t =>
            simp only [List.nil_append, List.cons_prefix_cons, List.nil_prefix, and_true] at starts
            exact opens (by rw [List.head?_cons, ← starts.2])
      | cons d s => 
        apply left.1
        simpa using starts
    · cases s with
      | nil => simpa using right
      | cons d s => exact ih left.2 (by simpa using apart)

/-- A pair of marks ends a text that has none, if that does not end in one mark. -/
theorem before_pair {a : Char} {s : Text} (absent : ¬ [a, a] <:+: s) (last : s.getLast? ≠ some a) (t : Text) :
    before [a, a] (s ++ a :: a :: t) = s := by
  induction s with
  | nil => simp [before]
  | cons c s ih =>
    rw [List.infix_cons_iff, not_or] at absent
    have elsewhere : ¬ [a, a] <+: c :: (s ++ a :: a :: t) := by
      intro starts
      cases s with
      | nil =>
        rw [List.cons_prefix_cons] at starts
        exact last (by rw [starts.1]; rfl)
      | cons d s => exact absent.1 (by simpa using starts)
    have rest : s.getLast? ≠ some a := by
      cases s with
      | nil => simp
      | cons d s => simpa using last
    rw [List.cons_append, before, if_neg (by simpa [List.isPrefixOf_iff_prefix] using elsewhere), ih absent.2 rest]

/-- What stands before a text with another character than the first one of the mark is kept. -/
theorem before_append_of_not_mem {a : Char} {mark s : Text} (apart : a ∉ s) (t : Text) :
    before (a :: mark) (s ++ t) = s ++ before (a :: mark) t := by
  induction s with
  | nil => rfl
  | cons c s ih =>
    rw [List.mem_cons, not_or] at apart
    have elsewhere : ¬ a :: mark <+: c :: (s ++ t) := fun starts => apart.1 (List.cons_prefix_cons.mp starts).1
    rw [List.cons_append, before, if_neg (by simpa [List.isPrefixOf_iff_prefix] using elsewhere), ih apart.2]
    rfl

end Text

namespace Line

open Text

theorem withoutComment_eq_self {t : Text} (plain : ¬ "//".toList <:+: t) : withoutComment t = t := by
  rw [withoutComment, if_neg (by simpa [occurs_iff] using plain)]

theorem stripEnd_isPrefix (t : Text) : stripEnd t <+: t := by
  obtain ⟨right, parts, -⟩ := exists_dropEnd isBlank t
  exact ⟨right, parts.symm⟩

theorem withoutComment_isPrefix (t : Text) : withoutComment t <+: t := by
  rw [withoutComment]
  split
  · exact (stripEnd_isPrefix _).trans (before_isPrefix _ t)
  · exact List.prefix_rfl

/-- It does not matter whether the blanks around a line are stripped before its comment. -/
theorem withoutComment_strip (t : Text) : withoutComment (strip t) = strip (before "//".toList t) := by
  obtain ⟨left, right, parts, blank, behind⟩ := exists_strip t
  have solid : ∀ blanks : Text, (∀ c ∈ blanks, isBlank c = true) → '/' ∉ blanks := fun blanks all member =>
    absurd (all '/' member) (by decide)
  have cut : before "//".toList t = left ++ before "//".toList (strip t ++ right) := by
    conv => lhs; rw [parts]
    exact before_append_of_not_mem (solid left blank) _
  by_cases inside : "//".toList <:+: strip t
  · -- The blanks go first, and what is left of a stripped text starts like it.
    have kept := before_isPrefix "//".toList (strip t)
    have starts : stripStart (before "//".toList (strip t)) = before "//".toList (strip t) := by
      cases found : before "//".toList (strip t) with
      | nil => rfl
      | cons c rest =>
        obtain ⟨more, same⟩ := kept
        have first : (strip t).head? = some c := by rw [← same, found]; rfl
        simp [stripStart, head?_strip first]
    have pad := strip_pad left (before "//".toList (strip t)) [] blank (by simp)
    rw [List.append_nil] at pad
    have whole : strip (before "//".toList (strip t)) = stripEnd (before "//".toList (strip t)) := by
      rw [strip, starts]
    rw [withoutComment, if_pos (occurs_iff.mpr inside), cut, before_append_of_isInfix inside, pad, whole]
  · have absent : ¬ ['/', '/'] <:+: strip t ++ right := by
      refine not_pair_append inside (not_pair_of_not_mem (solid right behind)) (.inr fun first => ?_)
      exact solid right behind (List.mem_of_head? first)
    have whole : before "//".toList (strip t ++ right) = strip t ++ right := before_of_absent absent
    rw [withoutComment_eq_self inside, cut, whole, strip_pad left _ right blank behind, strip_strip]

/-- A comment behind a line is not read, unless its first slash is the second one of another. -/
theorem withoutComment_append {t gap : Text} (blank : ∀ c ∈ gap, isBlank c = true)
    (apart : gap ≠ [] ∨ t.getLast? ≠ some '/') (comment : Text) :
    withoutComment (strip (t ++ (gap ++ ("//".toList ++ comment)))) = withoutComment (strip t) := by
  rw [withoutComment_strip, withoutComment_strip]
  by_cases inside : "//".toList <:+: t
  · rw [before_append_of_isInfix inside]
  · have slashes : '/' ∉ gap := fun member => absurd (blank '/' member) (by decide)
    have absent : ¬ ['/', '/'] <:+: t ++ gap := by
      refine not_pair_append inside (not_pair_of_not_mem slashes) (.inr fun first => ?_)
      exact slashes (List.mem_of_head? first)
    have last : (t ++ gap).getLast? ≠ some '/' := by
      intro found
      rw [List.getLast?_append] at found
      cases ends : gap.getLast? with
      | none =>
        rw [ends, Option.none_or] at found
        exact apart.resolve_left (fun given => given (List.getLast?_eq_none_iff.mp ends)) found
      | some d =>
        rw [ends, Option.some_or] at found
        cases found
        exact slashes (List.mem_of_getLast? ends)
    have whole := before_pair absent last comment
    rw [List.append_assoc] at whole
    have kept : before "//".toList (t ++ (gap ++ ("//".toList ++ comment))) = t ++ gap := whole
    have pad := strip_pad [] t gap (by simp) blank
    rw [kept, before_of_absent inside]
    exact pad

/-- Nothing is left of a line just when it is blank or a comment from its start. -/
theorem withoutComment_eq_nil_iff (t : Text) :
    withoutComment (strip t) = [] ↔ strip t = [] ∨ "//".toList <+: strip t := by
  constructor
  · intro nothing
    rw [withoutComment] at nothing
    split at nothing
    · obtain ⟨right, parts, blank⟩ := exists_dropEnd isBlank (before "//".toList (strip t))
      rw [show dropEnd isBlank (before "//".toList (strip t)) = [] from nothing, List.nil_append] at parts
      cases found : strip t with
      | nil => exact .inl rfl
      | cons c rest =>
        rw [found, before] at parts
        split at parts
        · next starts => exact .inr (List.isPrefixOf_iff_prefix.mp starts)
        · -- The first character is no blank, so that it stays.
          have solid := head?_strip (t := t) (c := c) (by rw [found]; rfl)
          rw [blank c (parts ▸ List.mem_cons_self)] at solid
          cases solid
    · exact .inl nothing
  · rintro (nothing | ⟨comment, starts⟩)
    · rw [nothing]
      rfl
    · rw [← starts]
      rfl

theorem not_infix_withoutComment (t : Text) : ¬ "//".toList <:+: withoutComment t := by
  rw [withoutComment]
  split
  · exact fun inside => not_infix_before (by decide) t (inside.trans (stripEnd_isPrefix _).isInfix)
  · next plain => simpa [occurs_iff] using plain

end Line

end Forwarding

/-! ### Replacement -/

namespace Forwarding.Text

variable {c : Char} {old new : Text}

theorem replaceFrom_length_append (skipped t : Text) :
    replaceFrom old new skipped.length (skipped ++ t) = replaceFrom old new 0 t := by
  induction skipped with
  | nil => rfl
  | cons d skipped ih => exact ih

private theorem mem_replaceFrom (given : old ≠ []) (apart : c ∉ old) {left : Nat} {t : Text}
    (member : c ∈ t.drop left) : c ∈ replaceFrom old new left t := by
  induction t generalizing left with
  | nil => simp at member
  | cons d t ih =>
    cases left with
    | succ left => exact ih (by simpa using member)
    | zero =>
      rw [replaceFrom]
      rw [List.drop_zero] at member
      split
      · next found =>
        obtain ⟨rest, parts⟩ := List.isPrefixOf_iff_prefix.mp found
        have behind : c ∈ rest := by
          rw [← parts, List.mem_append] at member
          exact member.resolve_left apart
        refine List.mem_append.mpr (.inr (ih ?_))
        cases old with
        | nil => exact absurd rfl given
        | cons e old =>
          rw [List.cons_append, List.cons.injEq] at parts
          simpa [← parts.2] using behind
      · rcases List.mem_cons.mp member with rfl | later
        · exact List.mem_cons_self
        · exact List.mem_cons_of_mem _ (ih later)

theorem mem_replace {t : Text} (apart : c ∉ old) (member : c ∈ t) : c ∈ replace old new t := by
  rw [replace]
  split
  · exact List.mem_append.mpr (.inl (List.mem_flatMap.mpr ⟨c, member, by simp⟩))
  · next given => exact mem_replaceFrom (by simpa using given) apart member

/-- An occurrence at the start is replaced, and what follows it is read afresh. -/
theorem replaceFrom_append (given : old ≠ []) (t : Text) :
    replaceFrom old new 0 (old ++ t) = new ++ replaceFrom old new 0 t := by
  cases old with
  | nil => exact absurd rfl given
  | cons d old =>
    have here : (d :: old).isPrefixOf (d :: (old ++ t)) = true :=
      List.isPrefixOf_iff_prefix.mpr (List.prefix_append (d :: old) t)
    rw [List.cons_append, replaceFrom, if_pos here]
    rw [show (d :: old).length - 1 = old.length from rfl, replaceFrom_length_append]

theorem replaceFrom_cons {c : Char} {t : Text} (absent : ¬ old <+: c :: t) :
    replaceFrom old new 0 (c :: t) = c :: replaceFrom old new 0 t := by
  rw [replaceFrom, if_neg (by simpa [List.isPrefixOf_iff_prefix] using absent)]

theorem replaceFrom_of_absent {t : Text} (absent : ¬ old <:+: t) : replaceFrom old new 0 t = t := by
  induction t with
  | nil => rfl
  | cons d t ih =>
    rw [List.infix_cons_iff, not_or] at absent
    rw [replaceFrom_cons absent.1, ih absent.2]

theorem replace_of_absent {t : Text} (absent : ¬ old <:+: t) : replace old new t = t := by
  have given : old ≠ [] := by
    rintro rfl
    exact absent List.nil_infix
  rw [replace, if_neg (by simpa using given), replaceFrom_of_absent absent]

/-- A text with a character that does not stand before it starts nowhere before itself. -/
private theorem not_isPrefix_before {left rest : Text} (inside : c ∈ old) (outside : c ∉ left)
    (given : left ≠ []) : ¬ old <+: left ++ (old ++ rest) := by
  rintro ⟨more, same⟩
  have place := congrArg (List.idxOf c) same
  rw [List.idxOf_append, if_pos inside, List.idxOf_append, if_neg outside, List.idxOf_append,
    if_pos inside] at place
  have none : left.length = 0 := by omega
  exact given (List.eq_nil_of_length_eq_zero none)

/-- One character that neither side has tells where a text stands, so that it is replaced there only. -/
theorem replace_once {left right : Text} (inside : c ∈ old) (before : c ∉ left) (behind : c ∉ right) :
    replace old new (left ++ (old ++ right)) = left ++ (new ++ right) := by
  have given : old ≠ [] := List.ne_nil_of_mem inside
  rw [replace, if_neg (by simpa using given)]
  induction left with
  | nil =>
    have rest : replaceFrom old new 0 right = right :=
      replaceFrom_of_absent fun found => behind (found.subset inside)
    rw [List.nil_append, replaceFrom_append given, rest]
    rfl
  | cons d left ih =>
    have absent : ¬ old <+: d :: (left ++ (old ++ right)) :=
      not_isPrefix_before inside before (List.cons_ne_nil d left)
    rw [List.cons_append, replaceFrom_cons absent]
    exact congrArg (d :: ·) (ih fun member => before (List.mem_cons_of_mem d member))

end Forwarding.Text
