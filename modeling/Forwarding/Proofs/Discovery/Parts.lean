import Forwarding.Discovery.Composite
import Forwarding.Proofs.Text.Lines
import Forwarding.Proofs.Text.Words

/-! The parts of a composite spelling: `const`, the type to be named, and the declarators.

A spelling without line feeds always has parts. Put together again they are the spelling, but for blanks before
the declarators; in a squeezed spelling that is one blank at most.
-/

set_option autoImplicit false

namespace Forwarding

open Text Spelling

namespace Composite

/-- The parts make up the spelling, but for blanks before the declarators. -/
structure Parts.Cuts (p : Parts) (spelling : Text) : Prop where
  whole : ∃ gap, spelling = p.lead ++ (p.core ++ (gap ++ p.tail)) ∧ (∀ c ∈ gap, isBlank c = true) ∧
    (p.tail = [] → gap = [])
  lead : p.lead = [] ∨ ∃ blanks, p.lead = "const".toList ++ blanks ∧ blanks ≠ [] ∧ ∀ c ∈ blanks, isBlank c = true
  tail : ∀ c ∈ p.tail, isDeclarator c = true

/-- The parts make up the spelling, and the type to be named has no blanks at its ends. -/
structure Parts.Spells (p : Parts) (spelling : Text) : Prop where
  whole : ∃ gap, spelling = p.lead ++ (p.core ++ (gap ++ p.tail)) ∧ (gap = [] ∨ gap = [' '] ∧ p.tail ≠ [])
  lead : p.lead = [] ∨ p.lead = "const ".toList
  tail : ∀ c ∈ p.tail, isDeclarator c = true
  core : strip p.core = p.core

variable {t : Text}

theorem Parts.Spells.cuts {p : Parts} (spells : p.Spells t) : p.Cuts t where
  whole := by
    obtain ⟨gap, whole, none | ⟨space, marks⟩⟩ := spells.whole
    · exact ⟨gap, whole, by simp [none], fun _ => none⟩
    · refine ⟨gap, whole, ?_, fun none => absurd none marks⟩
      rw [space]
      decide
  lead := spells.lead.imp_right fun space => ⟨[' '], space, by decide, by decide⟩
  tail := spells.tail

theorem splitLead_append (t : Text) : (splitLead t).1 ++ (splitLead t).2 = t := by
  rw [splitLead]
  split
  · next found =>
    simp only [Bool.and_eq_true] at found
    obtain ⟨rest, parts⟩ := List.isPrefixOf_iff_prefix.mp found.1
    rw [List.append_assoc, List.takeWhile_append_dropWhile, ← parts]
    rfl
  · rfl

theorem splitLead_fst (t : Text) : (splitLead t).1 = [] ∨ ∃ blanks, (splitLead t).1 = "const".toList ++ blanks ∧
    blanks ≠ [] ∧ ∀ c ∈ blanks, isBlank c = true := by
  rw [splitLead]
  split
  · next found =>
    simp only [Bool.and_eq_true, Bool.not_eq_true'] at found
    exact .inr ⟨_, rfl, by simpa using found.2, List.all_eq_true.mp List.all_takeWhile⟩
  · exact .inl rfl

theorem head?_splitLead_snd (first : ∀ c, t.head? = some c → isBlank c = false) {c : Char}
    (found : (splitLead t).2.head? = some c) : isBlank c = false := by
  rw [splitLead] at found
  split at found
  · have solid := List.head?_dropWhile_not isBlank (t.drop 5)
    rw [found] at solid
    simpa using solid
  · exact first c found

/-- Where there are no line feeds, nothing but the empty text is an end. -/
theorem isEmpty_or_feed_iff (noFeed : '\n' ∉ t) : (t.isEmpty || t == ['\n']) = true ↔ t = [] := by
  rw [Bool.or_eq_true, List.isEmpty_iff, beq_iff_eq]
  refine or_iff_left ?_
  rintro rfl
  exact noFeed (List.mem_singleton_self _)

/-- The texts without line feeds that consist of declarators. Blanks alone are no declarators. -/
theorem tail?_eq_some_iff {tail : Text} (noFeed : '\n' ∉ t) : tail? t = some tail ↔
    stripStart t = tail ∧ (∀ c ∈ tail, isDeclarator c = true) ∧ (tail = [] → t = []) := by
  have noFeedBehind : '\n' ∉ (stripStart t).dropWhile isDeclarator := fun member =>
    noFeed ((List.dropWhile_suffix _).subset ((List.dropWhile_suffix _).subset member))
  simp only [tail?, isEmpty_or_feed_iff noFeed, isEmpty_or_feed_iff noFeedBehind, List.isEmpty_iff,
    List.dropWhile_eq_nil_iff]
  by_cases empty : t = []
  · subst empty
    rw [if_pos rfl, Option.some_inj]
    exact ⟨fun none => ⟨none, none ▸ nofun, fun _ => rfl⟩, And.left⟩
  rw [if_neg empty]
  by_cases marks : ∀ c ∈ stripStart t, isDeclarator c = true
  · rw [if_pos marks, List.takeWhile_eq_self_iff.mpr marks]
    constructor
    · intro found
      split at found
      · cases found
      · next given =>
        cases found
        exact ⟨rfl, marks, fun none => absurd none given⟩
    · rintro ⟨rfl, -, given⟩
      rw [if_neg (mt given empty)]
  · rw [if_neg marks, ite_self]
    exact iff_of_false nofun fun found => marks (found.1 ▸ found.2.1)

/-- A blank before declarators changes nothing. -/
theorem tail?_cons_blank {c : Char} (blank : isBlank c = true) (noFeed : '\n' ∉ c :: t) (given : t ≠ []) :
    tail? (c :: t) = tail? t := by
  have start : stripStart (c :: t) = stripStart t := List.dropWhile_cons_of_pos blank
  refine Option.ext fun tail => ?_
  rw [tail?_eq_some_iff noFeed, tail?_eq_some_iff (List.not_mem_of_not_mem_cons noFeed), start]
  simp [given]

/-- Something stands before the declarators of a text that does not consist of them. -/
theorem splitTail_ne_of_tail?_eq_none {tail : Text} (none : tail? t = none) : splitTail t ≠ some ([], tail) := by
  cases t with
  | nil => cases none
  | cons c t =>
    rw [splitTail, none]
    dsimp only
    split
    · exact nofun
    · intro found
      obtain ⟨_, -, same⟩ := Option.map_eq_some_iff.mp found
      cases same

/-- In a text without line feeds the declarators are found. -/
theorem exists_splitTail (noFeed : '\n' ∉ t) : ∃ core gap tail, splitTail t = some (core, tail) ∧
    t = core ++ (gap ++ tail) ∧ (∀ c ∈ gap, isBlank c = true) ∧ (tail = [] → gap = []) ∧
      ∀ c ∈ tail, isDeclarator c = true := by
  induction t with
  | nil => exact ⟨[], [], [], rfl, rfl, by simp, fun _ => rfl, by simp⟩
  | cons c t ih =>
    -- The core ends in front of the first character from which on there are declarators only.
    cases found : tail? (c :: t) with
    | some tail =>
      obtain ⟨rfl, marks, given⟩ := (tail?_eq_some_iff noFeed).mp found
      exact ⟨[], (c :: t).takeWhile isBlank, stripStart (c :: t), by simp only [splitTail, found],
        List.takeWhile_append_dropWhile.symm, List.all_eq_true.mp List.all_takeWhile,
        fun none => absurd (given none) (List.cons_ne_nil c t), marks⟩
    | none =>
      have noFeedLater : '\n' ∉ t := fun member => noFeed (List.mem_cons_of_mem _ member)
      have solid : c ≠ '\n' := fun feed => noFeed (feed ▸ List.mem_cons_self)
      obtain ⟨core, gap, tail, rest, parts, more⟩ := ih noFeedLater
      refine ⟨c :: core, gap, tail, ?_, congrArg (c :: ·) parts, more⟩
      simp only [splitTail, found, rest, beq_iff_eq, solid, if_false, Option.map_some]

theorem exists_cut (noFeed : '\n' ∉ t) : ∃ p : Parts, parts? t = some p ∧ p.Cuts t := by
  have whole := splitLead_append t
  have noFeedLater : '\n' ∉ (splitLead t).2 := fun member => noFeed (whole ▸ List.mem_append_right _ member)
  obtain ⟨core, gap, tail, split, parts, blank, none, marks⟩ := exists_splitTail noFeedLater
  refine ⟨⟨(splitLead t).1, core, tail⟩, ?_, ⟨gap, ?_, blank, none⟩, splitLead_fst t, marks⟩
  · simp only [parts?, split, Option.map_some]
  · rw [← parts, whole]

/-- In a text without line feeds and blanks at its end, no blank stands before what separates the declarators from
the rest. -/
theorem getLast?_splitTail {core tail : Text} (noFeed : '\n' ∉ t)
    (last : ∀ c, t.getLast? = some c → isBlank c = false) (found : splitTail t = some (core, tail)) {d : Char}
    (ends : core.getLast? = some d) : isBlank d = false := by
  induction t generalizing core with
  | nil =>
    cases found
    cases ends
  | cons c t ih =>
    have noFeedLater : '\n' ∉ t := fun member => noFeed (List.mem_cons_of_mem _ member)
    rw [splitTail] at found
    split at found
    · cases found
      cases ends
    · next none =>
      split at found
      · cases found
      obtain ⟨⟨front, _⟩, rest, same⟩ := Option.map_eq_some_iff.mp found
      cases same
      cases front with
      | cons e front =>
        refine ih noFeedLater (fun d found => last d (by rw [List.getLast?_cons, found]; rfl)) rest ?_
        rwa [List.getLast?_cons_of_ne_nil (List.cons_ne_nil e front)] at ends
      | nil =>
        cases ends
        -- A blank here would have belonged to the declarators.
        cases kind : isBlank c with
        | false => exact kind
        | true =>
          cases t with
          | nil =>
            rw [last c rfl] at kind
            cases kind
          | cons e t =>
            rw [tail?_cons_blank kind noFeed (List.cons_ne_nil e t)] at none
            exact absurd rest (splitTail_ne_of_tail?_eq_none none)

theorem eq_space_of_squeezed {blanks : Text} (squeezed : squeeze t = t) (inside : blanks <:+: t)
    (given : blanks ≠ []) (blank : ∀ c ∈ blanks, isBlank c = true) : blanks = [' '] := by
  obtain ⟨-, spaces, single⟩ := squeeze_eq_self_iff.mp squeezed
  have space : ∀ c ∈ blanks, c = ' ' := fun c member => spaces c (inside.subset member) (blank c member)
  match blanks, given with
  | [c], _ => rw [space c List.mem_cons_self]
  | c :: d :: more, _ =>
    cases space c (by simp)
    cases space d (by simp)
    exact absurd ((List.prefix_append [' ', ' '] more).isInfix.trans inside) single

theorem exists_parts (squeezed : squeeze t = t) :
    ∃ p : Parts, parts? t = some p ∧ p.Spells t := by
  obtain ⟨stripped, spaces, -⟩ := squeeze_eq_self_iff.mp squeezed
  have first : ∀ c, t.head? = some c → isBlank c = false := fun c found =>
    head?_strip (t := t) (by rwa [stripped])
  have last : ∀ c, t.getLast? = some c → isBlank c = false := fun c found =>
    getLast?_strip (t := t) (by rwa [stripped])
  have whole := splitLead_append t
  have noFeed : '\n' ∉ (splitLead t).2 := fun member => by
    have space := spaces '\n' (by rw [← whole]; exact List.mem_append_right _ member) (by decide)
    revert space
    decide
  obtain ⟨core, gap, tail, split, parts, blank, -, marks⟩ := exists_splitTail noFeed
  have ends : ∀ c, core.getLast? = some c → isBlank c = false := fun c found =>
    getLast?_splitTail noFeed (fun c found => last c (by rw [← whole, List.getLast?_append, found]; rfl)) split found
  have rebuilt : t = (splitLead t).1 ++ (core ++ (gap ++ tail)) := by rw [← parts, whole]
  refine ⟨⟨(splitLead t).1, core, tail⟩, ?_, ⟨gap, rebuilt, ?_⟩, ?_, marks, ?_⟩
  · simp only [parts?, split, Option.map_some]
  -- The text ends in no blank, so that there are declarators behind a gap.
  · by_cases none : gap = []
    · exact .inl none
    have space := eq_space_of_squeezed squeezed
      ⟨(splitLead t).1 ++ core, tail, by simpa using rebuilt.symm⟩ none blank
    refine .inr ⟨space, fun empty => ?_⟩
    have solid := last ' ' (by rw [rebuilt, space, show tail = [] from empty]; simp)
    revert solid
    decide
  · rcases splitLead_fst t with none | ⟨blanks, lead, given, all⟩
    · exact .inl none
    · have space := eq_space_of_squeezed squeezed
        ⟨"const".toList, (splitLead t).2, by rw [← lead, whole]⟩ given all
      refine .inr ?_
      rw [lead, space]
      rfl
  · refine strip_eq_self (fun c found => head?_splitLead_snd first ?_) ends
    rw [parts, List.head?_append, found]
    rfl

end Composite

end Forwarding
