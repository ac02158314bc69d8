import Forwarding.Text.Lines

/-! Lines are cut at every break, and lines written one under the other are read back. -/

set_option autoImplicit false

namespace Forwarding.Text

def Unbroken (t : Text) : Prop := ∀ c ∈ t, isLineBreak c = false

-- Without these two, such a statement may be tried for every character that there is.
instance {p : Char → Prop} [DecidablePred p] (t : Text) : Decidable (∀ c ∈ t, p c) := List.decidableBAll p t

instance {p : Char → Prop} [DecidablePred p] (o : Option Char) : Decidable (∀ c ∈ o, p c) :=
  o.decidableForallMem

instance (t : Text) : Decidable (Unbroken t) := inferInstanceAs (Decidable (∀ _ ∈ t, _))

theorem Unbroken.of_infix {s t : Text} (unbroken : Unbroken t) (inside : s <:+: t) : Unbroken s :=
  fun c member => unbroken c (inside.subset member)

theorem Unbroken.append {s t : Text} (first : Unbroken s) (second : Unbroken t) : Unbroken (s ++ t) :=
  fun c member => (List.mem_append.mp member).elim (first c) (second c)

theorem Unbroken.nil : Unbroken [] := fun _ none => nomatch none

theorem Unbroken.of_all {t : Text} (all : t.all (fun c => !isLineBreak c) = true) : Unbroken t :=
  fun c member => by simpa using List.all_eq_true.mp all c member

theorem Unbroken.of_solid {t : Text} (solid : ∀ c ∈ t, isBlank c = false) : Unbroken t := fun c member => by
  cases kind : isLineBreak c with
  | false => rfl
  | true =>
    rw [← solid c member]
    exact (isBlank_of_isLineBreak kind).symm

theorem Unbroken.cons {c : Char} {t : Text} (first : isLineBreak c = false) (rest : Unbroken t) :
    Unbroken (c :: t) := List.forall_mem_cons.mpr ⟨first, rest⟩

private theorem linesStep_of_unbroken {c : Char} (unbroken : isLineBreak c = false)
    (state : Bool × List Text) : (linesStep c state).2 = consLine c state.2 := by
  have return' : (c == '\r') = false := by
    cases same : c == '\r' with
    | false => rfl
    | true => rw [eq_of_beq same] at unbroken; revert unbroken; decide
  simp [linesStep, return', unbroken]

private theorem foldr_linesStep {t : Text} (unbroken : Unbroken t) {state : Bool × List Text}
    (first : Text) (rest : List Text) (start : state.2 = first :: rest) :
    (t.foldr linesStep state).2 = (t ++ first) :: rest := by
  induction t with
  | nil => exact start
  | cons c t ih =>
    rw [List.foldr_cons, linesStep_of_unbroken (unbroken c (by simp)),
      ih fun d member => unbroken d (by simp [member])]
    rfl

theorem lines_of_unbroken {t : Text} (unbroken : Unbroken t) (some : t ≠ []) : lines t = [t] := by
  obtain ⟨front, last, rfl⟩ : ∃ front last, t = front ++ [last] :=
    ⟨t.dropLast, t.getLast some, (List.dropLast_concat_getLast some).symm⟩
  rw [lines, List.foldr_append]
  refine (foldr_linesStep (fun c member => unbroken c (by simp [member])) [last] [] ?_).trans (by simp)
  rw [List.foldr_cons, linesStep_of_unbroken (unbroken last (by simp))]
  rfl

theorem lines_ofLines {rows : List Text} (unbroken : ∀ row ∈ rows, Unbroken row) :
    lines (ofLines rows) = rows := by
  induction rows with
  | nil => rfl
  | cons row rows ih =>
    have rest := ih fun other member => unbroken other (by simp [member])
    rw [lines] at rest ⊢
    rw [ofLines, List.flatMap_cons, List.append_assoc, List.foldr_append]
    refine (foldr_linesStep (unbroken row (by simp)) [] rows ?_).trans (by simp)
    rw [List.singleton_append, List.foldr_cons]
    simpa [linesStep, isLineBreak, ofLines] using rest

/-- Lines that follow stay as they are, unless the first of them is still being read. -/
private theorem foldr_linesStep_append (t : Text) (feed : Bool) {found : List Text} (rest : List Text)
    (given : found ≠ []) : (t.foldr linesStep (feed, found)).2 ≠ [] ∧
      t.foldr linesStep (feed, found ++ rest) =
        ((t.foldr linesStep (feed, found)).1, (t.foldr linesStep (feed, found)).2 ++ rest) := by
  induction t with
  | nil => exact ⟨given, rfl⟩
  | cons c t ih =>
    obtain ⟨some, same⟩ := ih
    rw [List.foldr_cons, List.foldr_cons, same]
    generalize t.foldr linesStep (feed, found) = state at some
    obtain ⟨feed, found⟩ := state
    cases found with
    | nil => exact absurd rfl some
    | cons first more =>
      simp only [linesStep, consLine]
      split
      · exact ⟨List.cons_ne_nil _ _, rfl⟩
      split
      · exact ⟨List.cons_ne_nil _ _, rfl⟩
      · exact ⟨List.cons_ne_nil _ _, rfl⟩

/-- Two texts with a line feed between them have the lines of both, and perhaps an empty one where the
first text ends with a break of its own. -/
theorem exists_lines_append (s t : Text) : ∃ gap : List Text, (∀ row ∈ gap, row = []) ∧
    lines (s ++ '\n' :: t) = lines s ++ (gap ++ lines t) := by
  rcases List.eq_nil_or_concat s with rfl | ⟨front, last, rfl⟩
  · exact ⟨[[]], by simp, rfl⟩
  · rw [List.concat_eq_append]
    have whole : lines (front ++ [last] ++ '\n' :: t) =
        (front.foldr linesStep (linesStep last (true, [] :: lines t))).2 := by
      rw [lines, List.foldr_append, List.foldr_append, List.foldr_cons]
      rfl
    have alone : lines (front ++ [last]) = (front.foldr linesStep (linesStep last (false, []))).2 := by
      rw [lines, List.foldr_append]
      rfl
    have later (found gap : List Text) (given : found ≠ []) :=
      (foldr_linesStep_append front (last == '\n') (gap ++ lines t) given).2
    -- A carriage return is one break with the line feed; any other break leaves an empty line behind it.
    by_cases feed : last = '\r'
    · subst feed
      exact ⟨[], by simp, by rw [whole, alone]; exact congrArg Prod.snd (later [[]] [] (by simp))⟩
    · by_cases ends : isLineBreak last = true
      · refine ⟨[[]], by simp, ?_⟩
        rw [whole, alone]
        simpa [linesStep, feed, ends] using congrArg Prod.snd (later [[]] [[]] (by simp))
      · refine ⟨[], by simp, ?_⟩
        rw [whole, alone]
        simpa [linesStep, feed, ends, consLine] using congrArg Prod.snd (later [[last]] [] (by simp))

/-- A text that ends in a break has its lines by itself, unless the break goes on behind it. -/
theorem lines_append {s t : Text} (ends : ∀ c ∈ s.getLast?, isLineBreak c = true) (apart : t.head? ≠ some '\n') :
    lines (s ++ t) = lines s ++ lines t := by
  rcases List.eq_nil_or_concat s with rfl | ⟨front, last, rfl⟩
  · rfl
  · rw [List.concat_eq_append] at ends ⊢
    have break' : isLineBreak last = true := ends last (by rw [List.getLast?_concat]; rfl)
    have feed : (t.foldr linesStep (false, [])).1 = false := by
      cases t with
      | nil => rfl
      | cons c t => simpa [linesStep] using apart
    have whole : linesStep last (t.foldr linesStep (false, [])) = (last == '\n', [[]] ++ lines t) := by
      simp [linesStep, feed, break', lines]
    have first : linesStep last (false, []) = (last == '\n', [[]]) := by
      simp [linesStep, break']
    have later := (foldr_linesStep_append front (last == '\n') (lines t) (List.cons_ne_nil [] [])).2
    have alone : lines (front ++ [last]) = (front.foldr linesStep (last == '\n', [[]])).2 := by
      rw [lines, List.foldr_append, List.foldr_cons, List.foldr_nil, first]
    rw [alone, lines, List.foldr_append, List.foldr_append, List.foldr_cons, List.foldr_nil, whole, later]

/-- A line with what stands before and behind it in a text: it starts the text or follows a break, and it ends the
text or comes before one. -/
structure IsLine (before line after : Text) : Prop where
  unbroken : Unbroken line
  given : line ≠ []
  begins : ∀ c ∈ before.getLast?, isLineBreak c = true
  ends : ∀ c ∈ after.head?, isLineBreak c = true

/-- Where a break comes first, the lines behind it have an empty one before them. -/
private theorem lines_of_break {t : Text} (starts : ∀ c ∈ t.head?, isLineBreak c = true) (given : t ≠ []) :
    lines t = [] :: (lines t).tail := by
  cases t with
  | nil => exact absurd rfl given
  | cons c t =>
    have break' : isLineBreak c = true := starts c rfl
    rw [lines, List.foldr_cons]
    by_cases swallowed : (c == '\r' && (t.foldr linesStep (false, [])).1) = true
    · -- The line feed that follows has put the empty line there.
      rw [Bool.and_eq_true] at swallowed
      cases t with
      | nil => cases swallowed.2
      | cons d t =>
        have feed : d = '\n' := by simpa [linesStep] using swallowed.2
        have carriage : c = '\r' := by simpa using swallowed.1
        subst feed carriage
        simp [linesStep, isLineBreak]
    · simp [linesStep, swallowed, break']

theorem IsLine.lines_eq {before line after : Text} (here : IsLine before line after) :
    lines (before ++ line ++ after) = lines before ++ line :: (lines after).tail := by
  obtain ⟨unbroken, given, begins, ends⟩ := here
  have apart : (line ++ after).head? ≠ some '\n' := by
    intro feed
    cases line with
    | nil => exact given rfl
    | cons c line =>
      cases feed
      exact absurd (unbroken '\n' List.mem_cons_self) (by decide)
  have rest : lines (line ++ after) = line :: (lines after).tail := by
    by_cases last : after = []
    · rw [last, List.append_nil, lines_of_unbroken unbroken given]
      rfl
    · have start := lines_of_break ends last
      rw [lines] at start
      rw [lines, List.foldr_append, foldr_linesStep unbroken _ _ start, List.append_nil]
      rfl
  rw [List.append_assoc, lines_append begins apart, rest]

theorem unbroken_of_mem_lines {t line : Text} (member : line ∈ lines t) : Unbroken line := by
  rw [lines] at member
  induction t generalizing line with
  | nil => cases member
  | cons c t ih =>
    rw [List.foldr_cons] at member
    generalize t.foldr linesStep (false, []) = state at ih member
    obtain ⟨feed, found⟩ := state
    simp only [linesStep] at member
    split at member
    · exact ih member
    split at member
    · rcases List.mem_cons.mp member with rfl | later
      · exact fun _ none => nomatch none
      · exact ih later
    · next unbroken =>
      cases found with
      | nil =>
        rw [consLine, List.mem_singleton] at member
        subst member
        exact fun d here => by simpa [List.mem_singleton.mp here] using unbroken
      | cons first rest =>
        rcases List.mem_cons.mp member with rfl | later
        · intro d here
          rcases List.mem_cons.mp here with rfl | inside
          · simpa using unbroken
          · exact ih (List.mem_cons_self) d inside
        · exact ih (List.mem_cons_of_mem _ later)

theorem Unbroken.not_mem_feed {t : Text} (unbroken : Unbroken t) : '\n' ∉ t := fun member =>
  absurd (unbroken '\n' member) (by decide)

theorem Unbroken.not_mem_return {t : Text} (unbroken : Unbroken t) : '\r' ∉ t := fun member =>
  absurd (unbroken '\r' member) (by decide)

/-- Lines without line feeds are the pieces of their text, with an empty piece behind them. -/
theorem pieces_ofLines {rows : List Text} (plain : ∀ row ∈ rows, '\n' ∉ row) :
    pieces (ofLines rows) = rows ++ [[]] := by
  induction rows with
  | nil => rfl
  | cons row rows ih =>
    rw [List.forall_mem_cons] at plain
    have rest : pieces ('\n' :: ofLines rows) = [] :: (rows ++ [[]]) := by
      rw [← ih plain.2]
      rfl
    have joined : ofLines (row :: rows) = row ++ '\n' :: ofLines rows := by
      rw [ofLines, List.flatMap_cons, List.append_assoc]
      rfl
    rw [joined]
    have solid := plain.1
    clear plain ih joined
    induction row with
    | nil => exact rest
    | cons c row ih =>
      rw [List.mem_cons, not_or] at solid
      have other : (c == '\n') = false := by simpa using Ne.symm solid.1
      have more := ih solid.2
      rw [pieces] at more ⊢
      rw [List.cons_append, List.foldr_cons, more, other]
      rfl

end Forwarding.Text
