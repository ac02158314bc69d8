import Forwarding.Text.Basic
import Mathlib.Data.List.TakeWhile

/-! What stripping a text takes away, and what does not notice it. -/

set_option autoImplicit false

namespace Forwarding.Text

section
variable {p : Char → Bool}

theorem dropEnd_append_of_all (t : Text) {right : Text} (all : ∀ c ∈ right, p c = true) :
    dropEnd p (t ++ right) = dropEnd p t := by
  rw [dropEnd, List.reverse_append, List.dropWhile_append_of_pos (by simpa using all), dropEnd]

theorem dropEnd_of_all {t : Text} (all : ∀ c ∈ t, p c = true) : dropEnd p t = [] :=
  dropEnd_append_of_all [] all

theorem dropEnd_eq_self {t : Text} (stays : ∀ c, t.getLast? = some c → p c = false) :
    dropEnd p t = t := by
  cases same : t.reverse with
  | nil => simp [dropEnd, List.reverse_eq_nil_iff.mp same]
  | cons c front =>
    have last : t.getLast? = some c := by rw [List.getLast?_eq_head?_reverse, same, List.head?_cons]
    rw [dropEnd, same, List.dropWhile_cons_of_neg (by simp [stays c last]), ← same,
      List.reverse_reverse]

theorem exists_dropEnd (p : Char → Bool) (t : Text) :
    ∃ right, t = dropEnd p t ++ right ∧ ∀ c ∈ right, p c = true := by
  refine ⟨(t.reverse.takeWhile p).reverse, ?_, ?_⟩
  · rw [dropEnd, ← List.reverse_append, List.takeWhile_append_dropWhile, List.reverse_reverse]
  · intro c member
    exact List.all_eq_true.mp List.all_takeWhile c (List.mem_reverse.mp member)

theorem getLast?_dropEnd {t : Text} {c : Char} (last : (dropEnd p t).getLast? = some c) :
    p c = false := by
  rw [dropEnd, List.getLast?_reverse] at last
  have head := List.head?_dropWhile_not p t.reverse
  rw [last] at head
  simpa using head

end

theorem ne_of_isBlank {c d : Char} (blank : isBlank c = true) (solid : isBlank d = false) : c ≠ d := by
  rintro rfl
  rw [solid] at blank
  cases blank

theorem strip_pad (left t right : Text) (before : ∀ c ∈ left, isBlank c = true)
    (behind : ∀ c ∈ right, isBlank c = true) : strip (left ++ (t ++ right)) = strip t := by
  rw [strip, stripStart, List.dropWhile_append_of_pos before, List.dropWhile_append]
  split
  · next empty =>
    rw [List.isEmpty_iff] at empty
    rw [List.dropWhile_eq_nil_iff.mpr behind, strip, stripStart, empty]
  · rw [stripEnd, dropEnd_append_of_all _ behind]
    rfl

/-- Stripping takes blanks off the two ends. -/
theorem exists_strip (t : Text) : ∃ left right, t = left ++ (strip t ++ right) ∧
    (∀ c ∈ left, isBlank c = true) ∧ ∀ c ∈ right, isBlank c = true := by
  obtain ⟨right, parts, behind⟩ := exists_dropEnd isBlank (stripStart t)
  refine ⟨t.takeWhile isBlank, right, ?_, List.all_eq_true.mp List.all_takeWhile, behind⟩
  rw [strip, stripEnd, ← parts, stripStart, List.takeWhile_append_dropWhile]

@[simp] theorem strip_strip (t : Text) : strip (strip t) = strip t := by
  obtain ⟨left, right, parts, before, behind⟩ := exists_strip t
  have inner := strip_pad left (strip t) right before behind
  rw [← parts] at inner
  exact inner.symm

theorem strip_of_blank {t : Text} (blank : ∀ c ∈ t, isBlank c = true) : strip t = [] := by
  have none := strip_pad t [] [] blank (by simp)
  rwa [List.append_nil, List.append_nil] at none

theorem strip_cons_blank {c : Char} (blank : isBlank c = true) (t : Text) : strip (c :: t) = strip t := by
  simpa using strip_pad [c] t [] (by simpa using blank) (by simp)

theorem strip_eq_self {t : Text} (first : ∀ c, t.head? = some c → isBlank c = false)
    (last : ∀ c, t.getLast? = some c → isBlank c = false) : strip t = t := by
  have start : stripStart t = t := by
    cases t with
    | nil => rfl
    | cons c t => simp [stripStart, first c rfl]
  rw [strip, start, stripEnd, dropEnd_eq_self last]

theorem head?_strip {t : Text} {c : Char} (first : (strip t).head? = some c) : isBlank c = false := by
  obtain ⟨right, parts, -⟩ := exists_dropEnd isBlank (stripStart t)
  have here : (stripStart t).head? = some c := by
    rw [parts, List.head?_append, show dropEnd isBlank (stripStart t) = strip t from rfl, first]
    rfl
  have solid := List.head?_dropWhile_not isBlank t
  rw [show t.dropWhile isBlank = stripStart t from rfl, here] at solid
  simpa using solid

theorem getLast?_strip {t : Text} {c : Char} (last : (strip t).getLast? = some c) :
    isBlank c = false := getLast?_dropEnd last

theorem strip_isInfix (t : Text) : strip t <:+: t := by
  obtain ⟨left, right, parts, -, -⟩ := exists_strip t
  exact ⟨left, right, by simpa using parts.symm⟩

/-- What stands behind a text that is not blank is stripped at its end only. -/
theorem exists_strip_append {s t : Text} (first : strip s ≠ []) (second : strip t ≠ []) :
    ∃ more, more ≠ [] ∧ strip (s ++ t) = strip s ++ more := by
  obtain ⟨left, gap, parts, before, -⟩ := exists_strip s
  obtain ⟨gap', right, parts', -, behind⟩ := exists_strip t
  have whole : s ++ t = left ++ ((strip s ++ (gap ++ (gap' ++ strip t))) ++ right) := by
    conv => lhs; rw [parts, parts']
    simp
  refine ⟨gap ++ (gap' ++ strip t), by simp [second], ?_⟩
  rw [whole, strip_pad left _ right before behind]
  refine strip_eq_self (fun c found => ?_) fun c found => ?_
  · rw [List.head?_append, List.head?_eq_some_head first, Option.some_or, ← List.head?_eq_some_head first] at found
    exact head?_strip found
  · rw [← List.append_assoc, ← List.append_assoc, List.getLast?_append, List.getLast?_eq_some_getLast second,
      Option.some_or, ← List.getLast?_eq_some_getLast second] at found
    exact getLast?_strip found

theorem foldl_strip {β : Type} {f : β → Char → β} (skips : ∀ b c, isBlank c = true → f b c = b)
    (b : β) (t : Text) : (strip t).foldl f b = t.foldl f b := by
  have skip : ∀ (blanks : Text) (b : β), (∀ c ∈ blanks, isBlank c = true) → blanks.foldl f b = b := by
    intro blanks
    induction blanks with
    | nil => simp
    | cons c blanks ih =>
      intro b all
      rw [List.foldl_cons, skips b c (all c (by simp)), ih b fun d member => all d (by simp [member])]
  obtain ⟨left, right, parts, before, behind⟩ := exists_strip t
  generalize strip t = core at parts ⊢
  subst parts
  rw [List.foldl_append, List.foldl_append, skip left b before, skip right _ behind]

theorem filter_strip {p : Char → Bool} (solid : ∀ c, isBlank c = true → p c = false) (t : Text) :
    (strip t).filter p = t.filter p := by
  have none : ∀ blanks : Text, (∀ c ∈ blanks, isBlank c = true) → blanks.filter p = [] := by
    intro blanks all
    rw [List.filter_eq_nil_iff]
    intro c member
    simp [solid c (all c member)]
  obtain ⟨left, right, parts, before, behind⟩ := exists_strip t
  generalize strip t = core at parts ⊢
  subst parts
  simp [none left before, none right behind]

theorem mem_strip {t : Text} {c : Char} (member : c ∈ t) (solid : isBlank c = false) : c ∈ strip t := by
  obtain ⟨left, right, parts, before, behind⟩ := exists_strip t
  rw [parts, List.mem_append, List.mem_append] at member
  rcases member with early | here | late
  · simp [before c early] at solid
  · exact here
  · simp [behind c late] at solid

theorem suffix_strip {s t : Text} (ends : s <:+ t) (given : s ≠ [])
    (solid : ∀ c ∈ s, isBlank c = false) : s <:+ strip t := by
  obtain ⟨front, rfl⟩ := ends
  have whole : stripStart s = s := by
    cases s with
    | nil => exact absurd rfl given
    | cons c s => simp [stripStart, solid c List.mem_cons_self]
  have start : stripStart (front ++ s) = stripStart front ++ s := by
    rw [stripStart, List.dropWhile_append]
    split
    · next blank =>
      rw [stripStart, List.isEmpty_iff.mp blank]
      exact whole
    · rfl
  have last : ∀ c, (stripStart front ++ s).getLast? = some c → isBlank c = false := fun c found => by
    rw [List.getLast?_append, List.getLast?_eq_some_getLast given, Option.some_or] at found
    exact solid c (Option.some.inj found ▸ List.getLast_mem given)
  rw [strip, start, stripEnd, dropEnd_eq_self last]
  exact List.suffix_append _ s

/-! ### Parts with blanks around them

Stripping a text leaves its parts, as long as each part is stripped itself; so do joining it to another text with
blanks and counting what is no blank.
-/

def Blank (t : Text) : Prop := ∀ c ∈ t, isBlank c = true

theorem Blank.nil : Blank [] := fun _ none => nomatch none

theorem Blank.append {s t : Text} (first : Blank s) (second : Blank t) : Blank (s ++ t) :=
  List.forall_mem_append.mpr ⟨first, second⟩

/-- Parts one behind the other, with blanks before each and behind the last one. -/
inductive Padded : List Text → Text → Prop where
  | nil {blanks : Text} : Blank blanks → Padded [] blanks
  | cons {blanks part t : Text} {parts : List Text} :
      Blank blanks → Padded parts t → Padded (part :: parts) (blanks ++ (part ++ t))

namespace Padded

variable {parts more : List Text} {s t part : Text}

theorem single (part : Text) : Padded [part] part := by
  have padded : Padded [part] ([] ++ (part ++ [])) := .cons .nil (.nil .nil)
  rwa [List.nil_append, List.append_nil] at padded

theorem blank_append {blanks : Text} (blank : Blank blanks) (padded : Padded parts t) : Padded parts (blanks ++ t) := by
  cases padded with
  | nil rest => exact .nil (blank.append rest)
  | cons before rest =>
    rw [← List.append_assoc]
    exact .cons (blank.append before) rest

theorem append (first : Padded parts s) (second : Padded more t) : Padded (parts ++ more) (s ++ t) := by
  induction first with
  | nil blank => exact second.blank_append blank
  | cons blank _ ih =>
    rw [List.append_assoc, List.append_assoc]
    exact .cons blank ih

theorem append_blank {blanks : Text} (padded : Padded parts s) (blank : Blank blanks) : Padded parts (s ++ blanks) := by
  have whole := padded.append (.nil blank)
  rwa [List.append_nil] at whole

theorem exists_append (padded : Padded (parts ++ more) t) : ∃ left right, t = left ++ right ∧ Padded parts left ∧
    Padded more right := by
  induction parts generalizing t with
  | nil => exact ⟨[], t, rfl, .nil .nil, padded⟩
  | cons part parts ih =>
    cases padded with
    | cons blank rest =>
      obtain ⟨left, right, rfl, first, second⟩ := ih rest
      exact ⟨_, right, by simp, .cons blank first, second⟩

theorem exists_cons (padded : Padded (part :: parts) t) : ∃ blanks rest, t = blanks ++ (part ++ rest) ∧
    Blank blanks ∧ Padded parts rest := by
  cases padded with
  | cons blank rest => exact ⟨_, _, rfl, blank, rest⟩

private theorem stripStart (stripped : ∀ part ∈ parts, Text.strip part = part) (padded : Padded parts t) :
    Padded parts (stripStart t) := by
  induction padded with
  | @nil blanks blank =>
    rw [show Text.stripStart blanks = [] from List.dropWhile_eq_nil_iff.mpr blank]
    exact .nil .nil
  | @cons blanks part t parts blank rest ih =>
    rw [List.forall_mem_cons] at stripped
    have start : Text.stripStart (blanks ++ (part ++ t)) = Text.stripStart (part ++ t) :=
      List.dropWhile_append_of_pos blank
    rw [start]
    cases part with
    | nil => exact .cons .nil (ih stripped.2)
    | cons c part =>
      -- The first character of a part is no blank.
      have solid : isBlank c = false := head?_strip (t := c :: part) (by rw [stripped.1]; rfl)
      have kept : Text.stripStart (c :: part ++ t) = c :: part ++ t := by
        simp [Text.stripStart, solid]
      rw [kept]
      exact .cons .nil rest

private theorem stripEnd (stripped : ∀ part ∈ parts, Text.strip part = part) (padded : Padded parts t) :
    Padded parts (stripEnd t) := by
  induction padded with
  | @nil blanks blank =>
    rw [show Text.stripEnd blanks = [] from dropEnd_of_all blank]
    exact .nil .nil
  | @cons blanks part t parts blank rest ih =>
    rw [List.forall_mem_cons] at stripped
    have inner := ih stripped.2
    obtain ⟨right, cut, behind⟩ := exists_dropEnd isBlank t
    have whole : Text.stripEnd (blanks ++ (part ++ t)) = Text.stripEnd (blanks ++ (part ++ Text.stripEnd t)) := by
      have parts : blanks ++ (part ++ t) = blanks ++ (part ++ Text.stripEnd t) ++ right := by
        conv => lhs; rw [cut]
        simp [Text.stripEnd]
      rw [parts, Text.stripEnd, dropEnd_append_of_all _ behind]
      rfl
    rw [whole]
    by_cases empty : part ++ Text.stripEnd t = []
    · obtain ⟨rfl, nothing⟩ := List.append_eq_nil_iff.mp empty
      rw [nothing] at inner ⊢
      rw [List.append_nil, List.append_nil, show Text.stripEnd blanks = [] from dropEnd_of_all blank]
      exact .cons .nil inner
    · -- The last character is one of the other parts or else of this one, and no blank in either case.
      have kept : Text.stripEnd (blanks ++ (part ++ Text.stripEnd t)) = blanks ++ (part ++ Text.stripEnd t) := by
        refine dropEnd_eq_self fun c last => ?_
        rw [List.getLast?_append, List.getLast?_eq_some_getLast empty, Option.some_or,
          ← List.getLast?_eq_some_getLast empty, List.getLast?_append] at last
        cases found : (Text.stripEnd t).getLast? with
        | some d =>
          rw [found] at last
          cases last
          exact getLast?_dropEnd found
        | none =>
          rw [found, Option.none_or] at last
          exact getLast?_strip (t := part) (by rwa [stripped.1])
      rw [kept]
      exact .cons blank inner

/-- The blanks at the ends belong to no part. -/
theorem strip (padded : Padded parts t) (stripped : ∀ part ∈ parts, Text.strip part = part) :
    Padded parts (Text.strip t) := stripEnd stripped (stripStart stripped padded)

theorem count (padded : Padded parts t) {c : Char} (solid : isBlank c = false) :
    t.count c = parts.flatten.count c := by
  have none : ∀ {blanks : Text}, Blank blanks → blanks.count c = 0 := fun {blanks} blank =>
    List.count_eq_zero_of_not_mem fun member => by simp [blank c member] at solid
  induction padded with
  | nil blank => simpa using none blank
  | cons blank _ ih => simp [none blank, ih]

end Padded

end Forwarding.Text
