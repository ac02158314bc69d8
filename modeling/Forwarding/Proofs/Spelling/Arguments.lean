import Forwarding.Proofs.Spelling.Brackets
import Forwarding.Proofs.Text.Join

/-! Splitting a list of arguments and joining it again.

A text is split apart from what stands behind the next comma just when it closes its brackets. So joined
arguments are split into the pieces of each, and arguments without outer commas are read back.

A text without outer commas is not split wherever it stands, but a bracket that it leaves open holds the
commas behind it inside. So a list of such texts is split into as many pieces as there are texts just when
all but the last close their brackets, and into fewer otherwise.
-/

set_option autoImplicit false

namespace Forwarding.Spelling

open Text

theorem splitFrom_append_comma {brackets : List Char} {s : Text} (closed : s.foldl nest brackets = [])
    (t : Text) :
    splitFrom [','] brackets (s ++ ',' :: t) = ((splitFrom [','] brackets s).1,
      (splitFrom [','] brackets s).2 ++ (splitFrom [','] [] t).1 :: (splitFrom [','] [] t).2) := by
  induction s generalizing brackets with
  | nil =>
    rw [List.foldl_nil] at closed
    simp [closed, splitFrom_comma, splitFrom]
  | cons c s ih =>
    rw [List.foldl_cons] at closed
    rw [List.cons_append]
    by_cases comma : c = ','
    · subst comma
      rw [nest_comma] at closed
      rw [splitFrom_comma, splitFrom_comma]
      split
      · next outside =>
        subst outside
        simp [ih closed]
      · simp [ih closed]
    · simp [splitFrom_of_ne comma, ih closed]

theorem splitFrom_single {brackets : List Char} {t : Text} (single : (splitFrom [','] brackets t).2 = []) :
    (splitFrom [','] brackets t).1 = t := by
  induction t generalizing brackets with
  | nil => rfl
  | cons c t ih =>
    by_cases comma : c = ','
    · subst comma
      rw [splitFrom_comma] at single ⊢
      split at single
      · cases single
      · next inside => simp [inside, ih single]
    · rw [splitFrom_of_ne comma] at single ⊢
      simp [ih single]

theorem arguments_eq (t : Text) : arguments t =
    strip (splitFrom [','] [] t).1 :: (splitFrom [','] [] t).2.map strip := rfl

theorem arguments_append_comma {s : Text} (closed : openAfter s = []) (t : Text) :
    arguments (s ++ ',' :: t) = arguments s ++ arguments t := by
  simp [arguments_eq, splitFrom_append_comma closed]

theorem arguments_cons_blank {c : Char} (blank : isBlank c = true) (t : Text) :
    arguments (c :: t) = arguments t := by
  rw [arguments_eq, splitFrom_of_ne (ne_of_isBlank blank rfl),
    nest_plain (isBracket_of_isBlank blank), strip_cons_blank blank, arguments_eq]

theorem arguments_of_single {t : Text} (single : ¬ HasOuterComma t) : arguments t = [strip t] := by
  have none : (splitFrom [','] [] t).2 = [] := by
    cases found : (splitFrom [','] [] t).2 with
    | nil => rfl
    | cons piece more => exact absurd ((splitFrom_more_iff [] t).mp (by simp [found])) single
  rw [arguments_eq, none, splitFrom_single none, List.map_nil]

theorem exists_first_comma {t : Text} (composite : HasOuterComma t) :
    ∃ left right, t = left ++ ',' :: right ∧ openAfter left = [] ∧ ¬ HasOuterComma left := by
  obtain ⟨left, right, parts, closed⟩ := composite
  induction size : left.length using Nat.strongRecOn generalizing left right with
  | _ n earlier =>
    by_cases again : HasOuterComma left
    · obtain ⟨front, rest, rfl, outside⟩ := again
      refine earlier front.length ?_ front (rest ++ ',' :: right) (by simp [parts]) outside rfl
      rw [← size, List.length_append, List.length_cons]
      omega
    · exact ⟨left, right, parts, closed, again⟩

theorem arguments_induction {P : Text → Prop} (single : ∀ t, ¬ HasOuterComma t → P t)
    (more : ∀ left right, openAfter left = [] → ¬ HasOuterComma left → P right → P (left ++ ',' :: right))
    (t : Text) : P t := by
  induction size : t.length using Nat.strongRecOn generalizing t with
  | _ n shorter =>
    by_cases composite : HasOuterComma t
    · obtain ⟨left, right, rfl, closed, first⟩ := exists_first_comma composite
      refine more left right closed first (shorter right.length ?_ right rfl)
      rw [← size, List.length_append, List.length_cons]
      omega
    · exact single t composite

theorem openAfter_strip (t : Text) : openAfter (strip t) = openAfter t :=
  foldl_strip (fun brackets _ blank => nest_plain (isBracket_of_isBlank blank) brackets) [] t

theorem not_hasOuterComma_strip {t : Text} (single : ¬ HasOuterComma t) : ¬ HasOuterComma (strip t) := by
  rintro ⟨front, rest, same, closed⟩
  obtain ⟨left, right, parts, before, -⟩ := exists_strip t
  refine single ⟨left ++ front, rest ++ right, by rw [parts, same]; simp, ?_⟩
  have blanks : openAfter left = [] := by
    rw [← openAfter_strip, strip_of_blank before]
    rfl
  rw [openAfter_append, blanks]
  exact closed

/-- No comma outside brackets comes with blanks. -/
theorem hasOuterComma_of_pad {left t right : Text} (before : ∀ c ∈ left, isBlank c = true)
    (behind : ∀ c ∈ right, isBlank c = true) (composite : HasOuterComma (left ++ (t ++ right))) : HasOuterComma t := by
  obtain ⟨front, rest, same, closed⟩ := composite
  have solid : ∀ blanks : Text, (∀ c ∈ blanks, isBlank c = true) → ',' ∉ blanks := fun blanks all member =>
    absurd (all ',' member) (by decide)
  have blanks : openAfter left = [] := by
    rw [← openAfter_strip, strip_of_blank before]
    rfl
  -- The comma stands behind the blanks before the text, and before those behind it.
  obtain ⟨middle, rfl, inner⟩ : ∃ middle, front = left ++ middle ∧ t ++ right = middle ++ ',' :: rest := by
    rcases List.append_eq_append_iff.mp same with ⟨middle, parts, inner⟩ | ⟨more, parts, inner⟩
    · exact ⟨middle, parts, inner⟩
    · cases more with
      | nil => exact ⟨[], by simpa using parts.symm, inner.symm⟩
      | cons c more =>
        cases inner
        exact absurd (parts ▸ List.mem_append_right front List.mem_cons_self) (solid left before)
  rw [openAfter_append, blanks] at closed
  rcases List.append_eq_append_iff.mp inner with ⟨more, -, inner⟩ | ⟨more, parts, inner⟩
  · exact absurd (inner ▸ List.mem_append_right more List.mem_cons_self) (solid right behind)
  · cases more with
    | nil =>
      have same : ',' :: rest = right := inner
      exact absurd (same ▸ List.mem_cons_self) (solid right behind)
    | cons c more =>
      cases inner
      exact ⟨middle, more, parts, closed⟩

theorem of_mem_arguments {t a : Text} (member : a ∈ arguments t) :
    a <:+: t ∧ strip a = a ∧ ¬ HasOuterComma a := by
  induction t using arguments_induction with
  | single t single =>
    rw [arguments_of_single single, List.mem_singleton] at member
    subst member
    exact ⟨strip_isInfix t, strip_strip t, not_hasOuterComma_strip single⟩
  | more left right closed single ih =>
    rw [arguments_append_comma closed, arguments_of_single single, List.singleton_append,
      List.mem_cons] at member
    rcases member with rfl | later
    · exact ⟨(strip_isInfix left).trans (List.infix_append' [] left _), strip_strip left,
        not_hasOuterComma_strip single⟩
    · refine ⟨(ih later).1.trans ⟨left ++ [','], [], by simp⟩, (ih later).2⟩

theorem arguments_of_mem {t a : Text} (member : a ∈ arguments t) : arguments a = [a] := by
  obtain ⟨-, stripped, single⟩ := of_mem_arguments member
  rw [arguments_of_single single, stripped]

theorem openAfter_of_mem_dropLast {t a : Text} (member : a ∈ (arguments t).dropLast) : openAfter a = [] := by
  induction t using arguments_induction with
  | single t single =>
    rw [arguments_of_single single] at member
    cases member
  | more left right closed single ih =>
    rw [arguments_append_comma closed, arguments_of_single single, List.singleton_append,
      List.dropLast_cons_of_ne_nil (by simp [arguments_eq]), List.mem_cons] at member
    rcases member with rfl | later
    · rwa [openAfter_strip]
    · exact ih later

theorem flatMap_arguments {args : List Text}
    (each : ∀ a ∈ args, strip a = a ∧ ¬ HasOuterComma a) : args.flatMap arguments = args := by
  induction args with
  | nil => rfl
  | cons a args ih =>
    rw [List.forall_mem_cons] at each
    rw [List.flatMap_cons, arguments_of_single each.1.2, each.1.1, ih each.2, List.singleton_append]

theorem arguments_blanks_append {space : Text} (blank : ∀ c ∈ space, isBlank c = true) (t : Text) :
    arguments (space ++ t) = arguments t := by
  induction space with
  | nil => rfl
  | cons c space ih =>
    rw [List.forall_mem_cons] at blank
    rw [List.cons_append, arguments_cons_blank blank.1, ih blank.2]

/-- Joined by a comma and blanks, texts that close their brackets are split apart again. -/
theorem arguments_join_blanks {space : Text} (blank : ∀ c ∈ space, isBlank c = true) {args : List Text}
    (given : args ≠ []) (closed : ∀ a ∈ args.dropLast, openAfter a = []) :
    arguments (join (',' :: space) args) = args.flatMap arguments := by
  induction args with
  | nil => exact absurd rfl given
  | cons a args ih =>
    cases args with
    | nil => simp
    | cons b rest =>
      rw [List.dropLast_cons_of_ne_nil (by simp), List.forall_mem_cons] at closed
      rw [join_cons_cons, List.cons_append, arguments_append_comma closed.1, arguments_blanks_append blank,
        ih (by simp) closed.2]
      rfl

theorem arguments_join {args : List Text} (given : args ≠ [])
    (closed : ∀ a ∈ args.dropLast, openAfter a = []) :
    arguments (join ", ".toList args) = args.flatMap arguments := by
  have blank : ∀ c ∈ [' '], isBlank c = true := by decide
  exact arguments_join_blanks blank given closed

theorem filter_flatten_arguments {p : Char → Bool} (noComma : p ',' = false)
    (noBlank : ∀ c, isBlank c = true → p c = false) (t : Text) :
    (arguments t).flatten.filter p = t.filter p := by
  have raw : ∀ (brackets : List Char) (t : Text),
      ((splitFrom [','] brackets t).1 :: (splitFrom [','] brackets t).2).flatten.filter p = t.filter p := by
    intro brackets t
    induction t generalizing brackets with
    | nil => rfl
    | cons c t ih =>
      by_cases comma : c = ','
      · subst comma
        rw [splitFrom_comma]
        split
        · simpa [noComma] using ih []
        · simpa [noComma] using ih brackets
      · rw [splitFrom_of_ne comma]
        have rest := ih (nest brackets c)
        simp only [List.flatten_cons, List.cons_append, List.filter_cons] at rest ⊢
        rw [rest]
  have stripped : ∀ pieces : List Text, (pieces.map strip).flatten.filter p = pieces.flatten.filter p := by
    intro pieces
    induction pieces with
    | nil => rfl
    | cons piece pieces ih => simp [filter_strip noBlank, ih]
  rw [arguments_eq, ← List.map_cons, stripped, raw]

/-! ### What the brackets of one text do to the commas behind it -/

/-- One more character does not reach below the brackets that were open before, unless none of its own
text are. -/
theorem exists_nest_append (own outer : List Char) (c : Char) :
    ∃ rest, nest (own ++ outer) c = nest own c ++ rest ∧ rest <:+ outer := by
  cases own with
  | cons opener own =>
    refine ⟨outer, ?_, List.suffix_rfl⟩
    simp only [nest, List.cons_append]
    repeat' split
    all_goals rfl
  | nil =>
    cases outer with
    | nil => exact ⟨[], by simp, List.suffix_rfl⟩
    | cons opener outer =>
      simp only [nest, List.nil_append]
      split
      · exact ⟨opener :: outer, rfl, List.suffix_rfl⟩
      split
      · exact ⟨outer, rfl, List.suffix_cons opener outer⟩
      · exact ⟨opener :: outer, rfl, List.suffix_rfl⟩

/-- A text leaves its own brackets open wherever it stands, and may close some of those around it. -/
theorem exists_foldl_nest (outer : List Char) (t : Text) :
    ∃ rest, t.foldl nest outer = openAfter t ++ rest ∧ rest <:+ outer := by
  -- On the text, with what it has opened itself kept apart from what was open before it.
  have each : ∀ (t : Text) (own outer : List Char),
      ∃ rest, t.foldl nest (own ++ outer) = t.foldl nest own ++ rest ∧ rest <:+ outer := by
    intro t
    induction t with
    | nil => exact fun own outer => ⟨outer, rfl, List.suffix_rfl⟩
    | cons c t ih =>
      intro own outer
      obtain ⟨left, here, within⟩ := exists_nest_append own outer c
      obtain ⟨rest, later, shorter⟩ := ih (nest own c) left
      exact ⟨rest, by rw [List.foldl_cons, here, later, List.foldl_cons], shorter.trans within⟩
  exact each t [] outer

theorem splitFrom_of_single {t : Text} (single : ¬ HasOuterComma t) (outer : List Char) :
    (splitFrom [','] outer t).2 = [] := by
  cases found : (splitFrom [','] outer t).2 with
  | nil => rfl
  | cons piece more =>
    obtain ⟨left, right, parts, closed⟩ := (splitFrom_more_iff outer t).mp (by simp [found])
    obtain ⟨rest, brackets, -⟩ := exists_foldl_nest outer left
    rw [closed] at brackets
    exact absurd ⟨left, right, parts, (List.append_eq_nil_iff.mp brackets.symm).1⟩ single

theorem length_splitFrom_append (outer : List Char) (s t : Text) :
    (splitFrom [','] outer (s ++ t)).2.length =
      (splitFrom [','] outer s).2.length + (splitFrom [','] (s.foldl nest outer) t).2.length := by
  induction s generalizing outer with
  | nil => simp [splitFrom]
  | cons c s ih =>
    rw [List.cons_append, List.foldl_cons]
    by_cases comma : c = ','
    · subst comma
      rw [splitFrom_comma, splitFrom_comma, nest_comma]
      split
      · next outside =>
        subst outside
        simp only [List.length_cons, ih]
        omega
      · exact ih outer
    · rw [splitFrom_of_ne comma, splitFrom_of_ne comma]
      exact ih _

/-- Open brackets around a text hide commas, and show none. -/
theorem length_splitFrom_le (outer : List Char) (t : Text) :
    (splitFrom [','] outer t).2.length ≤ (splitFrom [','] [] t).2.length := by
  -- On the text, with what it has opened itself kept apart from what was open before it.
  have each : ∀ (t : Text) (own outer : List Char),
      (splitFrom [','] (own ++ outer) t).2.length ≤ (splitFrom [','] own t).2.length := by
    intro t
    induction t with
    | nil => exact fun _ _ => Nat.le_refl _
    | cons c t ih =>
      intro own outer
      by_cases comma : c = ','
      · subst comma
        have here := ih own outer
        rw [splitFrom_comma, splitFrom_comma]
        split
        · next none =>
          obtain ⟨rfl, rfl⟩ := List.append_eq_nil_iff.mp none
          exact Nat.le_refl _
        · split
          · next outside =>
            subst outside
            exact Nat.le_succ_of_le here
          · exact here
      · obtain ⟨rest, brackets, -⟩ := exists_nest_append own outer c
        rw [splitFrom_of_ne comma, splitFrom_of_ne comma, brackets]
        exact ih _ rest
  exact each t [] outer

theorem length_arguments (t : Text) : (arguments t).length = (splitFrom [','] [] t).2.length + 1 := by
  rw [arguments_eq, List.length_cons, List.length_map]

/-- A comma cuts a text in two just where no bracket is open. -/
theorem arguments_append_comma_iff {s t : Text} :
    arguments (s ++ ',' :: t) = arguments s ++ arguments t ↔ openAfter s = [] := by
  refine ⟨fun same => Decidable.byContradiction fun inside => ?_, fun closed => arguments_append_comma closed t⟩
  have pieces := congrArg List.length same
  have hidden := length_splitFrom_le (openAfter s) t
  rw [List.length_append, length_arguments, length_arguments, length_arguments, length_splitFrom_append,
    ← openAfter, splitFrom_comma, if_neg inside] at pieces
  simp only at pieces
  omega

/-- A text that neither opens or closes anything nor separates. -/
def Neutral (t : Text) : Prop := ∀ c ∈ t, isBracket c = false ∧ c ≠ ','

namespace Neutral

variable {s t : Text}

theorem append (first : Neutral s) (second : Neutral t) : Neutral (s ++ t) :=
  List.forall_mem_append.mpr ⟨first, second⟩

theorem openAfter_append (neutral : Neutral s) (t : Text) : openAfter (t ++ s) = openAfter t := by
  have nested : Nested s := .of_plain fun c member => (neutral c member).1
  rw [Spelling.openAfter_append, nested.foldl_nest]

theorem not_hasOuterComma (neutral : Neutral s) : ¬ HasOuterComma s := by
  rintro ⟨left, right, rfl, -⟩
  exact (neutral ',' (by simp)).2 rfl

theorem not_hasOuterComma_append (neutral : Neutral s) (single : ¬ HasOuterComma t) :
    ¬ HasOuterComma (t ++ s) := by
  have none := length_splitFrom_append [] t s
  rw [splitFrom_of_single single, splitFrom_of_single neutral.not_hasOuterComma] at none
  exact fun composite => (splitFrom_more_iff [] _).mpr composite (List.eq_nil_of_length_eq_zero none)

end Neutral

/-- The comma behind the first of some texts counts if no bracket is open there. -/
theorem length_splitFrom_join {a : Text} (single : ¬ HasOuterComma a) (outer : List Char) (b : Text)
    (rest : List Text) :
    (splitFrom [','] outer (join ", " (a :: b :: rest))).2.length =
      if a.foldl nest outer = [] then (splitFrom [','] [] (join ", " (b :: rest))).2.length + 1
      else (splitFrom [','] (a.foldl nest outer) (join ", " (b :: rest))).2.length := by
  have space : ∀ (brackets : List Char) (t : Text),
      (splitFrom [','] brackets (' ' :: t)).2 = (splitFrom [','] brackets t).2 := fun brackets t => by
    rw [splitFrom_of_ne (by decide), nest_plain (by decide)]
  have parts : join ", " (a :: b :: rest) = a ++ ',' :: ' ' :: join ", " (b :: rest) :=
    join_cons_cons _ a b rest
  rw [parts, length_splitFrom_append, splitFrom_of_single single, List.length_nil, Nat.zero_add,
    splitFrom_comma]
  split <;> simp [space]

/-- Texts that are single pieces by themselves are at most as many pieces as there are texts. -/
theorem length_splitFrom_join_lt {args : List Text} (single : ∀ a ∈ args, ¬ HasOuterComma a)
    (given : args ≠ []) (outer : List Char) :
    (splitFrom [','] outer (join ", " args)).2.length < args.length := by
  induction args generalizing outer with
  | nil => exact absurd rfl given
  | cons a args ih =>
    rw [List.forall_mem_cons] at single
    cases args with
    | nil => simp [splitFrom_of_single single.1]
    | cons b rest =>
      have later := ih single.2 (List.cons_ne_nil b rest)
      rw [length_splitFrom_join single.1]
      split
      · exact Nat.succ_lt_succ (later [])
      · exact Nat.lt_succ_of_lt (later _)

section
variable {args : List Text} (single : ∀ a ∈ args, ¬ HasOuterComma a) (given : args ≠ [])
include single given

theorem length_arguments_join_le : (arguments (join ", " args)).length ≤ args.length := by
  rw [length_arguments]
  exact length_splitFrom_join_lt single given []

/-- Each comma between the texts counts just when each text but the last closes its brackets. -/
theorem length_arguments_join_iff :
    (arguments (join ", " args)).length = args.length ↔ ∀ a ∈ args.dropLast, openAfter a = [] := by
  induction args with
  | nil => exact absurd rfl given
  | cons a args ih =>
    rw [List.forall_mem_cons] at single
    cases args with
    | nil => simp [arguments_of_single single.1]
    | cons b rest =>
      have more : b :: rest ≠ [] := List.cons_ne_nil b rest
      rw [List.dropLast_cons_of_ne_nil more, List.forall_mem_cons, ← ih single.2 more, length_arguments,
        length_arguments, length_splitFrom_join single.1, openAfter]
      split
      · next closed => simp [closed]
      · next inside =>
        have fewer := length_splitFrom_join_lt single.2 more (a.foldl nest [])
        simp only [inside, false_and, iff_false, List.length_cons] at fewer ⊢
        omega

theorem arguments_join_eq_map_strip (closed : ∀ a ∈ args.dropLast, openAfter a = []) :
    arguments (join ", " args) = args.map strip := by
  have pieces : args.map arguments = args.map fun a => [strip a] :=
    List.map_congr_left fun a member => arguments_of_single (single a member)
  rw [arguments_join given closed, List.flatMap_def, pieces, ← List.flatMap_def, ← List.map_eq_flatMap]

end

end Forwarding.Spelling
