import Forwarding.Proofs.Text.Join
import Forwarding.Proofs.Text.Strip
import Forwarding.Spelling.Split

/-! Commas outside brackets and marks in pairs, said without the functions that look for them.

The brackets that a text leaves open decide whether what follows is outside. A composite spelling is
one with a comma before which every bracket is closed again; marks pair up when none closes what has
not been opened and none stays open.
-/

set_option autoImplicit false

namespace Forwarding.Spelling

open Text

def openAfter (t : Text) : List Char := t.foldl nest []

/-- Somewhere a comma stands outside all brackets. -/
def HasOuterComma (t : Text) : Prop := ∃ left right, t = left ++ ',' :: right ∧ openAfter left = []

/-- No closing mark stands before its opening one, and there are as many of both. -/
structure Paired (opening closing : Char) (t : Text) : Prop where
  bound : ∀ left, left <+: t → left.count closing ≤ left.count opening
  equal : t.count opening = t.count closing

def AnglesBalanced (t : Text) : Prop := Paired '<' '>' t

@[simp] theorem openAfter_nil : openAfter [] = [] := rfl

theorem openAfter_append (s t : Text) : openAfter (s ++ t) = t.foldl nest (openAfter s) := by
  simp [openAfter]

@[simp] theorem nest_comma (brackets : List Char) : nest brackets ',' = brackets := by
  cases brackets <;> simp [nest, isOpener, closes]

theorem splitFrom_comma (brackets : List Char) (t : Text) :
    splitFrom [','] brackets (',' :: t) =
      if brackets = [] then ([], (splitFrom [','] [] t).1 :: (splitFrom [','] [] t).2)
      else (',' :: (splitFrom [','] brackets t).1, (splitFrom [','] brackets t).2) := by
  cases brackets <;> simp [splitFrom, nest_comma]

theorem splitFrom_of_ne {c : Char} (plain : c ≠ ',') (brackets : List Char) (t : Text) :
    splitFrom [','] brackets (c :: t) =
      (c :: (splitFrom [','] (nest brackets c) t).1, (splitFrom [','] (nest brackets c) t).2) := by
  have other : ([c] == [',']) = false := by simp [plain]
  simp [splitFrom, other]

theorem splitFrom_more_iff (brackets : List Char) (t : Text) :
    (splitFrom [','] brackets t).2 ≠ [] ↔
      ∃ left right, t = left ++ ',' :: right ∧ left.foldl nest brackets = [] := by
  induction t generalizing brackets with
  | nil => simp [splitFrom]
  | cons c t ih =>
    -- A comma that is not here is in the rest, behind one more character.
    have later : (∃ left right, t = left ++ ',' :: right ∧ left.foldl nest (nest brackets c) = []) →
        ∃ left right, c :: t = left ++ ',' :: right ∧ left.foldl nest brackets = [] := by
      rintro ⟨left, right, rfl, closed⟩
      exact ⟨c :: left, right, rfl, closed⟩
    by_cases comma : c = ','
    · subst comma
      rw [splitFrom_comma]
      split
      · next outside => exact ⟨fun _ => ⟨[], t, rfl, outside⟩, fun _ => by simp⟩
      · next inside =>
        rw [nest_comma] at later
        refine ⟨fun more => later ((ih brackets).mp more), ?_⟩
        rintro ⟨left, right, same, closed⟩
        cases left with
        | nil => exact absurd closed inside
        | cons head left =>
          simp only [List.cons_append, List.cons.injEq] at same
          obtain ⟨rfl, same⟩ := same
          rw [List.foldl_cons, nest_comma] at closed
          exact (ih brackets).mpr ⟨left, right, same, closed⟩
    · rw [splitFrom_of_ne comma]
      refine ⟨fun more => later ((ih _).mp more), ?_⟩
      rintro ⟨left, right, same, closed⟩
      cases left with
      | nil => exact absurd (List.cons.inj same).1 comma
      | cons head left =>
        simp only [List.cons_append, List.cons.injEq] at same
        obtain ⟨rfl, same⟩ := same
        exact (ih _).mpr ⟨left, right, same, closed⟩

theorem isComposite_iff {t : Text} : isComposite t = true ↔ HasOuterComma t := by
  have more := splitFrom_more_iff [] t
  simp only [isComposite, arguments, split, List.map_cons, List.length_cons, List.length_map,
    decide_eq_true_eq, HasOuterComma, openAfter, ← more]
  rw [← List.length_pos_iff]
  omega

theorem forall_prefix_cons {c : Char} {t : Text} {P : Text → Prop} :
    (∀ left, left <+: c :: t → P left) ↔ P [] ∧ ∀ left, left <+: t → P (c :: left) := by
  refine ⟨fun all => ⟨all [] List.nil_prefix, fun left start => all _ (by simpa using start)⟩, ?_⟩
  rintro ⟨empty, more⟩ left start
  rcases List.prefix_cons_iff.mp start with rfl | ⟨rest, rfl, shorter⟩
  · exact empty
  · exact more rest shorter

theorem anglesPair_iff {depth : Nat} {t : Text} :
    anglesPair depth t = true ↔
      (∀ left, left <+: t → left.count '>' ≤ left.count '<' + depth) ∧
        t.count '<' + depth = t.count '>' := by
  induction t generalizing depth with
  | nil => cases depth <;> simp [anglesPair]
  | cons c t ih =>
    rw [forall_prefix_cons]
    by_cases opens : c = '<'
    · subst opens
      simp only [anglesPair, beq_self_eq_true, if_true, ih]
      simp [Nat.add_assoc, Nat.add_comm 1]
    by_cases shuts : c = '>'
    · subst shuts
      cases depth with
      | zero =>
        -- The first character alone closes more than is open.
        have next : anglesPair 0 ('>' :: t) = false := rfl
        simp only [next, Bool.false_eq_true, false_iff]
        rintro ⟨⟨-, bound⟩, -⟩
        exact absurd (bound [] List.nil_prefix) (by decide)
      | succ depth =>
        have next : anglesPair (depth + 1) ('>' :: t) = anglesPair depth t := rfl
        rw [next, ih]
        simp [← Nat.add_assoc]
    · have next : anglesPair depth (c :: t) = anglesPair depth t := by simp [anglesPair, opens, shuts]
      rw [next, ih]
      simp [opens, shuts]

section
variable {opening closing : Char}

theorem Paired.nil : Paired opening closing [] := ⟨by simp, rfl⟩

theorem Paired.append {s t : Text} (first : Paired opening closing s)
    (second : Paired opening closing t) : Paired opening closing (s ++ t) := by
  refine ⟨fun left start => ?_, by simp [first.equal, second.equal]⟩
  rcases List.prefix_or_prefix_of_prefix start (List.prefix_append s t) with inside | ⟨rest, rfl⟩
  · exact first.bound left inside
  · have := second.bound rest ((List.prefix_append_right_inj s).mp start)
    simp only [List.count_append, first.equal]
    omega

theorem Paired.plain {t : Text} (unopened : opening ∉ t) (unclosed : closing ∉ t) :
    Paired opening closing t := by
  refine ⟨fun left start => ?_, ?_⟩
  · rw [List.count_eq_zero_of_not_mem fun member => unclosed (start.subset member)]
    exact Nat.zero_le _
  · rw [List.count_eq_zero_of_not_mem unopened, List.count_eq_zero_of_not_mem unclosed]

theorem Paired.wrap {t : Text} (inner : Paired opening closing t) (differ : opening ≠ closing) :
    Paired opening closing (opening :: t ++ [closing]) := by
  refine ⟨fun left start => ?_, by simp [inner.equal, differ, Ne.symm differ]⟩
  rw [List.cons_append] at start
  rcases List.prefix_cons_iff.mp start with rfl | ⟨rest, rfl, shorter⟩
  · exact Nat.le_refl 0
  rcases List.prefix_concat_iff.mp shorter with rfl | inside
  · simp [inner.equal, differ, Ne.symm differ]
  · have := inner.bound rest inside
    simp only [List.count_cons_self, List.count_cons_of_ne differ]
    omega

/-- Only the marks themselves count. -/
theorem Paired.of_filter {s t : Text}
    (same : s.filter (fun c => c == opening || c == closing) =
      t.filter (fun c => c == opening || c == closing))
    (paired : Paired opening closing s) : Paired opening closing t := by
  have count : ∀ c, c = opening ∨ c = closing → ∀ t : Text,
      (t.filter (fun c => c == opening || c == closing)).count c = t.count c :=
    fun c mark t => List.count_filter (by simpa using mark)
  refine ⟨fun left start => ?_, ?_⟩
  · -- A prefix of `t` has the marks of some prefix of `s`.
    have marks := start.filter fun c => c == opening || c == closing
    rw [← same] at marks
    obtain ⟨other, within, equal⟩ := List.prefix_filter_iff.mp marks
    rw [← count opening (.inl rfl) left, ← count closing (.inr rfl) left, equal,
      count opening (.inl rfl), count closing (.inr rfl)]
    exact paired.bound other within
  · rw [← count opening (.inl rfl) t, ← count closing (.inr rfl) t, ← same,
      count opening (.inl rfl), count closing (.inr rfl)]
    exact paired.equal

end

theorem anglesBalanced_iff {t : Text} : anglesBalanced t = true ↔ AnglesBalanced t := by
  rw [anglesBalanced, anglesPair_iff]
  exact ⟨fun ⟨bound, equal⟩ => ⟨bound, equal⟩, fun paired => ⟨paired.bound, paired.equal⟩⟩

instance (t : Text) : Decidable (AnglesBalanced t) := decidable_of_iff _ anglesBalanced_iff

end Forwarding.Spelling

/-! ### Nested brackets -/

namespace Forwarding.Spelling

open Text

def isBracket (c : Char) : Bool := isOpener c || c == ')' || c == ']' || c == '\x7d'

/-- Every bracket is closed by its own kind, and what stands between the two is nested too. -/
inductive Nested : Text → Prop where
  | nil : Nested []
  | plain {c : Char} {t : Text} : isBracket c = false → Nested t → Nested (c :: t)
  | group {opening closing : Char} {inner rest : Text} : closes opening closing = true →
      Nested inner → Nested rest → Nested (opening :: inner ++ closing :: rest)

theorem closes_iff {opening closing : Char} : closes opening closing = true ↔
    (opening = '(' ∧ closing = ')') ∨ (opening = '[' ∧ closing = ']') ∨
      (opening = '\x7b' ∧ closing = '\x7d') := by
  simp [closes, or_assoc]

theorem nest_plain {c : Char} (plain : isBracket c = false) (brackets : List Char) :
    nest brackets c = brackets := by
  simp only [isBracket, Bool.or_eq_false_iff, beq_eq_false_iff_ne] at plain
  cases brackets <;> simp [nest, closes, plain]

theorem isBracket_of_isBlank {c : Char} (blank : isBlank c = true) : isBracket c = false := by
  have apart := fun d solid => ne_of_isBlank (d := d) blank solid
  simp [isBracket, isOpener, apart '(' rfl, apart ')' rfl, apart '[' rfl, apart ']' rfl,
    apart '\x7b' rfl, apart '\x7d' rfl]

theorem nest_opening {opening closing : Char} (pair : closes opening closing = true)
    (brackets : List Char) : nest brackets opening = opening :: brackets := by
  rcases closes_iff.mp pair with ⟨rfl, -⟩ | ⟨rfl, -⟩ | ⟨rfl, -⟩ <;> rfl

theorem nest_closing {opening closing : Char} (pair : closes opening closing = true)
    (brackets : List Char) : nest (opening :: brackets) closing = brackets := by
  rcases closes_iff.mp pair with ⟨rfl, rfl⟩ | ⟨rfl, rfl⟩ | ⟨rfl, rfl⟩ <;> rfl

namespace Nested

variable {t : Text}

theorem of_plain (plain : ∀ c ∈ t, isBracket c = false) : Nested t := by
  induction t with
  | nil => exact .nil
  | cons c t ih =>
    rw [List.forall_mem_cons] at plain
    exact .plain plain.1 (ih plain.2)

/-- A nested text leaves no bracket open and closes none from outside. -/
theorem foldl_nest (nested : Nested t) (brackets : List Char) : t.foldl nest brackets = brackets := by
  induction nested generalizing brackets with
  | nil => rfl
  | plain solid _ ih => rw [List.foldl_cons, nest_plain solid, ih]
  | group pair _ _ inner rest =>
    rw [List.cons_append, List.foldl_cons, List.foldl_append, nest_opening pair, inner, List.foldl_cons,
      nest_closing pair, rest]

theorem openAfter (nested : Nested t) : openAfter t = [] := nested.foldl_nest []

theorem paired (nested : Nested t) : Paired '(' ')' t := by
  induction nested with
  | nil => exact .nil
  | @plain c t solid _ ih =>
    have mark : Paired '(' ')' [c] := by
      refine .plain ?_ ?_ <;> rw [List.mem_singleton] <;> rintro rfl <;> revert solid <;> decide
    exact mark.append ih
  | @group opening closing inner rest pair _ _ ihInner ihRest =>
    have split : opening :: inner ++ closing :: rest = [opening] ++ inner ++ [closing] ++ rest := by simp
    rw [split]
    refine Paired.append ?_ ihRest
    rcases closes_iff.mp pair with ⟨rfl, rfl⟩ | ⟨rfl, rfl⟩ | ⟨rfl, rfl⟩
    · exact ihInner.wrap (by decide)
    all_goals
      refine Paired.append (Paired.append (Paired.plain ?_ ?_) ihInner) (Paired.plain ?_ ?_) <;> decide

theorem paired_join {pieces : List Text} (nested : ∀ piece ∈ pieces, Nested piece) :
    Paired '(' ')' (join ", " pieces) := by
  have all : Paired '(' ')' pieces.flatten := by
    induction pieces with
    | nil => exact .nil
    | cons piece pieces ih =>
      rw [List.forall_mem_cons] at nested
      exact nested.1.paired.append (ih nested.2)
  exact .of_filter (filter_join (by decide)).symm all

end Nested

/-! ### Checking a text for nesting -/

/-- Whether a text closes some open brackets, the innermost first, and is nested otherwise. -/
def closesAll : List Char → Text → Bool
  | brackets, [] => brackets.isEmpty
  | brackets, c :: t =>
    if isOpener c then closesAll (c :: brackets) t
    else if isBracket c then
      match brackets with
      | [] => false
      | opener :: outer => closes opener c && closesAll outer t
    else closesAll brackets t

def Closing : List Char → Text → Prop
  | [], t => Nested t
  | opener :: outer, t => ∃ inner closing rest,
      t = inner ++ closing :: rest ∧ closes opener closing = true ∧ Nested inner ∧ Closing outer rest

namespace Closing

variable {brackets : List Char} {t : Text}

theorem plain {c : Char} (solid : isBracket c = false) (closed : Closing brackets t) :
    Closing brackets (c :: t) := by
  cases brackets with
  | nil => exact .plain solid closed
  | cons opener outer =>
    obtain ⟨inner, closing, rest, rfl, pair, nested, closed⟩ := closed
    exact ⟨c :: inner, closing, rest, rfl, pair, .plain solid nested, closed⟩

/-- A bracket that is opened first is closed first, so that the group goes to what is cut off there. -/
theorem opened {c : Char} (closed : Closing (c :: brackets) t) : Closing brackets (c :: t) := by
  obtain ⟨inner, closing, rest, rfl, pair, nested, closed⟩ := closed
  cases brackets with
  | nil => exact .group pair nested closed
  | cons opener outer =>
    obtain ⟨inner', closing', rest, rfl, pair', nested', closed⟩ := closed
    exact ⟨c :: inner ++ closing :: inner', closing', rest, by simp, pair', .group pair nested nested', closed⟩

end Closing

theorem closing_of_closesAll {brackets : List Char} {t : Text} (checked : closesAll brackets t = true) :
    Closing brackets t := by
  induction t generalizing brackets with
  | nil =>
    rw [closesAll, List.isEmpty_iff] at checked
    subst checked
    exact .nil
  | cons c t ih =>
    simp only [closesAll] at checked
    split at checked
    · exact (ih checked).opened
    split at checked
    · cases brackets with
      | nil => cases checked
      | cons opener outer =>
        rw [Bool.and_eq_true] at checked
        exact ⟨[], c, t, rfl, checked.1, .nil, ih checked.2⟩
    · next solid => exact (ih checked).plain (eq_false_of_ne_true solid)

theorem Nested.closesAll_append {t : Text} (nested : Nested t) (brackets : List Char) (rest : Text) :
    closesAll brackets (t ++ rest) = closesAll brackets rest := by
  induction nested generalizing brackets rest with
  | nil => rfl
  | @plain c t solid _ ih =>
    have opener : isOpener c = false := by
      rw [isBracket, Bool.or_assoc, Bool.or_assoc, Bool.or_eq_false_iff] at solid
      exact solid.1
    simp [closesAll, solid, opener, ih]
  | @group opening closing inner after pair _ _ ihInner ihRest =>
    have marks : isOpener opening = true ∧ isOpener closing = false ∧ isBracket closing = true := by
      rcases closes_iff.mp pair with ⟨rfl, rfl⟩ | ⟨rfl, rfl⟩ | ⟨rfl, rfl⟩ <;> decide
    simp [closesAll, marks, pair, ihInner, ihRest]

theorem closesAll_iff {t : Text} : closesAll [] t = true ↔ Nested t := by
  refine ⟨closing_of_closesAll, fun nested => ?_⟩
  have all := nested.closesAll_append [] []
  rw [List.append_nil] at all
  rw [all]
  rfl

instance (t : Text) : Decidable (Nested t) := decidable_of_iff (closesAll [] t = true) closesAll_iff

end Forwarding.Spelling
