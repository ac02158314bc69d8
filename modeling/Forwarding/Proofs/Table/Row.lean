import Forwarding.Proofs.Spelling.Arguments
import Forwarding.Proofs.Text.Occurs
import Forwarding.Table.Reader

/-! Rows on one line, and what reading such a line makes of them.

A line of arguments without comments, whose parentheses pair up, is a complete row. What it declares
depends on the pieces between the commas only.
-/

set_option autoImplicit false

namespace Forwarding

open Text Spelling

namespace Text

private theorem enclosed_cons (next : Nat) {depth : Nat} {c : Char} {t inside rest : Text}
    (step : enclosed depth (c :: t) = (enclosed next t).map fun (inside, rest) => (c :: inside, rest)) :
    enclosed depth (c :: t) = some (inside, rest) ↔
      ∃ more, inside = c :: more ∧ enclosed next t = some (more, rest) := by
  rw [step, Option.map_eq_some_iff]
  constructor
  · rintro ⟨⟨more, behind⟩, found, same⟩
    cases same
    exact ⟨more, rfl, found⟩
  · rintro ⟨more, rfl, found⟩
    exact ⟨(more, rest), found, rfl⟩

/-- Any other character than the one that closes stays inside; an opening one goes one deeper. -/
theorem enclosed_of_ne {c : Char} (inner : c ≠ ')') (depth : Nat) (t : Text) : enclosed (depth + 1) (c :: t) =
    (enclosed (depth + [c].count '(' + 1) t).map fun (inside, rest) => (c :: inside, rest) := by
  by_cases opens : c = '('
  · subst opens
    rfl
  · simp [enclosed, inner, opens]

/-- The text inside reaches to the first parenthesis that closes more than has been opened. -/
theorem enclosed_iff {depth : Nat} {t inside rest : Text} :
    enclosed (depth + 1) t = some (inside, rest) ↔ t = inside ++ ')' :: rest ∧
      (∀ left, left <+: inside → left.count ')' ≤ left.count '(' + depth) ∧
        inside.count '(' + depth = inside.count ')' := by
  induction t generalizing depth inside with
  | nil => simp [enclosed]
  | cons c t ih =>
    by_cases shuts : c = ')'
    · subst shuts
      cases depth with
      | zero =>
        have here : enclosed 1 (')' :: t) = some ([], t) := rfl
        rw [here]
        cases inside with
        | nil => simp [eq_comm]
        | cons d inside =>
          simp only [Option.some.injEq, Prod.mk.injEq, List.cons_append, List.cons.injEq]
          refine ⟨fun same => absurd same.1 (by simp), ?_⟩
          rintro ⟨⟨rfl, -⟩, bound, -⟩
          exact absurd (bound [')'] (by simp)) (by decide)
      | succ depth =>
        rw [enclosed_cons (depth + 1) rfl]
        cases inside with
        | nil => simp
        | cons d inside =>
          rw [forall_prefix_cons]
          by_cases same : ')' = d
          · subst same
            simp [ih, Nat.add_right_cancel_iff, ← Nat.add_assoc]
          · simp [same, Ne.symm same]
    · rw [enclosed_cons _ (enclosed_of_ne shuts depth t)]
      cases inside with
      | nil => simp [shuts]
      | cons d inside =>
        rw [forall_prefix_cons]
        by_cases same : c = d
        · subst same
          have opened (left : Text) : (c :: left).count '(' + depth = left.count '(' + (depth + [c].count '(') := by
            rw [List.count_singleton, List.count_cons]
            omega
          have shut (left : Text) : (c :: left).count ')' = left.count ')' := List.count_cons_of_ne shuts
          simp [ih, opened, shut]
        · simp [same, Ne.symm same]

end Text

def RowForm.line (form : RowForm) (args : List Text) : Text :=
  form.word ++ "(" ++ join ", " args ++ ");"

namespace Line

variable {form : RowForm} {args : List Text}

theorem strip_line (form : RowForm) (args : List Text) : strip (form.line args) = form.line args := by
  apply strip_eq_self
  · intro c first
    cases form <;> cases first <;> rfl
  · intro c last
    rw [RowForm.line, List.getLast?_append] at last
    cases last
    rfl

theorem not_infix_line (form : RowForm) (plain : ∀ a ∈ args, ¬ "//".toList <:+: a) :
    ¬ "//".toList <:+: form.line args := by
  have inner : ¬ ['/', '/'] <:+: join ", ".toList args := 
    not_pair_join (not_pair_of_not_mem (by decide)) (by decide) (by decide) plain
  have word : ¬ ['/', '/'] <:+: form.word ++ ['('] := by
    cases form <;> exact not_pair_of_not_mem (by decide)
  have closing : ¬ ['/', '/'] <:+: [')', ';'] := not_pair_of_not_mem (by decide)
  have parts : form.line args = (form.word ++ ['(']) ++ (join ", ".toList args ++ [')', ';']) :=
    List.append_assoc _ _ _
  change ¬ ['/', '/'] <:+: form.line args
  rw [parts]
  -- No argument has two slashes, and where parts of the line meet there is another mark.
  refine not_pair_append word (not_pair_append inner closing (.inr (by decide))) (.inl ?_)
  rw [List.getLast?_concat]
  decide

theorem ofText_line (plain : ¬ "//".toList <:+: form.line args) :
    ofText (form.line args) = .row form (form.line args) := by
  rw [ofText, strip_line]
  simp only [withoutComment_eq_self plain]
  cases form
  · rfl
  · rfl

theorem unbroken_line (form : RowForm) (unbroken : ∀ a ∈ args, Unbroken a) : Unbroken (form.line args) := by
  have word : Unbroken (form.word ++ ['(']) := by
    cases form <;> exact .of_all rfl
  have inner : Unbroken (join ", ".toList args) := .join (.of_all rfl) unbroken
  exact (word.append inner).append (.of_all rfl)

end Line

namespace Declaration

variable {form : RowForm} {args : List Text}

theorem afterParenthesis_line : afterParenthesis (form.line args) = join ", " args ++ ");" := by
  cases form <;> rfl

theorem ofText_line (paired : Paired '(' ')' (join ", " args)) :
    ofText form (form.line args) = ofArguments form (arguments (join ", " args)) := by
  have inside : enclosed 1 (join ", " args ++ ");") = some (join ", " args, [';']) :=
    enclosed_iff.mpr ⟨rfl, paired.bound, paired.equal⟩
  rw [ofText, afterParenthesis_line, inside]
  rfl

def given (types : List Text) : List Text := if types = [[]] then [] else types

theorem make_eq_ok_iff {subject result method tag : Text} {types : List Text} {d : Declaration} :
    ofArguments.make form subject result method tag types = .ok d ↔
      (subject ≠ [] ∧ result ≠ [] ∧ method ≠ [] ∧ [] ∉ given types) ∧
        d = { subject, result, method, tag, parameters := given types } := by
  have same : (if (types == [[]]) = true then [] else types) = given types := by simp [given]
  have empties : (given types).any List.isEmpty = true ↔ [] ∈ given types := by
    simp [List.any_eq_true]
  simp only [ofArguments.make, same, List.isEmpty_iff, empties]
  split
  · next empty => simp [empty]
  split
  · next empty => simp [empty]
  split
  · next empty => simp [empty]
  split
  · next empty => simp [empty]
  · next subject result method types => simp [subject, result, method, types, eq_comm]

/-- Whether a row has exactly these arguments. -/
def Spells (d : Declaration) (form : RowForm) (args : List Text) : Prop :=
  match form with
  | .plain => d.tag = [] ∧ args = d.subject :: d.result :: d.method :: d.parameters
  | .overload => args = d.subject :: d.result :: d.method :: d.tag :: d.parameters

theorem given_of_nonempty {types : List Text} (nonempty : [] ∉ types) : given types = types := by
  rw [given, if_neg]
  rintro rfl
  simp at nonempty

theorem make_of_nonempty {subject result method tag : Text} {types : List Text}
    (names : subject ≠ [] ∧ result ≠ [] ∧ method ≠ []) (nonempty : [] ∉ types) :
    ofArguments.make form subject result method tag types =
      .ok { subject, result, method, tag, parameters := types } := by
  have same := given_of_nonempty nonempty
  refine make_eq_ok_iff.mpr ⟨⟨names.1, names.2.1, names.2.2, ?_⟩, ?_⟩
  · rwa [same]
  · rw [same]

/-- Arguments of which only a tag is empty are taken as they are. -/
theorem ofArguments_of_nonempty (enough : form.leading ≤ args.length)
    (nonempty : ∀ i a, args[i]? = some a → a = [] → form = .overload ∧ i = 3) :
    ∃ d, ofArguments form args = .ok d ∧ d.heading = [] ∧ d.origin = none ∧ d.Spells form args := by
  have solid : ∀ i a, args[i]? = some a → form = .plain ∨ i ≠ 3 → a ≠ [] := by
    rintro i a found other rfl
    obtain ⟨rfl, rfl⟩ := nonempty i [] found rfl
    simp at other
  match form, args, enough with
  | .plain, subject :: result :: method :: types, _ =>
    have names := And.intro (solid 0 _ rfl (.inl rfl)) (And.intro (solid 1 _ rfl (.inl rfl))
      (solid 2 _ rfl (.inl rfl)))
    refine ⟨_, make_of_nonempty names fun member => ?_, rfl, rfl, rfl, rfl⟩
    obtain ⟨i, found⟩ := List.mem_iff_getElem?.mp member
    exact solid (i + 3) [] found (.inl rfl) rfl
  | .overload, subject :: result :: method :: tag :: types, _ =>
    have names := And.intro (solid 0 _ rfl (.inr (by decide))) (And.intro
      (solid 1 _ rfl (.inr (by decide))) (solid 2 _ rfl (.inr (by decide))))
    refine ⟨_, make_of_nonempty names fun member => ?_, rfl, rfl, rfl⟩
    obtain ⟨i, found⟩ := List.mem_iff_getElem?.mp member
    exact solid (i + 4) [] found (.inr (by omega)) rfl

/-- No argument is lost but empty ones. -/
theorem mem_of_ofArguments {d : Declaration} (made : ofArguments form args = .ok d) {a : Text}
    (member : a ∈ args) (nonempty : a ≠ []) :
    a ∈ [d.subject, d.method, d.tag] ∨ a ∈ d.result :: d.parameters := by
  have kept : ∀ {types : List Text}, a ∈ types → a ∈ given types := fun {types} inside => by
    rw [given, if_neg]
    · exact inside
    · rintro rfl
      exact nonempty (by simpa using inside)
  unfold ofArguments at made
  split at made
  · obtain ⟨-, rfl⟩ := make_eq_ok_iff.mp made
    simp only [List.mem_cons] at member ⊢
    rcases member with subject | result | method | types
    · exact .inl (.inl subject)
    · exact .inr (.inl result)
    · exact .inl (.inr (.inl method))
    · exact .inr (.inr (kept types))
  · obtain ⟨-, rfl⟩ := make_eq_ok_iff.mp made
    simp only [List.mem_cons] at member ⊢
    rcases member with subject | result | method | tag | types
    · exact .inl (.inl subject)
    · exact .inr (.inl result)
    · exact .inl (.inr (.inl method))
    · exact .inl (.inr (.inr (.inl tag)))
    · exact .inr (.inr (kept types))
  · cases made

end Declaration

namespace Reader

variable {form : RowForm} {args : List Text} {r : Reader}

theorem isOpen_line (paired : Paired '(' ')' (join ", " args)) : isOpen (form.line args) = false := by
  have word : Paired '(' ')' form.word := by cases form <;> exact .plain (by decide) (by decide)
  have whole : form.line args = form.word ++ ('(' :: join ", " args ++ [')']) ++ [';'] := by
    simp [RowForm.line]
  have line := (word.append (paired.wrap (by decide))).append (.plain (t := [';']) (by decide) (by decide))
  rw [← whole] at line
  simp [isOpen, line.equal]

section
variable (idle : r.pending = none) (plain : ¬ "//".toList <:+: form.line args)
  (paired : Paired '(' ')' (join ", " args)) (number : Nat)
include idle plain paired

theorem step_line : r.step number (form.line args) = r.addRow form (form.line args) number := by
  rw [step, idle]
  simp only [Line.ofText_line plain, isOpen_line paired, Bool.false_eq_true, if_false]

theorem step_line_of_ok {d : Declaration}
    (made : Declaration.ofArguments form (arguments (join ", " args)) = .ok d) :
    r.step number (form.line args) = .ok { r with
      table := r.table.declare { d with heading := r.heading, origin := some (r.place number) }
      pending := none } := by
  rw [step_line idle plain paired, addRow, Declaration.ofText_line paired, made]

theorem step_line_of_error {cause : Cause}
    (made : Declaration.ofArguments form (arguments (join ", " args)) = .error cause) :
    r.step number (form.line args) = .error (r.fault cause number) := by
  rw [step_line idle plain paired, addRow, Declaration.ofText_line paired, made]

end

end Reader

end Forwarding
