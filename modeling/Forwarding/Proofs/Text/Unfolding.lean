import Forwarding.Proofs.Text.Replacement
import Forwarding.Text.Alphanumeric
import Mathlib.Data.List.SplitBy

/-! Words that stand for texts, and texts in which some of them have been written out.

A text is cut into its words and its other characters, so that a word is there or is not there, however
the characters around it could be read. Words that are written out again and again, in any order, can be
written out in the order of their list, last one first: that is the order in which replacement undoes it.
-/

set_option autoImplicit false

namespace Forwarding.Text

variable {s t : Text}

/-- The words of a text and the characters between them. -/
def tokens (t : Text) : List Text := t.splitBy fun a b => isWordChar a && isWordChar b

theorem flatten_tokens (t : Text) : (tokens t).flatten = t := List.flatten_splitBy _ t

/-- A text may be cut wherever no word goes on. -/
theorem tokens_append (apart : (∀ c ∈ s.getLast?, isWordChar c = false) ∨
    ∀ c ∈ t.head?, isWordChar c = false) : tokens (s ++ t) = tokens s ++ tokens t := by
  refine List.splitBy_append fun c last d first => ?_
  rw [Bool.and_eq_false_iff]
  exact apart.imp (fun ends => ends c last) fun starts => starts d first

theorem tokens_of_word (given : s ≠ []) (word : ∀ c ∈ s, isWordChar c = true) : tokens s = [s] := by
  refine List.splitBy_of_isChain given (List.Pairwise.isChain (List.pairwise_of_forall_mem_list ?_))
  intro c first d second
  rw [word c first, word d second]
  rfl

theorem tokens_cons {c : Char} (other : isWordChar c = false) (t : Text) :
    tokens (c :: t) = [c] :: tokens t :=
  tokens_append (s := [c]) (.inl fun d last => by cases last; exact other)

theorem exists_head?_tokens (first : ∃ c ∈ t.head?, c ≠ ' ') : ∃ word ∈ (tokens t).head?, word ≠ [' '] := by
  obtain ⟨c, starts, other⟩ := first
  have whole := flatten_tokens t
  cases words : tokens t with
  | nil =>
    rw [words] at whole
    rw [← whole] at starts
    cases starts
  | cons word rest =>
    refine ⟨word, rfl, fun space => other ?_⟩
    rw [words, space] at whole
    rw [← whole] at starts
    exact (Option.some.inj starts).symm

/-! ### Unfolding -/

/-- Words written out as the texts they stand for, in which words may have been written out in turn. Each
text stands before its name. -/
inductive Unfolded (names : List (Text × Text)) : List Text → List Text → Prop where
  | nil : Unfolded names [] []
  | keep (word : Text) {s t : List Text} : Unfolded names s t → Unfolded names (word :: s) (word :: t)
  | use {type name : Text} {body s t : List Text} : (type, name) ∈ names →
      Unfolded names (tokens type) body → Unfolded names s t → Unfolded names (name :: s) (body ++ t)

namespace Unfolded

variable {names : List (Text × Text)} {type name : Text} {s t : List Text}

theorem refl (s : List Text) : Unfolded names s s := by
  induction s with
  | nil => exact .nil
  | cons word s ih => exact .keep word ih

/-- One more word may be written out, wherever it has come from. -/
theorem write {front back : List Text} (unfolded : Unfolded names s (front ++ name :: back))
    (known : (type, name) ∈ names) : Unfolded names s (front ++ (tokens type ++ back)) := by
  generalize whole : front ++ name :: back = t at unfolded
  -- On how the words came to be: the word has been kept, or it is in one of the two parts.
  induction unfolded generalizing front back with
  | nil => simp at whole
  | @keep word s t rest ih =>
    cases front with
    | nil =>
      obtain ⟨rfl, rfl⟩ := List.cons.inj whole
      have written := Unfolded.use known (refl (tokens type)) rest
      exact written
    | cons first front =>
      rw [List.cons_append] at whole
      obtain ⟨rfl, behind⟩ := List.cons.inj whole
      exact .keep _ (ih behind)
  | @use outer _ body s t member inner rest ihInner ihRest =>
    rcases List.append_eq_append_iff.mp whole with ⟨more, rfl, parts⟩ | ⟨more, rfl, parts⟩
    · cases more with
      | nil =>
        rw [List.append_nil] at inner
        have behind := ihRest (show [] ++ name :: back = t from parts)
        exact .use member inner behind
      | cons first more =>
        obtain ⟨rfl, rfl⟩ := List.cons.inj parts
        have both := Unfolded.use member (ihInner rfl) rest
        rw [List.append_assoc, List.append_assoc] at both
        exact both
    · rw [List.append_assoc]
      exact .use member inner (ihRest parts.symm)

theorem eq_of_absent (unfolded : Unfolded names s t) (absent : ∀ entry ∈ names, entry.2 ∉ s) : t = s := by
  induction unfolded with
  | nil => rfl
  | keep word _ ih => rw [ih fun entry member inside => absent entry member (List.mem_cons_of_mem word inside)]
  | use member => exact absurd List.mem_cons_self (absent _ member)

/-- What is left when one word is written out last, if its text holds none of the words. -/
theorem last (unfolded : Unfolded ((type, name) :: names) s t)
    (absent : ∀ entry ∈ (type, name) :: names, entry.2 ∉ tokens type) :
    ∃ middle, Unfolded names s middle ∧ Rewritten name type middle.flatten t.flatten := by
  -- In the middle the last word stands wherever its text does in the end, inside other texts too.
  induction unfolded with
  | nil => exact ⟨[], .nil, .nil⟩
  | keep word _ ih =>
    obtain ⟨middle, rest, written⟩ := ih
    exact ⟨word :: middle, .keep word rest, (Rewritten.refl word).append written⟩
  | @use _ _ body s t member inner _ ihInner ihRest =>
    obtain ⟨middle, rest, written⟩ := ihRest
    rw [List.flatten_append]
    rcases List.mem_cons.mp member with own | earlier
    · obtain ⟨rfl, rfl⟩ := Prod.mk.inj own
      rw [inner.eq_of_absent absent, flatten_tokens]
      exact ⟨_ :: middle, .keep _ rest, .use written⟩
    · obtain ⟨front, unfolded, before⟩ := ihInner
      refine ⟨front ++ middle, .use earlier unfolded rest, ?_⟩
      rw [List.flatten_append]
      exact before.append written

/-- Where no text holds its own word or one behind it, the words may be written out one after the other. -/
theorem rewrittenAll (unfolded : Unfolded names s t)
    (own : ∀ entry ∈ names, entry.2 ∉ tokens entry.1)
    (later : names.Pairwise fun first second => second.2 ∉ tokens first.1) :
    RewrittenAll names s.flatten t.flatten := by
  induction names generalizing t with
  | nil => exact congrArg List.flatten (unfolded.eq_of_absent (by simp)).symm
  | cons entry names ih =>
    rw [List.pairwise_cons] at later
    rw [List.forall_mem_cons] at own
    obtain ⟨middle, rest, written⟩ := unfolded.last (List.forall_mem_cons.mpr ⟨own.1, later.1⟩)
    exact ⟨middle.flatten, ih rest own.2 later.2, written⟩

end Unfolded

/-! ### Spaces behind words -/

/-- No space stands behind any of the words. -/
def Attached (names : List (Text × Text)) (s : List Text) : Prop :=
  s.IsChain fun word next => next = [' '] → ∀ entry ∈ names, entry.2 ≠ word

instance (names : List (Text × Text)) (s : List Text) : Decidable (Attached names s) :=
  inferInstanceAs (Decidable (s.IsChain _))

namespace Unfolded

variable {names : List (Text × Text)} {s t : List Text}
  (solid : ∀ entry ∈ names, ∃ first ∈ (tokens entry.1).head?, first ≠ [' '])
include solid

/-- No space comes to stand at the start. -/
theorem head?_eq_space (unfolded : Unfolded names s t) :
    (t = [] → s = []) ∧ (t.head? = some [' '] → s.head? = some [' ']) := by
  induction unfolded with
  | nil => exact ⟨id, id⟩
  | keep word => exact ⟨nofun, id⟩
  | @use _ _ body _ t member _ _ ihInner =>
    obtain ⟨first, starts, other⟩ := solid _ member
    cases body with
    | nil =>
      rw [ihInner.1 rfl] at starts
      cases starts
    | cons word body =>
      refine ⟨nofun, fun space => absurd ?_ other⟩
      have inside := ihInner.2 space
      rw [starts] at inside
      exact Option.some.inj inside

theorem attached (texts : ∀ entry ∈ names, Attached names (tokens entry.1))
    (unfolded : Unfolded names s t) (attached : Attached names s) : Attached names t := by
  induction unfolded with
  | nil => exact attached
  | keep word rest ih =>
    rw [Attached, List.isChain_cons] at attached ⊢
    refine ⟨fun next first space => ?_, ih attached.2⟩
    subst space
    exact attached.1 _ ((rest.head?_eq_space solid).2 first) rfl
  | use member _ rest ihInner ihRest =>
    rw [Attached, List.isChain_cons] at attached
    refine List.isChain_append.mpr ⟨ihInner (texts _ member), ihRest attached.2, ?_⟩
    intro word _ next first space
    subst space
    -- A space behind the text would be one behind its word.
    exact absurd rfl (attached.1 _ ((rest.head?_eq_space solid).2 first) rfl _ member)

end Unfolded

end Forwarding.Text
