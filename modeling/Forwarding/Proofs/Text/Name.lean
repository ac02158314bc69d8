import Forwarding.Proofs.Text.Lines
import Forwarding.Proofs.Text.Words

/-! Names: the characters that identifiers are made of, and what they are not. -/

set_option autoImplicit false

namespace Forwarding.Text

section
variable {c : Char}

theorem isWordChar_of_isIdentifierRest (rest : isIdentifierRest c = true) : isWordChar c = true := by
  simp only [isIdentifierRest, Bool.or_eq_true, beq_iff_eq] at rest
  rcases rest with alphanumeric | rfl
  · simp [isWordChar, isAlphanumeric_of_isAlphanum alphanumeric]
  · decide

theorem isIdentifierRest_of_isIdentifierStart (start : isIdentifierStart c = true) :
    isIdentifierRest c = true := by
  simp only [isIdentifierStart, isIdentifierRest, Char.isAlphanum, Bool.or_eq_true] at start ⊢
  exact start.imp .inl id

theorem isDigit_of_isAlpha (letter : c.isAlpha = true) : c.isDigit = false := by
  -- Both ranges of letters lie behind the digits.
  have beyond : '9'.val < c.val := by
    rcases (Bool.or_eq_true _ _).mp letter with upper | lower
    · exact UInt32.lt_of_lt_of_le (by decide) (of_decide_eq_true upper).1
    · exact UInt32.lt_of_lt_of_le (by decide) (of_decide_eq_true (Bool.and_eq_true_iff.mp lower).1)
  exact Bool.and_eq_false_iff.mpr (.inr (decide_eq_false (UInt32.not_le.mpr beyond)))

/-- What goes on an identifier begins one unless it is a digit. -/
theorem isIdentifierStart_iff (rest : isIdentifierRest c = true) : isIdentifierStart c = true ↔ c.isDigit = false := by
  cases letter : c.isAlpha with
  | true => simp [isIdentifierStart, letter, isDigit_of_isAlpha letter]
  | false =>
    rw [isIdentifierRest, Char.isAlphanum, letter, Bool.false_or] at rest
    rw [isIdentifierStart, letter, Bool.false_or]
    cases underscore : c == '_' with
    | true => simp [eq_of_beq underscore]
    | false =>
      rw [underscore, Bool.or_false] at rest
      simp [rest]

theorem isIdentifierRest_of_isAlphanum (alphanum : c.isAlphanum = true) : isIdentifierRest c = true := by
  rw [isIdentifierRest, alphanum, Bool.true_or]

theorem isIdentifierRest_of_mem_decimal {n : Nat} (member : c ∈ decimal n) : isIdentifierRest c = true := by
  have digit := Nat.isDigit_of_mem_toDigits (by decide) (by decide) member
  exact isIdentifierRest_of_isAlphanum (by rw [Char.isAlphanum, digit, Bool.or_true])

theorem isBlank_of_isIdentifierRest (rest : isIdentifierRest c = true) : isBlank c = false := by
  cases kind : isBlank c with
  | false => rfl
  | true =>
    have word := isWordChar_of_isIdentifierRest rest
    rw [isWordChar_of_isBlank kind] at word
    cases word

end

theorem decimal_injective {m n : Nat} (same : decimal m = decimal n) : m = n := by
  have digits := congrArg (fun t => Nat.ofDigitChars 10 t 0) same
  simpa [decimal] using digits

variable {s t : Text}

/-- No line feed stands behind a word. -/
theorem dropNewline_of_word (word : ∀ c ∈ t, isWordChar c = true) : dropNewline t = t := by
  rw [dropNewline, if_neg]
  intro last
  have feed := word '\n' (List.mem_of_getLast? (eq_of_beq last))
  revert feed
  decide

/-- Anything but the empty text that consists of characters of identifiers. -/
structure Name (t : Text) : Prop where
  given : t ≠ []
  rest : ∀ c ∈ t, isIdentifierRest c = true

theorem name_of_isIdentifierCore (core : isIdentifierCore t = true) : Name t := by
  cases t with
  | nil => cases core
  | cons c t =>
    simp only [isIdentifierCore, Bool.and_eq_true, List.all_eq_true] at core
    refine ⟨List.cons_ne_nil c t, List.forall_mem_cons.mpr ⟨?_, core.2⟩⟩
    exact isIdentifierRest_of_isIdentifierStart core.1

theorem isIdentifierCore_append (core : isIdentifierCore s = true)
    (rest : ∀ c ∈ t, isIdentifierRest c = true) : isIdentifierCore (s ++ t) = true := by
  cases s with
  | nil => cases core
  | cons c s =>
    simp only [List.cons_append, isIdentifierCore, Bool.and_eq_true, List.all_append,
      List.all_eq_true] at core ⊢
    exact ⟨core.1, core.2, rest⟩

namespace Name

variable (name : Name t)
include name

theorem solid : ∀ c ∈ t, isBlank c = false := fun c member => isBlank_of_isIdentifierRest (name.rest c member)

theorem isIdentifier_eq : isIdentifier t = isIdentifierCore t := by
  rw [isIdentifier, dropNewline_of_word fun c member => isWordChar_of_isIdentifierRest (name.rest c member)]

theorem isIdentifier_iff : isIdentifier t = true ↔ ∀ c, t.head? = some c → c.isDigit = false := by
  rw [name.isIdentifier_eq]
  cases t with
  | nil => exact absurd rfl name.given
  | cons c t =>
    have rest := name.rest
    rw [List.forall_mem_cons] at rest
    rw [isIdentifierCore, List.all_eq_true.mpr rest.2, Bool.and_true, isIdentifierStart_iff rest.1]
    simp

end Name

theorem isIdentifier_of_isIdentifierCore (core : isIdentifierCore t = true) : isIdentifier t = true := by
  rw [(name_of_isIdentifierCore core).isIdentifier_eq, core]

theorem unbroken_of_squeezed (squeezed : squeeze t = t) : Unbroken t := fun c member => by
  cases kind : isLineBreak c with
  | false => rfl
  | true =>
    have space := (squeeze_eq_self_iff.mp squeezed).2.1 c member (isBlank_of_isLineBreak kind)
    rw [space] at kind
    revert kind
    decide

theorem find?_name {α : Type} {named : α → Text} {items : List α} (distinct : (items.map named).Nodup) {a : α}
    (member : a ∈ items) : items.find? (fun b => named b == named a) = some a := by
  induction items with
  | nil => cases member
  | cons b items ih =>
    rw [List.map_cons, List.nodup_cons] at distinct
    rw [List.mem_cons] at member
    rcases member with rfl | later
    · simp
    · have differ : (named b == named a) = false := by
        simpa using fun same : named b = named a => distinct.1 (same ▸ List.mem_map_of_mem later)
      rw [List.find?_cons, differ, ih distinct.2 later]

theorem nodup_eraseDups {α : Type} [BEq α] [LawfulBEq α] (items : List α) : items.eraseDups.Nodup := by
  match items with
  | [] => simp
  | item :: rest =>
    rw [List.eraseDups_cons, List.nodup_cons]
    refine ⟨?_, nodup_eraseDups _⟩
    rw [List.mem_eraseDups, List.mem_filter]
    simp
termination_by items.length
decreasing_by exact Nat.lt_succ_of_le (List.length_filter_le _ _)

end Forwarding.Text
