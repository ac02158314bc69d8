import Forwarding.Proofs.Spelling.Spacing
import Mathlib.Data.List.Chain

/-! The lexemes of a spelling, which its normal form keeps and is determined by.

The normal form is written in one pass over the characters, so what it does to the lexemes is followed from the three
places that a rest of a spelling can stand in: behind punctuation or nothing, behind a word, and behind a
word and blanks.
-/

set_option autoImplicit false

namespace Forwarding.Spelling

open Text

/-- The lexemes of a spelling: its punctuation, character by character, and the longest runs of what is neither
blank nor punctuation, so that such a character before another one is in one lexeme with it. -/
def lexemes : Text → List Text
  | [] => []
  | c :: t =>
    if isBlank c then lexemes t
    else if !isPunctuation c && startsSolid t then (lexemes t).modifyHead (c :: ·)
    else [c] :: lexemes t

variable {c : Char} {s t a b : Text}

theorem lexemes_blank (blank : isBlank c = true) : lexemes (c :: t) = lexemes t := by
  rw [lexemes, if_pos blank]

theorem lexemes_punctuation (mark : isPunctuation c = true) : lexemes (c :: t) = [c] :: lexemes t := by
  simp [lexemes, isBlank_of_isPunctuation mark, mark]

theorem lexemes_solid (solid : isBlank c = false) (other : isPunctuation c = false) :
    lexemes (c :: t) = if startsSolid t then (lexemes t).modifyHead (c :: ·) else [c] :: lexemes t := by
  simp [lexemes, solid, other]

theorem startsSolid_cons (solid : isBlank c = false) (other : isPunctuation c = false) :
    startsSolid (c :: t) = true := by
  simp [startsSolid, solid, other]

theorem lexemes_word (given : s ≠ []) (word : ∀ c ∈ s, isBlank c = false ∧ isPunctuation c = false)
    (ends : startsSolid t = false) : lexemes (s ++ t) = s :: lexemes t := by
  induction s with
  | nil => exact absurd rfl given
  | cons c s ih =>
    rw [List.forall_mem_cons] at word
    rw [List.cons_append, lexemes_solid word.1.1 word.1.2]
    cases s with
    | nil => rw [List.nil_append, ends, if_neg Bool.false_ne_true]
    | cons d s =>
      have next := word.2 d List.mem_cons_self
      rw [ih (List.cons_ne_nil d s) word.2, List.cons_append, startsSolid_cons next.1 next.2, if_pos rfl]
      rfl

example : lexemes "Pair< int,\tunsigned int >&".toList =
    ["Pair".toList, ['<'], "int".toList, [','], "unsigned".toList, "int".toList, ['>'], ['&']] := by decide

theorem exists_lexemes_of_startsSolid (starts : startsSolid t = true) :
    ∃ lexeme rest, lexemes t = lexeme :: rest ∧ startsSolid lexeme = true := by
  induction t with
  | nil => cases starts
  | cons c t ih =>
    obtain ⟨solid, other⟩ : isBlank c = false ∧ isPunctuation c = false := by
      simpa [startsSolid] using starts
    rw [lexemes_solid solid other]
    split
    · next more =>
      obtain ⟨lexeme, rest, found, -⟩ := ih more
      exact ⟨c :: lexeme, rest, by rw [found]; rfl, startsSolid_cons solid other⟩
    · exact ⟨[c], lexemes t, rfl, startsSolid_cons solid other⟩

/-! ### The normal form has the same lexemes -/

theorem lexemes_spaced (place : Place) (t : Text) : lexemes (spaced place t) = lexemes t := by
  induction t generalizing place with
  | nil => rfl
  | cons c t ih =>
    cases kind : isBlank c with
    | true => rw [spaced_blank kind, lexemes_blank kind, ih]
    | false =>
      cases mark : isPunctuation c with
      | true => rw [spaced_punctuation kind mark, lexemes_punctuation mark, lexemes_punctuation mark, ih]
      | false =>
        have space : lexemes (place.space ++ c :: spaced .word t) = lexemes (c :: spaced .word t) := by
          rw [Place.space]
          split
          · exact lexemes_blank (by decide)
          · rfl
        rw [spaced_word kind mark, space, lexemes_solid kind mark, lexemes_solid kind mark, ih,
          startsSolid_spaced_word]

theorem lexemes_normal (t : Text) : lexemes (normal t) = lexemes t := by
  rw [normal_eq_spaced, lexemes_spaced]

/-! ### The lexemes determine the normal form -/

/-- The space that a word before some lexemes needs. -/
def apart (lexemes : List Text) : Text := if lexemes.head?.any startsSolid then [' '] else []

/-- Lexemes with a space between each two words that follow one another. -/
def written : List Text → Text
  | [] => []
  | lexeme :: rest => lexeme ++ (if startsSolid lexeme then apart rest else []) ++ written rest

/-- A character of a word is written before the rest of it, or before the space that the next one needs. -/
theorem written_lexemes_solid (solid : isBlank c = false) (other : isPunctuation c = false) :
    written (lexemes (c :: t)) = c :: ((if startsSolid t then [] else apart (lexemes t)) ++ written (lexemes t)) := by
  rw [lexemes_solid solid other]
  cases starts : startsSolid t with
  | true =>
    obtain ⟨lexeme, rest, found, first⟩ := exists_lexemes_of_startsSolid starts
    simp [found, written, first, startsSolid_cons solid other]
  | false => simp [written, startsSolid_cons solid other]

/-- What is written behind punctuation, behind a word and blanks, and directly behind a word. -/
theorem spaced_eq_written (t : Text) :
    spaced .mark t = written (lexemes t) ∧ spaced .gap t = apart (lexemes t) ++ written (lexemes t) ∧
      spaced .word t = (if startsSolid t then [] else apart (lexemes t)) ++ written (lexemes t) := by
  -- All three at once, because every character leaves the rest in the place that it makes.
  induction t with
  | nil => exact ⟨rfl, rfl, rfl⟩
  | cons c t ih =>
    obtain ⟨mark, gap, word⟩ := ih
    cases kind : isBlank c with
    | true =>
      have ends : startsSolid (c :: t) = false := by simp [startsSolid, kind]
      rw [spaced_blank kind, spaced_blank kind, spaced_blank kind, lexemes_blank kind, ends]
      exact ⟨mark, gap, gap⟩
    | false =>
      cases punctuation : isPunctuation c with
      | true =>
        have lexeme : startsSolid [c] = false := by simp [startsSolid, punctuation]
        have alone : written (lexemes (c :: t)) = c :: written (lexemes t) := by
          rw [lexemes_punctuation punctuation, written, lexeme]
          rfl
        have close : apart (lexemes (c :: t)) = [] := by
          rw [lexemes_punctuation punctuation, apart, List.head?_cons, Option.any_some, lexeme]
          rfl
        simp [spaced_punctuation kind punctuation, mark, alone, close]
      | false =>
        have starts := startsSolid_cons (t := t) kind punctuation
        obtain ⟨lexeme, rest, found, first⟩ := exists_lexemes_of_startsSolid starts
        have space : apart (lexemes (c :: t)) = [' '] := by simp [apart, found, first]
        simp [spaced_word kind punctuation, written_lexemes_solid kind punctuation, word, space, starts, Place.space]

theorem normal_eq_written (t : Text) : normal t = written (lexemes t) := by
  rw [normal_eq_spaced, (spaced_eq_written t).1]

theorem normal_eq_normal_iff : normal a = normal b ↔ lexemes a = lexemes b := by
  constructor
  · intro same
    rw [← lexemes_normal a, same, lexemes_normal]
  · intro same
    rw [normal_eq_written, same, ← normal_eq_written]

/-! ### No blank stands beside punctuation -/

/-- Neither of two characters is a blank beside the other one, which is punctuation. -/
def Close (c d : Char) : Prop :=
  (isPunctuation c = true → isBlank d = false) ∧ (isPunctuation d = true → isBlank c = false)

/-- Behind punctuation no blank comes first. -/
theorem isBlank_head?_spaced_mark (t : Text) : ∀ d ∈ (spaced .mark t).head?, isBlank d = false := by
  induction t with
  | nil => exact nofun
  | cons c t ih =>
    cases kind : isBlank c with
    | true => rwa [spaced_blank kind]
    | false =>
      cases mark : isPunctuation c with
      | true =>
        rw [spaced_punctuation kind mark]
        simpa using kind
      | false =>
        rw [spaced_word kind mark]
        simpa [Place.space] using kind

theorem isChain_spaced (place : Place) (t : Text) : (spaced place t).IsChain Close := by
  induction t generalizing place with
  | nil => exact .nil
  | cons c t ih =>
    cases kind : isBlank c with
    | true =>
      rw [spaced_blank kind]
      exact ih _
    | false =>
      cases mark : isPunctuation c with
      | true =>
        rw [spaced_punctuation kind mark]
        exact (ih .mark).cons fun d first => ⟨fun _ => isBlank_head?_spaced_mark t d first, fun _ => kind⟩
      | false =>
        -- Whatever a character of a word stands beside, it is neither blank nor punctuation.
        have word : (c :: spaced .word t).IsChain Close :=
          (ih .word).cons fun d _ => ⟨fun punctuation => by simp [mark] at punctuation, fun _ => kind⟩
        rw [spaced_word kind mark, Place.space]
        split
        · refine word.cons fun d first => ?_
          obtain rfl : c = d := by simpa using first
          exact ⟨fun _ => kind, fun punctuation => by simp [mark] at punctuation⟩
        · exact word

/-- The normal form is canonical: spellings have the same one exactly when they have the same lexemes, it is its own
normal form, and no blank stands beside punctuation in it. -/
theorem normal_canonical (a b : Text) : (normal a = normal b ↔ lexemes a = lexemes b) ∧
    normal (normal a) = normal a ∧ (normal a).IsChain Close := by
  refine ⟨normal_eq_normal_iff, normal_eq_normal_iff.mpr (lexemes_normal a), ?_⟩
  rw [normal_eq_spaced]
  exact isChain_spaced .mark a

end Forwarding.Spelling
