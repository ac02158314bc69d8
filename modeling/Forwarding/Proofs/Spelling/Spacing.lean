import Forwarding.Proofs.Text.Words
import Forwarding.Spelling.Form
import Mathlib.Data.List.Induction

/-! The normal form of a spelling in one pass over its characters.

What is written for the rest of a spelling depends only on what stands before it: `spaced` carries that
as a `Place`, so that the normal form of a text in two parts is put together from theirs.
-/

set_option autoImplicit false

namespace Forwarding.Spelling

open Text

/-! ### The normal form piece by piece

Behind a text that ends with no space the normal form starts afresh, but for a space before punctuation.
-/

section
variable {afterMark : Bool} {c : Char} {s t : Text}

theorem tighten_cons_of_ne (solid : c ≠ ' ') (afterMark : Bool) (t : Text) :
    tighten afterMark (c :: t) = c :: tighten (isPunctuation c) t := by
  simp [tighten, solid]

theorem mem_tighten (solid : c ≠ ' ') (member : c ∈ t) : c ∈ tighten afterMark t := by
  induction t generalizing afterMark with
  | nil => cases member
  | cons d t ih =>
    rw [tighten]
    rcases List.mem_cons.mp member with rfl | later
    · simp [solid]
    · split
      · exact ih later
      · exact List.mem_cons_of_mem d (ih later)

theorem tighten_of_solid (solid : ∀ c ∈ t, c ≠ ' ') : tighten afterMark t = t := by
  induction t generalizing afterMark with
  | nil => rfl
  | cons c t ih =>
    rw [List.forall_mem_cons] at solid
    rw [tighten_cons_of_ne solid.1, ih solid.2]

/-- Marks at the end are kept, and a space before them is dropped. -/
theorem tighten_append_marks {gap marks : Text} (last : ∀ c, t.getLast? = some c → c ≠ ' ')
    (gaps : gap = [] ∨ gap = [' '] ∧ marks ≠ []) (punctuation : ∀ c ∈ marks, isPunctuation c = true) :
    tighten afterMark (t ++ (gap ++ marks)) = tighten afterMark t ++ marks := by
  have solid : ∀ c ∈ marks, c ≠ ' ' := by
    rintro c member rfl
    have mark := punctuation ' ' member
    revert mark
    decide
  induction t generalizing afterMark with
  | nil =>
    rcases gaps with rfl | ⟨rfl, given⟩
    · exact tighten_of_solid solid
    · cases marks with
      | nil => exact absurd rfl given
      | cons mark marks =>
        have first : isPunctuation mark = true := punctuation mark List.mem_cons_self
        have drops : tighten afterMark ([' '] ++ mark :: marks) = tighten false (mark :: marks) := by
          rw [List.singleton_append, tighten, if_pos (by simp [first])]
        exact drops.trans (tighten_of_solid solid)
  | cons c t ih =>
    cases t with
    | nil =>
      have own : c ≠ ' ' := last c rfl
      rw [List.cons_append, tighten_cons_of_ne own, tighten_cons_of_ne own, ih (by simp)]
      rfl
    | cons d t =>
      have later : ∀ e, (d :: t).getLast? = some e → e ≠ ' ' := fun e found =>
        last e (by rw [List.getLast?_cons_of_ne_nil (List.cons_ne_nil d t), found])
      have rest : ∀ mark, tighten mark (d :: t ++ (gap ++ marks)) = tighten mark (d :: t) ++ marks :=
        fun _ => ih later
      have head : (d :: t ++ (gap ++ marks)).head? = (d :: t).head? := rfl
      rw [List.cons_append, tighten, tighten, rest, rest, head]
      by_cases drops : (c == ' ' && (afterMark || (d :: t).head?.any isPunctuation)) = true
      · rw [if_pos drops, if_pos drops]
      · rw [if_neg drops, if_neg drops]
        rfl

/-- A word before a space is kept when no punctuation follows. -/
theorem tighten_const (first : ∀ c, t.head? = some c → isPunctuation c = false) :
    tighten false ("const ".toList ++ t) = "const ".toList ++ tighten false t := by
  have word : "const ".toList = ['c', 'o', 'n', 's', 't', ' '] := rfl
  have apart : t.head?.any isPunctuation = false := by
    cases found : t.head? with
    | none => rfl
    | some c => exact first c found
  rw [word]
  simp only [List.cons_append, List.nil_append, tighten, apart]
  rfl

theorem normal_of_squeezed (squeezed : squeeze t = t) : normal t = tighten false t := by
  rw [normal, squeezed]

end

/-! ### The normal form in one pass -/

/-- What stands before the rest of a spelling. -/
inductive Place where
  /-- Nothing, or punctuation and blanks. -/
  | mark
  | word
  /-- A word and blanks. -/
  | gap
  deriving Repr, DecidableEq

namespace Place

def after (place : Place) (c : Char) : Place :=
  if isBlank c then (if place = .mark then .mark else .gap)
  else if isPunctuation c then .mark
  else .word

/-- The space that a word needs there. -/
def space (place : Place) : Text := if place = .gap then [' '] else []

def write (place : Place) (c : Char) : Text :=
  if isBlank c then []
  else if isPunctuation c then [c]
  else place.space ++ [c]

end Place

/-- The normal form of the rest of a spelling. -/
def spaced : Place → Text → Text
  | _, [] => []
  | place, c :: t => place.write c ++ spaced (place.after c) t

variable {c : Char} {s t : Text} {place : Place}

theorem spaced_blank (blank : isBlank c = true) :
    spaced place (c :: t) = spaced (if place = .mark then .mark else .gap) t := by
  simp [spaced, Place.write, Place.after, blank]

theorem spaced_punctuation (solid : isBlank c = false) (mark : isPunctuation c = true) :
    spaced place (c :: t) = c :: spaced .mark t := by
  simp [spaced, Place.write, Place.after, solid, mark]

theorem spaced_word (solid : isBlank c = false) (other : isPunctuation c = false) :
    spaced place (c :: t) = place.space ++ c :: spaced .word t := by
  simp [spaced, Place.write, Place.after, solid, other]

theorem spaced_append (place : Place) (s t : Text) :
    spaced place (s ++ t) = spaced place s ++ spaced (s.foldl Place.after place) t := by
  induction s generalizing place with
  | nil => rfl
  | cons c s ih => simp only [List.cons_append, spaced, List.foldl_cons, ih, List.append_assoc]

theorem isPunctuation_space : isPunctuation ' ' = false := by decide

theorem tighten_space (afterMark : Bool) (t : Text) : tighten afterMark (' ' :: t) =
    if afterMark || t.head?.any isPunctuation then tighten false t else ' ' :: tighten false t := by
  simp [tighten, isPunctuation_space]

/-- Squeezing and dropping spaces come to one pass, at the start, behind punctuation and behind a word. -/
theorem tighten_squeeze (t : Text) :
    (∀ afterMark, tighten afterMark (squeeze t) = spaced .mark t) ∧
    tighten true (squeezeRest t) = spaced .mark t ∧ tighten false (squeezeRest t) = spaced .word t ∧
    (if squeeze t = [] then [] else tighten false (' ' :: squeeze t)) = spaced .gap t := by
  induction t with
  | nil => exact ⟨fun _ => rfl, rfl, rfl, rfl⟩
  | cons c t ih =>
    obtain ⟨outside, mark, word, gap⟩ := ih
    cases kind : isBlank c with
    | true =>
      rw [squeeze_cons_blank kind, squeezeRest_cons_blank kind, spaced_blank kind, spaced_blank kind,
        spaced_blank kind]
      refine ⟨outside, ?_, ?_, gap⟩
      · split
        · next none =>
          rw [if_pos rfl, ← outside true, none]
        · rw [tighten_space, Bool.true_or, if_pos rfl, outside, if_pos rfl]
      -- Behind a word the blanks become one space, which punctuation that follows takes away again.
      · have behind : (if Place.word = .mark then Place.mark else .gap) = .gap := rfl
        rw [behind, ← gap]
        split <;> rfl
    | false =>
      have solid : c ≠ ' ' := (ne_of_isBlank (by decide) kind).symm
      rw [squeeze_cons kind, squeezeRest_cons kind]
      cases punctuation : isPunctuation c with
      | true =>
        simp only [spaced_punctuation kind punctuation, tighten_cons_of_ne solid, punctuation, mark]
        simp [tighten_space, tighten_cons_of_ne solid, punctuation, mark]
      | false =>
        simp only [spaced_word kind punctuation, tighten_cons_of_ne solid, punctuation, word]
        simp [tighten_space, tighten_cons_of_ne solid, punctuation, word, Place.space]

theorem normal_eq_spaced (t : Text) : normal t = spaced .mark t := (tighten_squeeze t).1 false

private theorem eq_false_of_isPunctuation {p : Char → Bool} (none : "&*<>,()".toList.any p = false)
    (mark : isPunctuation c = true) : p c = false := by
  rw [← Bool.not_eq_true]
  exact List.any_eq_false.mp none c (List.contains_iff_mem.mp mark)

theorem isBlank_of_isPunctuation (mark : isPunctuation c = true) : isBlank c = false :=
  eq_false_of_isPunctuation (by decide) mark

theorem isWordChar_of_isPunctuation (mark : isPunctuation c = true) : isWordChar c = false :=
  eq_false_of_isPunctuation (by decide) mark

theorem isPunctuation_of_isWordChar (word : isWordChar c = true) : isPunctuation c = false := by
  cases mark : isPunctuation c with
  | false => rfl
  | true =>
    rw [isWordChar_of_isPunctuation mark] at word
    cases word

theorem isBlank_of_isWordChar (word : isWordChar c = true) : isBlank c = false := by
  cases kind : isBlank c with
  | false => rfl
  | true =>
    rw [isWordChar_of_isBlank kind] at word
    cases word

theorem spaced_of_word (given : s ≠ []) (word : ∀ c ∈ s, isWordChar c = true) (place : Place) :
    spaced place s = place.space ++ s ∧ s.foldl Place.after place = .word := by
  induction s generalizing place with
  | nil => exact absurd rfl given
  | cons c s ih =>
    rw [List.forall_mem_cons] at word
    have solid := isBlank_of_isWordChar word.1
    have other := isPunctuation_of_isWordChar word.1
    have behind : place.after c = .word := by simp [Place.after, solid, other]
    rw [spaced_word solid other, List.foldl_cons, behind]
    cases s with
    | nil => exact ⟨rfl, rfl⟩
    | cons d s =>
      obtain ⟨rest, last⟩ := ih (List.cons_ne_nil d s) word.2 .word
      exact ⟨by rw [rest]; rfl, last⟩

/-- Whether a text starts with a character that is neither blank nor punctuation. -/
def startsSolid : Text → Bool
  | [] => false
  | c :: _ => !isBlank c && !isPunctuation c

theorem startsSolid_iff : startsSolid s = true ↔
    ∃ c rest, s = c :: rest ∧ isBlank c = false ∧ isPunctuation c = false := by
  cases s with
  | nil => simp [startsSolid]
  | cons c rest => simp [startsSolid]

/-- A spelling that starts so is written in its normal form, behind the space that it needs. -/
theorem spaced_of_startsSolid (starts : startsSolid s = true) (place : Place) :
    spaced place s = place.space ++ normal s := by
  obtain ⟨c, rest, rfl, solid, other⟩ := startsSolid_iff.mp starts
  rw [normal_eq_spaced, spaced_word solid other, spaced_word solid other]
  rfl

theorem head?_normal (starts : startsSolid s = true) : (normal s).head? = s.head? := by
  obtain ⟨c, rest, rfl, solid, other⟩ := startsSolid_iff.mp starts
  rw [normal_eq_spaced, spaced_word solid other]
  rfl

theorem foldl_after_ne_gap (last : ∀ c, s.getLast? = some c → isBlank c = false) (given : s ≠ [])
    (place : Place) : s.foldl Place.after place ≠ .gap := by
  obtain ⟨front, c, rfl⟩ := (List.eq_nil_or_concat s).resolve_left given
  have solid := last c (by simp)
  rw [List.concat_eq_append, List.foldl_append, List.foldl_cons, List.foldl_nil, Place.after, solid,
    if_neg Bool.false_ne_true]
  split <;> exact Place.noConfusion

/-- Punctuation before a text makes no difference but for a space at its start. -/
theorem spaced_mark (t : Text) :
    ((spaced .gap t).head? ≠ some ' ' → spaced .mark t = spaced .gap t) ∧
      ((spaced .word t).head? ≠ some ' ' → spaced .mark t = spaced .word t) := by
  induction t with
  | nil => exact ⟨fun _ => rfl, fun _ => rfl⟩
  | cons c t ih =>
    cases kind : isBlank c with
    | true =>
      simp only [spaced_blank kind]
      exact ⟨ih.1, ih.1⟩
    | false =>
      cases mark : isPunctuation c with
      | true => simp [spaced_punctuation kind mark]
      | false => simp [spaced_word kind mark, Place.space]

/-- Behind a word and blanks a space comes before the next word. -/
theorem startsSolid_spaced_gap (t : Text) : startsSolid (spaced .gap t) = false := by
  induction t with
  | nil => rfl
  | cons c t ih =>
    cases kind : isBlank c with
    | true => rwa [spaced_blank kind]
    | false =>
      cases mark : isPunctuation c with
      | true =>
        rw [spaced_punctuation kind mark]
        simp [startsSolid, mark]
      | false =>
        rw [spaced_word kind mark]
        rfl

/-- A word goes on in the normal form where it goes on in the spelling. -/
theorem startsSolid_spaced_word (t : Text) : startsSolid (spaced .word t) = startsSolid t := by
  cases t with
  | nil => rfl
  | cons c t =>
    cases kind : isBlank c with
    | true =>
      rw [spaced_blank kind, if_neg Place.noConfusion, startsSolid_spaced_gap]
      simp [startsSolid, kind]
    | false =>
      cases mark : isPunctuation c with
      | true =>
        rw [spaced_punctuation kind mark]
        rfl
      | false =>
        rw [spaced_word kind mark]
        rfl

theorem isWordChar_head?_spaced (first : ∀ c, t.head? = some c → isWordChar c = false) {d : Char}
    (written : (spaced .word t).head? = some d) : isWordChar d = false := by
  rw [← Bool.not_eq_true]
  intro word
  have starts : startsSolid t = true := by
    obtain ⟨rest, parts⟩ := List.head?_eq_some_iff.mp written
    rw [← startsSolid_spaced_word, parts]
    simp [startsSolid, isBlank_of_isWordChar word, isPunctuation_of_isWordChar word]
  have same : spaced .word t = normal t := spaced_of_startsSolid starts .word
  rw [same, head?_normal starts] at written
  rw [first d written] at word
  cases word

theorem spaced_concat (place : Place) (s : Text) (c : Char) :
    spaced place (s ++ [c]) = spaced place s ++ (s.foldl Place.after place).write c := by
  rw [spaced_append, spaced, spaced, List.append_nil]

theorem isPunctuation_getLast?_spaced (end_ : s.foldl Place.after .mark = .mark) {d : Char}
    (written : (spaced .mark s).getLast? = some d) : isPunctuation d = true := by
  induction s using List.reverseRecOn with
  | nil => cases written
  | append_singleton s c ih =>
    rw [spaced_concat] at written
    rw [List.foldl_append, List.foldl_cons, List.foldl_nil, Place.after] at end_
    rw [Place.write] at written
    split at end_
    · next blank =>
      rw [if_pos blank, List.append_nil] at written
      split at end_
      · next before => exact ih before written
      · cases end_
    · next solid =>
      split at end_
      · next mark =>
        rw [if_neg solid, if_pos mark, List.getLast?_concat] at written
        exact Option.some.inj written ▸ mark
      · cases end_

/-- What is written for a text in front of a word. -/
def lead (left : Text) : Text := spaced .mark left ++ (left.foldl Place.after .mark).space

theorem isWordChar_getLast?_lead (last : ∀ c, s.getLast? = some c → isWordChar c = false) {d : Char}
    (written : (lead s).getLast? = some d) : isWordChar d = false := by
  rw [lead] at written
  rcases List.eq_nil_or_concat s with rfl | ⟨front, c, rfl⟩
  · cases written
  rw [List.concat_eq_append] at last written
  have own := last c (by simp)
  cases kind : isBlank c with
  | false =>
    -- A character that is not blank is written last, whatever stands before it.
    have write : ∃ more, (spaced .mark (front ++ [c]) ++
        ((front ++ [c]).foldl Place.after .mark).space) = more ++ [c] := by
      rw [spaced_concat, List.foldl_append, List.foldl_cons, List.foldl_nil, Place.write, Place.after,
        kind, if_neg Bool.false_ne_true, if_neg Bool.false_ne_true]
      split
      · exact ⟨_, List.append_nil _⟩
      · exact ⟨spaced .mark front ++ (front.foldl Place.after .mark).space, by simp [Place.space]⟩
    obtain ⟨more, whole⟩ := write
    rw [whole, List.getLast?_concat] at written
    exact Option.some.inj written ▸ own
  | true =>
    cases place : (front ++ [c]).foldl Place.after .mark with
    | mark =>
      rw [place, Place.space, if_neg Place.noConfusion, List.append_nil] at written
      exact isWordChar_of_isPunctuation (isPunctuation_getLast?_spaced place written)
    | word =>
      rw [List.foldl_append, List.foldl_cons, List.foldl_nil, Place.after, if_pos kind] at place
      split at place <;> cases place
    | gap =>
      rw [place, Place.space, if_pos rfl, List.getLast?_concat] at written
      cases written
      decide

/-! ### Spellings in parts -/

/-- Blanks leave only what stands before them. -/
theorem spaced_blanks {gap : Text} (blank : ∀ c ∈ gap, isBlank c = true) (place : Place) (t : Text) :
    ∃ behind, spaced place (gap ++ t) = spaced behind t ∧ (place = .mark → behind = .mark) := by
  induction gap generalizing place with
  | nil => exact ⟨place, rfl, id⟩
  | cons c gap ih =>
    rw [List.forall_mem_cons] at blank
    rw [List.cons_append, spaced_blank blank.1]
    obtain ⟨behind, rest, mark⟩ := ih blank.2 (if place = .mark then .mark else .gap)
    exact ⟨behind, rest, fun before => mark (if_pos before)⟩

theorem normal_gap {left gap right : Text} (blank : ∀ c ∈ gap, isBlank c = true)
    (beside : left.getLast?.any isPunctuation = true ∨ right.head?.any isPunctuation = true) :
    normal (left ++ (gap ++ right)) = normal left ++ normal right := by
  obtain ⟨behind, rest, mark⟩ := spaced_blanks blank (left.foldl Place.after .mark) right
  rw [normal_eq_spaced, spaced_append, rest, normal_eq_spaced, normal_eq_spaced]
  refine congrArg (spaced .mark left ++ ·) ?_
  simp only [Option.any_eq_true] at beside
  rcases beside with ⟨c, last, punctuation⟩ | ⟨c, first, punctuation⟩
  · obtain ⟨front, rfl⟩ := List.getLast?_eq_some_iff.mp last
    rw [mark]
    simp [List.foldl_append, Place.after, isBlank_of_isPunctuation punctuation, punctuation]
  · obtain ⟨back, rfl⟩ := List.head?_eq_some_iff.mp first
    rw [spaced_punctuation (isBlank_of_isPunctuation punctuation) punctuation,
      spaced_punctuation (isBlank_of_isPunctuation punctuation) punctuation]

theorem normal_append_word (given : s ≠ []) (word : ∀ c ∈ s, isWordChar c = true) (left right : Text) :
    normal (left ++ (s ++ right)) = lead left ++ (s ++ spaced .word right) := by
  obtain ⟨here, last⟩ := spaced_of_word given word (left.foldl Place.after .mark)
  rw [normal_eq_spaced, spaced_append, spaced_append, here, last, lead]
  simp only [List.append_assoc]

/-- A spelling that neither starts with punctuation nor ends in blanks stands in its normal form where a
word has stood, if no space follows that punctuation would swallow. -/
theorem normal_append_spelling {right : Text}
    (starts : startsSolid s = true) (last : ∀ c, s.getLast? = some c → isBlank c = false)
    (apart : (spaced .word right).head? ≠ some ' ') (left : Text) :
    normal (left ++ (s ++ right)) = lead left ++ (normal s ++ spaced .word right) := by
  have given : s ≠ [] := by
    rintro rfl
    cases starts
  have rest : spaced (s.foldl Place.after (left.foldl Place.after .mark)) right = spaced .word right := by
    cases place : s.foldl Place.after (left.foldl Place.after .mark) with
    | mark => exact (spaced_mark right).2 apart
    | word => rfl
    | gap => exact absurd place (foldl_after_ne_gap last given _)
  rw [normal_eq_spaced, spaced_append, spaced_append, rest, spaced_of_startsSolid starts, lead]
  simp only [List.append_assoc]

end Forwarding.Spelling
