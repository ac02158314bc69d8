import Forwarding.Proofs.Text.Strip
import Forwarding.Text.Identifier

/-! Squeezing a text character by character, and what it leaves alone.

`squeeze` is defined by words; `squeezeRest` is the same behind a character of a word, so that both
follow the characters of a text.
-/

set_option autoImplicit false

namespace Forwarding.Text

/-- What a text becomes behind a character of a word. -/
def squeezeRest : Text → Text
  | [] => []
  | c :: t =>
    if isBlank c then (if squeeze t = [] then [] else ' ' :: squeeze t) else c :: squeezeRest t

private def wordsFrom (inside : Bool) (t : Text) : Text × List Text :=
  runsFrom (fun c => !isBlank c) (fun c => !isBlank c) inside t

private theorem words_eq_wordsFrom (t : Text) : words t = (wordsFrom false t).2 := rfl

private theorem wordsFrom_blank (inside : Bool) {c : Char} {t : Text} (blank : isBlank c = true) :
    wordsFrom inside (c :: t) = ([], words t) := by
  simp [wordsFrom, runsFrom, blank, words, runs]

private theorem wordsFrom_inside {c : Char} {t : Text} (solid : isBlank c = false) :
    wordsFrom true (c :: t) = (c :: (wordsFrom true t).1, (wordsFrom true t).2) := by
  simp [wordsFrom, runsFrom, solid]

private theorem wordsFrom_outside {c : Char} {t : Text} (solid : isBlank c = false) :
    wordsFrom false (c :: t) = ([], (c :: (wordsFrom true t).1) :: (wordsFrom true t).2) := by
  simp [wordsFrom, runsFrom, solid]

private theorem ne_nil_of_mem_wordsFrom (inside : Bool) {t word : Text}
    (member : word ∈ (wordsFrom inside t).2) : word ≠ [] := by
  induction t generalizing inside with
  | nil => simp [wordsFrom, runsFrom] at member
  | cons c t ih =>
    cases kind : isBlank c with
    | true =>
      rw [wordsFrom_blank inside kind, words_eq_wordsFrom] at member
      exact ih false member
    | false =>
      cases inside with
      | true =>
        rw [wordsFrom_inside kind] at member
        exact ih true member
      | false =>
        rw [wordsFrom_outside kind, List.mem_cons] at member
        rcases member with rfl | later
        · exact List.cons_ne_nil _ _
        · exact ih true later

private theorem words_eq_nil_iff {t : Text} : words t = [] ↔ squeeze t = [] := by
  refine ⟨fun none => by simp [squeeze, none, join], fun empty => ?_⟩
  cases found : words t with
  | nil => rfl
  | cons word more =>
    have solid : word ≠ [] :=
      ne_nil_of_mem_wordsFrom false (by rw [← words_eq_wordsFrom, found]; simp)
    cases more <;> simp [squeeze, found, join, List.intercalate_cons_cons, solid] at empty

private theorem join_cons (piece : Text) (more : List Text) :
    join [' '] (piece :: more) = piece ++ if more = [] then [] else ' ' :: join [' '] more := by
  cases more <;> simp [join, List.intercalate_cons_cons]

private theorem join_wordsFrom (t : Text) :
    join [' '] ((wordsFrom true t).1 :: (wordsFrom true t).2) = squeezeRest t := by
  induction t with
  | nil => rfl
  | cons c t ih =>
    cases kind : isBlank c with
    | true =>
      rw [wordsFrom_blank true kind, squeezeRest, if_pos kind, join_cons, List.nil_append]
      by_cases empty : squeeze t = []
      · rw [if_pos empty, if_pos (words_eq_nil_iff.mpr empty)]
      · rw [if_neg empty, if_neg (mt words_eq_nil_iff.mp empty), squeeze]
    | false =>
      rw [wordsFrom_inside kind, squeezeRest, kind, ← ih]
      simp [join_cons]

@[simp] theorem squeeze_nil : squeeze [] = [] := rfl

theorem squeeze_cons_blank {c : Char} {t : Text} (blank : isBlank c = true) :
    squeeze (c :: t) = squeeze t := by
  rw [squeeze, words_eq_wordsFrom, wordsFrom_blank false blank, squeeze]

theorem squeeze_cons {c : Char} {t : Text} (solid : isBlank c = false) :
    squeeze (c :: t) = c :: squeezeRest t := by
  rw [← join_wordsFrom, squeeze, words_eq_wordsFrom, wordsFrom_outside solid]
  simp [join_cons]

theorem squeezeRest_cons_blank {c : Char} {t : Text} (blank : isBlank c = true) :
    squeezeRest (c :: t) = if squeeze t = [] then [] else ' ' :: squeeze t := by
  rw [squeezeRest, if_pos blank]

theorem squeezeRest_cons {c : Char} {t : Text} (solid : isBlank c = false) :
    squeezeRest (c :: t) = c :: squeezeRest t := by
  simp [squeezeRest, solid]

theorem squeeze_eq_nil_iff {t : Text} : squeeze t = [] ↔ ∀ c ∈ t, isBlank c = true := by
  induction t with
  | nil => simp
  | cons c t ih =>
    cases kind : isBlank c with
    | true => simp [squeeze_cons_blank kind, ih, kind]
    | false => simp [squeeze_cons kind, kind]

-- The next lemmas are about `squeeze` and `squeezeRest` at once: which of them reads on depends on the
-- character that comes.
theorem squeeze_squeeze (t : Text) :
    squeeze (squeeze t) = squeeze t ∧ squeezeRest (squeezeRest t) = squeezeRest t := by
  induction t with
  | nil => exact ⟨rfl, rfl⟩
  | cons c t ih =>
    cases kind : isBlank c with
    | true =>
      rw [squeeze_cons_blank kind, squeezeRest_cons_blank kind]
      refine ⟨ih.1, ?_⟩
      split
      · rfl
      · next some => rw [squeezeRest_cons_blank (by decide), ih.1, if_neg some]
    | false =>
      rw [squeeze_cons kind, squeezeRest_cons kind, squeeze_cons kind, squeezeRest_cons kind, ih.2]
      exact ⟨rfl, rfl⟩

theorem mem_squeeze (t : Text) : (∀ c ∈ squeeze t, c ∈ t ∧ isBlank c = false ∨ c = ' ') ∧
    ∀ c ∈ squeezeRest t, c ∈ t ∧ isBlank c = false ∨ c = ' ' := by
  induction t with
  | nil => simp [squeezeRest]
  | cons d t ih =>
    have later : ∀ {c}, c ∈ t ∧ isBlank c = false ∨ c = ' ' → c ∈ d :: t ∧ isBlank c = false ∨ c = ' ' :=
      fun found => found.imp (fun inside => ⟨List.mem_cons_of_mem _ inside.1, inside.2⟩) id
    cases kind : isBlank d with
    | true =>
      rw [squeeze_cons_blank kind, squeezeRest_cons_blank kind]
      refine ⟨fun c member => later (ih.1 c member), fun c member => ?_⟩
      split at member
      · cases member
      · rcases List.mem_cons.mp member with rfl | inside
        · exact .inr rfl
        · exact later (ih.1 c inside)
    | false =>
      rw [squeeze_cons kind, squeezeRest_cons kind, and_self]
      intro c member
      rcases List.mem_cons.mp member with rfl | inside
      · exact .inl ⟨List.mem_cons_self, kind⟩
      · exact later (ih.2 c inside)

theorem getLast?_squeeze (t : Text) : (∀ c, (squeeze t).getLast? = some c → isBlank c = false) ∧
    ∀ c, (squeezeRest t).getLast? = some c → isBlank c = false := by
  induction t with
  | nil => simp [squeezeRest]
  | cons d t ih =>
    cases kind : isBlank d with
    | true =>
      rw [squeeze_cons_blank kind, squeezeRest_cons_blank kind]
      refine ⟨ih.1, fun c last => ?_⟩
      split at last
      · cases last
      · next some =>
        rw [List.getLast?_cons_of_ne_nil some] at last
        exact ih.1 c last
    | false =>
      rw [squeeze_cons kind, squeezeRest_cons kind, and_self]
      intro c last
      cases rest : squeezeRest t with
      | nil =>
        rw [rest] at last
        cases last
        exact kind
      | cons e more =>
        rw [rest, List.getLast?_cons_of_ne_nil (List.cons_ne_nil e more), ← rest] at last
        exact ih.2 c last

theorem strip_squeeze (t : Text) : strip (squeeze t) = squeeze t := by
  refine strip_eq_self (fun c first => ?_) (getLast?_squeeze t).1
  induction t with
  | nil => cases first
  | cons d t ih =>
    cases kind : isBlank d with
    | true => exact ih (by rwa [squeeze_cons_blank kind] at first)
    | false =>
      rw [squeeze_cons kind] at first
      cases first
      exact kind

/-- Squeezing leaves no two blanks next to each other. -/
theorem not_blanks_squeeze (t : Text) :
    ¬ [' ', ' '] <:+: squeeze t ∧ ¬ [' ', ' '] <:+: squeezeRest t := by
  induction t with
  | nil => simp [squeezeRest]
  | cons c t ih =>
    cases kind : isBlank c with
    | true =>
      rw [squeeze_cons_blank kind, squeezeRest_cons_blank kind]
      refine ⟨ih.1, ?_⟩
      split
      · simp
      · rw [List.infix_cons_iff, not_or]
        refine ⟨fun start => ?_, ih.1⟩
        obtain ⟨rest, parts⟩ := (List.cons_prefix_cons.mp start).2
        -- The text behind the space is squeezed, so that it starts with no blank.
        have first : (strip (squeeze t)).head? = some ' ' := by
          rw [strip_squeeze, ← parts]
          rfl
        have solid := head?_strip first
        revert solid
        decide
    | false =>
      have apart : ¬ [' ', ' '] <+: c :: squeezeRest t := fun start =>
        ne_of_isBlank (by decide) kind (List.cons_prefix_cons.mp start).1
      rw [squeeze_cons kind, squeezeRest_cons kind, and_self, List.infix_cons_iff, not_or]
      exact ⟨apart, ih.2⟩

private theorem squeezed_of_spaces {t : Text} (spaces : ∀ c ∈ t, isBlank c = true → c = ' ')
    (single : ¬ [' ', ' '] <:+: t) (last : ∀ c, t.getLast? = some c → isBlank c = false) :
    ((∀ c, t.head? = some c → isBlank c = false) → squeeze t = t) ∧ squeezeRest t = t := by
  induction t with
  | nil => exact ⟨fun _ => rfl, rfl⟩
  | cons c t ih =>
    rw [List.forall_mem_cons] at spaces
    rw [List.infix_cons_iff, not_or] at single
    have later : ∀ d, t.getLast? = some d → isBlank d = false := fun d found =>
      last d (by rw [List.getLast?_cons, found]; rfl)
    obtain ⟨outside, inside⟩ := ih spaces.2 single.2 later
    cases kind : isBlank c with
    | true =>
      have space := spaces.1 kind
      subst space
      refine ⟨fun first => ?_, ?_⟩
      · rw [first ' ' rfl] at kind
        cases kind
      cases t with
      | nil =>
        rw [last ' ' rfl] at kind
        cases kind
      | cons d t =>
        -- No two spaces are neighbours, so that a word begins behind this one.
        have next : isBlank d = false := by
          cases blank : isBlank d with
          | false => rfl
          | true =>
            cases spaces.2 d List.mem_cons_self blank
            exact absurd (List.prefix_append [' ', ' '] t) single.1
        rw [squeezeRest_cons_blank kind, outside fun e first => by cases first; exact next]
        simp
    | false => simp [squeeze_cons kind, squeezeRest_cons kind, inside]

theorem squeeze_eq_self_iff {t : Text} : squeeze t = t ↔
    strip t = t ∧ (∀ c ∈ t, isBlank c = true → c = ' ') ∧ ¬ [' ', ' '] <:+: t := by
  constructor
  · intro squeezed
    rw [← squeezed]
    refine ⟨strip_squeeze t, fun c member blank => ?_, (not_blanks_squeeze t).1⟩
    refine ((mem_squeeze t).1 c member).resolve_left fun solid => ?_
    rw [solid.2] at blank
    cases blank
  · rintro ⟨stripped, spaces, single⟩
    rw [← stripped] at spaces single ⊢
    exact (squeezed_of_spaces spaces single fun c => getLast?_strip).1 fun c => head?_strip

theorem squeeze_of_isInfix {s t : Text} (squeezed : squeeze t = t) (inside : s <:+: t)
    (stripped : strip s = s) : squeeze s = s := by
  obtain ⟨-, spaces, single⟩ := squeeze_eq_self_iff.mp squeezed
  exact squeeze_eq_self_iff.mpr
    ⟨stripped, fun c member => spaces c (inside.subset member), fun pair => single (pair.trans inside)⟩

/-- Two marks that squeezing leaves next to each other have been neighbours before. -/
theorem pair_infix_squeeze {a : Char} (solid : isBlank a = false) (t : Text) :
    ([a, a] <:+: squeeze t → [a, a] <:+: t) ∧ ([a, a] <:+: squeezeRest t → [a, a] <:+: t) ∧
      ((squeezeRest t).head? = some a → t.head? = some a) := by
  have space : a ≠ ' ' := (ne_of_isBlank (by decide) solid).symm
  induction t with
  | nil => exact ⟨id, id, id⟩
  | cons d t ih =>
    obtain ⟨outside, inside, first⟩ := ih
    cases kind : isBlank d with
    | true =>
      rw [squeeze_cons_blank kind, squeezeRest_cons_blank kind]
      refine ⟨fun pair => List.infix_cons (outside pair), fun pair => ?_, fun head => ?_⟩
      · split at pair
        · simp at pair
        · rcases List.infix_cons_iff.mp pair with starts | later
          · exact absurd (List.cons_prefix_cons.mp starts).1 space
          · exact List.infix_cons (outside later)
      · split at head
        · cases head
        · exact absurd (Option.some.inj head).symm space
    | false =>
      rw [squeeze_cons kind, squeezeRest_cons kind]
      have both : [a, a] <:+: d :: squeezeRest t → [a, a] <:+: d :: t := by
        intro pair
        rcases List.infix_cons_iff.mp pair with starts | later
        · obtain ⟨rfl, next⟩ := List.cons_prefix_cons.mp starts
          cases t with
          | nil => simp [squeezeRest] at next
          | cons e t =>
            have head : (squeezeRest (e :: t)).head? = some a := by
              obtain ⟨rest, parts⟩ := next
              rw [← parts]
              rfl
            cases first head
            exact ⟨[], t, rfl⟩
        · exact List.infix_cons (inside later)
      exact ⟨both, both, id⟩

private theorem runsFrom_outside (first rest : Char → Bool) (t : Text) :
    (runsFrom first rest false t).1 = [] := by
  cases t with
  | nil => rfl
  | cons c t => simp only [runsFrom, Bool.false_and, Bool.false_eq_true, if_false]; split <;> rfl

/-- Behind any state of reading, squeezing changes no stretch of characters that are not blank. -/
theorem runsFrom_squeeze {first rest : Char → Bool}
    (starts : ∀ c, isBlank c = true → first c = false) (goesOn : ∀ c, isBlank c = true → rest c = false)
    (t : Text) :
    runsFrom first rest false (squeeze t) = runsFrom first rest false t ∧
      ∀ inside, runsFrom first rest inside (squeezeRest t) = runsFrom first rest inside t := by
  induction t with
  | nil => exact ⟨rfl, fun _ => rfl⟩
  | cons c t ih =>
    have space : isBlank ' ' = true := by decide
    cases kind : isBlank c with
    | true =>
      refine ⟨?_, fun inside => ?_⟩
      · rw [squeeze_cons_blank kind, ih.1]
        rw [show runsFrom first rest false (c :: t) = ([], (runsFrom first rest false t).2) by
          simp [runsFrom, starts c kind], ← runsFrom_outside first rest t]
      · rw [squeezeRest_cons_blank kind]
        rw [show runsFrom first rest inside (c :: t) = ([], (runsFrom first rest false t).2) by
          simp [runsFrom, starts c kind, goesOn c kind], ← ih.1]
        split
        · next empty => simp [empty, runsFrom]
        · simp [runsFrom, starts _ space, goesOn _ space]
    | false =>
      rw [squeeze_cons kind, squeezeRest_cons kind]
      simp only [runsFrom, ih.2, and_self, implies_true]

theorem isWordChar_of_isBlank {c : Char} (blank : isBlank c = true) : isWordChar c = false := by
  have outside : ∀ n ∈ [0x85, 0xA0, 0x1680, 0x2000, 0x2001, 0x2002, 0x2003, 0x2004, 0x2005, 0x2006,
      0x2007, 0x2008, 0x2009, 0x200A, 0x2028, 0x2029, 0x202F, 0x205F, 0x3000],
      (alphanumericBlocks.any fun ranges => ranges.any fun r => r.1 ≤ n && n ≤ r.2) = false := by
    decide +kernel
  have other : c ≠ '_' := by
    rintro rfl
    revert blank
    decide
  simp only [isBlank, Bool.or_eq_true, Bool.and_eq_true, decide_eq_true_eq, beq_iff_eq] at blank
  rw [isWordChar, isAlphanumeric]
  split
  · next ascii =>
    have notAlphanum : c.isAlphanum = false := by
      cases alphanum : c.isAlphanum with
      | false => rfl
      | true =>
        have := isAlphanum_iff.1 alphanum
        omega
    simp [other, notAlphanum]
  · next beyond =>
    -- Beyond ASCII the blanks are few enough to be looked up one by one.
    have member : c.toNat ∈ [0x85, 0xA0, 0x1680, 0x2000, 0x2001, 0x2002, 0x2003, 0x2004, 0x2005,
        0x2006, 0x2007, 0x2008, 0x2009, 0x200A, 0x2028, 0x2029, 0x202F, 0x205F, 0x3000] := by
      simp only [List.mem_cons, List.not_mem_nil, or_false]
      omega
    simp [other, outside _ member]

theorem isIdentifierStart_of_isBlank {c : Char} (blank : isBlank c = true) :
    isIdentifierStart c = false := by
  have word := isWordChar_of_isBlank blank
  simp only [isWordChar, Bool.or_eq_false_iff] at word
  cases start : c.isAlpha with
  | false => simp [isIdentifierStart, start, word.1]
  | true =>
    have alphanumeric := isAlphanumeric_of_isAlphanum (c := c) (by simp [Char.isAlphanum, start])
    rw [word.2] at alphanumeric
    cases alphanumeric

theorem identifiers_squeeze (t : Text) : identifiers (squeeze t) = identifiers t := by
  rw [identifiers, runs, (runsFrom_squeeze (fun _ => isIdentifierStart_of_isBlank)
    (fun _ => isWordChar_of_isBlank) t).1]
  rfl

/-! ### Stretches of characters -/

variable {kind : Char → Bool} {t word run : Text}

theorem mem_of_mem_runs {first rest : Char → Bool} {c : Char} (member : run ∈ runs first rest t) (inside : c ∈ run) :
    c ∈ t := by
  have each : ∀ flag, (∀ c ∈ (runsFrom first rest flag t).1, c ∈ t) ∧
      ∀ run ∈ (runsFrom first rest flag t).2, ∀ c ∈ run, c ∈ t := by
    clear member
    induction t with
    | nil => simp [runsFrom]
    | cons d t ih =>
      intro flag
      obtain ⟨goesOn, later⟩ := ih true
      rw [runsFrom]
      split
      · exact ⟨by grind, by grind⟩
      split
      · exact ⟨by grind, by grind⟩
      · exact ⟨by grind, by grind⟩
  exact (each false).2 run member c inside

theorem runsFrom_of_all (all : ∀ c ∈ word, kind c = true) : runsFrom kind kind true word = (word, []) := by
  induction word with
  | nil => rfl
  | cons c word ih =>
    rw [List.forall_mem_cons] at all
    simp [runsFrom, all.1, ih all.2]

theorem exists_getLast?_runs (given : word ≠ []) (all : ∀ c ∈ word, kind c = true) (t : Text) :
    ∃ front, (runs kind kind (t ++ word)).getLast? = some (front ++ word) := by
  have each : (∃ front, (runsFrom kind kind false (t ++ word)).2.getLast? = some (front ++ word)) ∧
      ∃ front, (runsFrom kind kind true (t ++ word)).2.getLast? = some (front ++ word) ∨
        runsFrom kind kind true (t ++ word) = (front ++ word, []) := by
    induction t with
    | nil =>
      refine ⟨⟨[], ?_⟩, [], .inr (runsFrom_of_all all)⟩
      cases word with
      | nil => exact absurd rfl given
      | cons c word =>
        rw [List.forall_mem_cons] at all
        simp [runsFrom, all.1, runsFrom_of_all all.2]
    | cons d t ih =>
      obtain ⟨outside, front, inside⟩ := ih
      cases fits : kind d with
      | false =>
        simp only [List.cons_append, runsFrom, fits, Bool.and_false, Bool.false_eq_true, if_false]
        exact ⟨outside, outside.imp fun _ => .inl⟩
      | true =>
        simp only [List.cons_append, runsFrom, fits, Bool.and_true, Bool.false_eq_true, if_false, if_true]
        rcases inside with later | only
        · refine ⟨⟨front, ?_⟩, front, .inl later⟩
          rw [List.getLast?_cons, later]
          rfl
        · rw [only]
          exact ⟨⟨d :: front, rfl⟩, d :: front, .inr rfl⟩
  exact each.1

/-- Behind the stretch that is being read, reading starts anew. -/
theorem exists_runsFrom_inside (first rest : Char → Bool) (t : Text) : ∃ behind,
    t = (runsFrom first rest true t).1 ++ behind ∧ (runsFrom first rest true t).2 = runs first rest behind := by
  induction t with
  | nil => exact ⟨[], rfl, rfl⟩
  | cons c t ih =>
    cases goesOn : rest c with
    | true =>
      obtain ⟨behind, parts, more⟩ := ih
      refine ⟨behind, ?_, ?_⟩
      · simpa [runsFrom, goesOn] using parts
      · simpa [runsFrom, goesOn] using more
    | false =>
      refine ⟨c :: t, ?_, ?_⟩
      · cases begins : first c <;> simp [runsFrom, goesOn, begins]
      · simp [runs, runsFrom, goesOn]

theorem exists_runsFrom_cut {first rest : Char → Bool} (inside : Bool)
    (member : run ∈ (runsFrom first rest inside t).2) : ∃ before behind, t = before ++ (run ++ behind) ∧
      (runsFrom first rest inside t).1 = (runsFrom first rest inside before).1 ∧
      (runsFrom first rest inside t).2 = (runsFrom first rest inside before).2 ++ run :: runs first rest behind := by
  induction t generalizing inside with
  | nil => cases member
  | cons c t ih =>
    cases goesOn : inside && rest c with
    | true =>
      simp only [runsFrom, goesOn, if_true] at member
      obtain ⟨before, behind, parts, head, more⟩ := ih true member
      refine ⟨c :: before, behind, by rw [parts, List.cons_append], ?_, ?_⟩
      · simp only [runsFrom, goesOn, if_true, head]
      · simp only [runsFrom, goesOn, if_true, more]
    | false =>
      cases begins : first c with
      | true =>
        simp only [runsFrom, goesOn, begins, if_true, Bool.false_eq_true, if_false, List.mem_cons] at member
        rcases member with rfl | later
        -- The stretch begins here; else it stands in the rest, which is cut there.
        · obtain ⟨behind, parts, more⟩ := exists_runsFrom_inside first rest t
          refine ⟨[], behind, by rw [List.nil_append, List.cons_append, ← parts], ?_, ?_⟩
          · simp only [runsFrom, goesOn, begins, if_true, Bool.false_eq_true, if_false]
          · simp only [runsFrom, goesOn, begins, if_true, Bool.false_eq_true, if_false, more, List.nil_append]
        · obtain ⟨before, behind, parts, head, more⟩ := ih true later
          refine ⟨c :: before, behind, by rw [parts, List.cons_append], ?_, ?_⟩
          · simp only [runsFrom, goesOn, begins, if_true, Bool.false_eq_true, if_false]
          · simp only [runsFrom, goesOn, begins, if_true, Bool.false_eq_true, if_false, head, more, List.cons_append]
      | false =>
        simp only [runsFrom, goesOn, begins, Bool.false_eq_true, if_false] at member
        obtain ⟨before, behind, parts, -, more⟩ := ih false member
        refine ⟨c :: before, behind, by rw [parts, List.cons_append], ?_, ?_⟩
        · simp only [runsFrom, goesOn, begins, Bool.false_eq_true, if_false]
        · simp only [runsFrom, goesOn, begins, Bool.false_eq_true, if_false, more]

end Forwarding.Text
