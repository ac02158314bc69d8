import Forwarding.Proofs.Declaration
import Forwarding.Script.Literal

/-! What stands between triple quotes, and what it says.

A text says itself just when no backslash in it begins an escape: an escape is always longer than what it stands for,
so that a text that says itself can have none. Such a text can be put between triple quotes when it has none of these
in it and no quote or backslash at its end.
-/

set_option autoImplicit false

namespace Forwarding.Script

open Text Checks

/-! ### Escapes -/

/-- The characters that mean something else behind a backslash. -/
def escapeCharacters : List Char :=
  ['\n', '\\', '\x27', '"', 'a', 'b', 'f', 'n', 'r', 't', 'v', 'x', 'u', 'U', 'N',
    '0', '1', '2', '3', '4', '5', '6', '7']

/-- A text has a backslash with such a character behind it. -/
def Escapes (t : Text) : Prop := ∃ c ∈ escapeCharacters, ['\\', c] <:+: t

instance (t : Text) : Decidable (Escapes t) := inferInstanceAs (Decidable (∃ _ ∈ _, _))

variable {c : Char} {t rest s : Text} {count position : Nat}

theorem escapes_cons_iff : Escapes (c :: t) ↔
    (c = '\\' ∧ ∃ d ∈ escapeCharacters, t.head? = some d) ∨ Escapes t := by
  constructor
  · rintro ⟨d, known, inside⟩
    rcases List.infix_cons_iff.mp inside with starts | later
    · obtain ⟨rfl, next⟩ := List.cons_prefix_cons.mp starts
      obtain ⟨rest, rfl⟩ := next
      exact .inl ⟨rfl, d, known, rfl⟩
    · exact .inr ⟨d, known, later⟩
  · rintro (⟨rfl, d, known, first⟩ | ⟨d, known, later⟩)
    · obtain ⟨rest, rfl⟩ := List.head?_eq_some_iff.mp first
      exact ⟨d, known, [], rest, rfl⟩
    · exact ⟨d, known, List.infix_cons later⟩

theorem escapes_cons_of_ne (other : c ≠ '\\') : Escapes (c :: t) ↔ Escapes t := by
  simp [escapes_cons_iff, other]

theorem not_escapes_nil : ¬ Escapes [] := by
  rintro ⟨c, -, inside⟩
  cases List.infix_nil.mp inside

theorem mem_escapeCharacters_of_isOctal (octal : Number.isOctal c = true) : c ∈ escapeCharacters := by
  have codes : ∀ i < 8, Char.ofNat (48 + i) ∈ escapeCharacters := by decide
  rw [Number.isOctal, Bool.and_eq_true, decide_eq_true_iff, decide_eq_true_iff] at octal
  have low : 48 ≤ c.toNat := UInt32.le_iff_toNat_le.mp octal.1
  have high : c.toNat ≤ 55 := UInt32.le_iff_toNat_le.mp octal.2
  have known := codes (c.toNat - 48) (by omega)
  rwa [Nat.add_sub_cancel' low, Char.ofNat_toNat] at known

theorem mem_escapeCharacters_iff : c ∈ escapeCharacters ↔
    c = 'N' ∨ Number.isOctal c = true ∨ (digitCount? c).isSome = true ∨ (simple? c).isSome = true := by
  constructor
  · simp only [escapeCharacters, List.mem_cons, List.not_mem_nil, or_false]
    rintro (rfl | rfl | rfl | rfl | rfl | rfl | rfl | rfl | rfl | rfl | rfl | rfl | rfl | rfl | rfl |
      rfl | rfl | rfl | rfl | rfl | rfl | rfl | rfl)
    all_goals decide
  · rintro (rfl | octal | digits | single)
    · decide
    · exact mem_escapeCharacters_of_isOctal octal
    · unfold digitCount? at digits
      split at digits
      all_goals first | decide | cases digits
    · unfold simple? at single
      split at single
      all_goals first | decide | cases single

/-- What is read of a backslash and the character behind it, and where reading goes on. -/
inductive Reads (c : Char) (rest : Text) : Text → Text → Prop
  | both : c ∉ escapeCharacters → Reads c rest ['\\', c] rest
  | escape {said after : Text} : c ∈ escapeCharacters → said.length ≤ 1 → after.length ≤ rest.length →
      Reads c rest said after

theorem length_drop_le (count : Nat) (t : Text) : (t.drop count).length ≤ t.length := by
  rw [List.length_drop]
  exact Nat.sub_le _ _

theorem length_of_named {found : Char} {taken : Nat} {after : Text}
    (read : named position t = .ok (found, taken, after)) : after.length ≤ t.length := by
  unfold named at read
  split at read
  · next rest =>
    dsimp only at read
    split at read
    · next behind =>
      split at read
      · cases read
        have suffix := List.dropWhile_suffix (p := (· != '\x7d')) (l := rest)
        rw [behind] at suffix
        have shorter := suffix.length_le
        simp only [List.length_cons] at shorter ⊢
        omega
      · cases read
    · cases read
    · cases read
  · cases read

theorem length_of_simple? {said : Text} (single : simple? c = some said) : said.length ≤ 1 := by
  unfold simple? at single
  split at single
  all_goals cases single
  all_goals decide

@[simp] theorem unescapeFrom_zero : unescapeFrom 0 position t = .ok [] := rfl

@[simp] theorem unescapeFrom_nil : unescapeFrom count position [] = .ok [] := by
  cases count <;> rfl

theorem exists_of_unescapeFrom (read : unescapeFrom (count + 1) position ('\\' :: c :: rest) = .ok s) :
    ∃ said after next later, Reads c rest said after ∧ unescapeFrom count next after = .ok later ∧
      s = said ++ later := by
  rw [unescapeFrom] at read
  -- One case for each kind of escape, in the order in which they are tried; what is none of them is read as it is.
  split at read
  · next beyond =>
    obtain ⟨later, more, rfl⟩ := map_eq_ok.mp read
    have other : c ∉ escapeCharacters := by
      intro known
      have ascii : ∀ c ∈ escapeCharacters, c.toNat < 128 := by decide
      exact Nat.not_lt.mpr beyond (ascii c known)
    exact ⟨_, _, _, later, .both other, more, rfl⟩
  split at read
  · next name =>
    split at read
    · cases read
    · next found taken after named =>
      obtain ⟨later, more, rfl⟩ := map_eq_ok.mp read
      have known := mem_escapeCharacters_iff.mpr (.inl (eq_of_beq name))
      exact ⟨[found], _, _, later, .escape known (Nat.le_refl _) (length_of_named named), more, rfl⟩
  next noName =>
  split at read
  · next octal =>
    obtain ⟨later, more, rfl⟩ := map_eq_ok.mp read
    have known := mem_escapeCharacters_iff.mpr (.inr (.inl octal))
    exact ⟨[_], _, _, later, .escape known (Nat.le_refl _) (length_drop_le _ _), more, rfl⟩
  next noOctal =>
  split at read
  · next places digits =>
    have known := mem_escapeCharacters_iff.mpr (.inr (.inr (.inl (by rw [digits]; rfl))))
    dsimp only at read
    split at read
    · cases read
    split at read
    · cases read
    · obtain ⟨later, more, rfl⟩ := map_eq_ok.mp read
      exact ⟨[_], _, _, later, .escape known (Nat.le_refl _) (length_drop_le _ _), more, rfl⟩
  · next noDigits =>
    obtain ⟨later, more, rfl⟩ := map_eq_ok.mp read
    refine ⟨_, rest, _, later, ?_, more, rfl⟩
    cases single : simple? c with
    | some said =>
      have known := mem_escapeCharacters_iff.mpr (.inr (.inr (.inr (by rw [single]; rfl))))
      exact .escape known (length_of_simple? single) (Nat.le_refl _)
    | none =>
      refine .both fun known => ?_
      rw [mem_escapeCharacters_iff, noDigits, single] at known
      rcases known with name | octal | digits | single
      · exact noName (by rw [name]; rfl)
      · exact noOctal octal
      · cases digits
      · cases single

/-- A character that begins no escape is read by itself. -/
theorem unescapeFrom_cons (other : c ≠ '\\' ∨ t = []) : unescapeFrom (count + 1) position (c :: t) =
    (unescapeFrom count (position + width c) t).map (c :: ·) := by
  rw [unescapeFrom]
  rintro d rest rfl rfl
  exact other.elim (fun differ => differ rfl) nofun

/-- A text says no more characters than it has. -/
theorem length_of_unescapeFrom (read : unescapeFrom count position t = .ok s) : s.length ≤ t.length := by
  induction count generalizing position t s with
  | zero =>
    cases unescapeFrom_zero.symm.trans read
    exact Nat.zero_le _
  | succ count ih =>
    match t with
    | [] =>
      cases unescapeFrom_nil.symm.trans read
      exact Nat.le_refl _
    | [c] =>
      rw [unescapeFrom_cons (.inr rfl)] at read
      obtain ⟨later, more, rfl⟩ := map_eq_ok.mp read
      exact Nat.succ_le_succ (ih more)
    | c :: d :: rest =>
      by_cases slash : c = '\\'
      · subst slash
        obtain ⟨said, after, next, later, reads, more, rfl⟩ := exists_of_unescapeFrom read
        have shorter := ih more
        cases reads with
        | both other => simpa using shorter
        | escape known single behind =>
          rw [List.length_append]
          simp only [List.length_cons]
          omega
      · rw [unescapeFrom_cons (.inl slash)] at read
        obtain ⟨later, more, rfl⟩ := map_eq_ok.mp read
        exact Nat.succ_le_succ (ih more)

/-- A backslash that begins no escape stands for itself, and so does the character behind it. -/
theorem exists_unescapeFrom_of_not_mem (other : c ∉ escapeCharacters) (count position : Nat) (rest : Text) :
    ∃ next, unescapeFrom (count + 1) position ('\\' :: c :: rest) =
      (unescapeFrom count next rest).map fun later => '\\' :: c :: later := by
  simp only [mem_escapeCharacters_iff, not_or, Bool.not_eq_true, Option.isSome_eq_false_iff, Option.isNone_iff_eq_none]
    at other
  obtain ⟨name, octal, digits, single⟩ := other
  rw [unescapeFrom]
  split
  · exact ⟨_, rfl⟩
  · rw [if_neg (by simpa using name), if_neg (by simp [octal]), digits, single]
    exact ⟨_, rfl⟩

/-- An escape is longer than what is read of it, so that the text behind it would have to say more than it has. -/
theorem unescapeFrom_ne_self_of_mem (known : c ∈ escapeCharacters) (count position : Nat) (rest : Text) :
    unescapeFrom (count + 1) position ('\\' :: c :: rest) ≠ .ok ('\\' :: c :: rest) := by
  intro read
  obtain ⟨said, after, next, later, reads, more, whole⟩ := exists_of_unescapeFrom read
  have fewer := length_of_unescapeFrom more
  have lengths := congrArg List.length whole
  cases reads with
  | both other => exact other known
  | escape _ single behind =>
    simp only [List.length_append, List.length_cons] at lengths
    omega

/-- A text says itself just when it has no escapes. -/
theorem unescapeFrom_eq_self_iff (long : t.length ≤ count) (position : Nat) :
    unescapeFrom count position t = .ok t ↔ ¬ Escapes t := by
  induction count generalizing position t with
  | zero =>
    rw [List.eq_nil_of_length_eq_zero (Nat.le_zero.mp long), unescapeFrom_zero]
    exact iff_of_true rfl not_escapes_nil
  | succ count ih =>
    -- A backslash is read with the character behind it.
    match t with
    | [] => exact iff_of_true unescapeFrom_nil not_escapes_nil
    | [c] =>
      rw [unescapeFrom_cons (.inr rfl), escapes_cons_iff, map_eq_ok]
      simp [not_escapes_nil]
    | c :: d :: rest =>
      have shorter : rest.length ≤ count := by
        simp only [List.length_cons] at long
        omega
      by_cases slash : c = '\\'
      · subst slash
        by_cases known : d ∈ escapeCharacters
        · refine iff_of_false (unescapeFrom_ne_self_of_mem known count position rest) fun none => ?_
          exact none (escapes_cons_iff.mpr (.inl ⟨rfl, d, known, rfl⟩))
        · obtain ⟨next, read⟩ := exists_unescapeFrom_of_not_mem known count position rest
          have behind : d ≠ '\\' := fun same => known (same ▸ by decide)
          have outer : Escapes ('\\' :: d :: rest) ↔ Escapes (d :: rest) := by
            rw [escapes_cons_iff]
            simp [known]
          rw [read, map_eq_ok_apply (fun a b same => by simpa using same), ih shorter next, outer,
            escapes_cons_of_ne behind]
      · rw [unescapeFrom_cons (.inl slash), map_eq_ok_apply (fun a b same => by simpa using same),
          ih (by simpa using long), escapes_cons_of_ne slash]

theorem unescape_eq_self_iff : unescape t = .ok t ↔ ¬ Escapes t := unescapeFrom_eq_self_iff (Nat.le_refl _) 0

/-! ### The end of a string -/

/-- Quotes that begin in a text and go on behind it stand at its end. -/
theorem not_mark_isPrefix (apart : ¬ documentMark <:+: t) (quote : t.getLast? ≠ some '"') (given : t ≠ []) :
    ¬ documentMark <+: t ++ documentMark := by
  intro front
  match t with
  | [] => exact given rfl
  | [c] =>
    obtain ⟨rfl, -⟩ := List.cons_prefix_cons.mp front
    exact quote rfl
  | [c, d] =>
    obtain ⟨-, next⟩ := List.cons_prefix_cons.mp front
    obtain ⟨rfl, -⟩ := List.cons_prefix_cons.mp next
    exact quote rfl
  | c :: d :: e :: rest =>
    obtain ⟨rfl, second⟩ := List.cons_prefix_cons.mp front
    obtain ⟨rfl, third⟩ := List.cons_prefix_cons.mp second
    obtain ⟨rfl, -⟩ := List.cons_prefix_cons.mp third
    exact apart ⟨[], rest, rfl⟩

/-- The quotes behind a text close it if it has none like them, and ends in no quote and no backslash. -/
theorem closed?_append {t : Text} (apart : ¬ documentMark <:+: t) (quote : t.getLast? ≠ some '"')
    (slash : t.getLast? ≠ some '\\') : closed? ⟨'"', true⟩ (t ++ documentMark) = some (t, []) := by
  -- A backslash is passed over with the character behind it.
  match t with
  | [] => rfl
  | c :: rest =>
    by_cases starts : c = '\\'
    · subst starts
      cases rest with
      | nil => exact absurd rfl slash
      | cons d rest =>
        have inner := closed?_append (t := rest) (fun inside => apart (List.infix_cons (List.infix_cons inside)))
          (fun last => quote (by rw [List.getLast?_cons, List.getLast?_cons, last]; rfl))
          (fun last => slash (by rw [List.getLast?_cons, List.getLast?_cons, last]; rfl))
        rw [List.cons_append, List.cons_append, closed?, inner]
        rfl
    · have opened : ¬ (Delimiter.text ⟨'"', true⟩).isPrefixOf (c :: (rest ++ documentMark)) = true := by
        rw [List.isPrefixOf_iff_prefix]
        exact not_mark_isPrefix apart quote (List.cons_ne_nil c rest)
      have inner := closed?_append (t := rest) (fun inside => apart (List.infix_cons inside))
        (fun last => quote (by rw [List.getLast?_cons, last]; rfl))
        (fun last => slash (by rw [List.getLast?_cons, last]; rfl))
      rw [List.cons_append, closed?, if_neg opened, if_neg (by simp), inner]
      · rfl
      · exact fun same => absurd same starts
      · exact fun d more same => absurd same starts

/-- Where nothing in a text means anything but itself, it can be put between triple quotes and says itself. -/
theorem isWritten_of_plain (null : '\x00' ∉ t) (apart : ¬ documentMark <:+: t) (quote : t.getLast? ≠ some '"')
    (slash : t.getLast? ≠ some '\\') (plain : ¬ Escapes t) : isWritten t = true := by
  rw [isWritten, closed?_append apart quote slash, unescape_eq_self_iff.mpr plain]
  simp [null]

/-- A text without quotes, backslashes and nulls is such a text. -/
theorem isWritten_of_not_mem (quote : '"' ∉ t) (slash : '\\' ∉ t) (null : '\x00' ∉ t) : isWritten t = true :=
  isWritten_of_plain null (fun inside => quote (inside.subset (by simp [documentMark])))
    (fun last => quote (List.mem_of_getLast? last)) (fun last => slash (List.mem_of_getLast? last))
    fun ⟨_, _, inside⟩ => slash (inside.subset (List.mem_cons_self ..))

namespace Function

/-- A document that can be put between quotes says itself just when it has no escapes. -/
theorem spoken_eq_iff {f : Function} (written : isWritten f.document = true) :
    f.spoken = f.document ↔ ¬ Escapes f.document := by
  rw [← unescape_eq_self_iff, spoken]
  cases read : unescape f.document with
  | error fault =>
    rw [isWritten, read] at written
    simp at written
  | ok said => simp [Except.toOption]

end Function

end Forwarding.Script
