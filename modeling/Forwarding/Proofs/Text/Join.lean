import Forwarding.Proofs.Text.Lines
import Forwarding.Proofs.Text.Occurs

/-! Joined texts: their characters are those of the pieces and of the separators.

Among the pieces, texts that fill a line from its first to its last character are read back from a file.
-/

set_option autoImplicit false

namespace Forwarding.Text

@[simp] theorem join_nil (separator : Text) : join separator [] = [] := rfl

@[simp] theorem join_singleton (separator piece : Text) : join separator [piece] = piece :=
  List.intercalate_singleton

@[simp] theorem join_cons_cons (separator first second : Text) (rest : List Text) :
    join separator (first :: second :: rest) =
      first ++ (separator ++ join separator (second :: rest)) := by
  simp [join, List.intercalate_cons_cons]

variable {separator : Text} {pieces : List Text}

theorem mem_join {c : Char} (member : c ∈ join separator pieces) :
    c ∈ separator ∨ ∃ piece ∈ pieces, c ∈ piece := by
  induction pieces with
  | nil => cases member
  | cons first pieces ih =>
    cases pieces with
    | nil => exact .inr ⟨first, by simp, by simpa using member⟩
    | cons second rest =>
      rw [join_cons_cons, List.mem_append, List.mem_append] at member
      rcases member with here | between | later
      · exact .inr ⟨first, by simp, here⟩
      · exact .inl between
      · exact (ih later).imp id fun ⟨piece, inside, found⟩ => ⟨piece, List.mem_cons_of_mem _ inside, found⟩

theorem not_mem_join {c : Char} (gap : c ∉ separator)
    (each : ∀ piece ∈ pieces, c ∉ piece) : c ∉ join separator pieces := fun member =>
  match mem_join member with
  | .inl inside => gap inside
  | .inr ⟨piece, found, inside⟩ => each piece found inside

theorem exists_join_cons (separator piece : Text) (pieces : List Text) :
    ∃ later, join separator (piece :: pieces) = piece ++ later := by
  cases pieces with
  | nil => exact ⟨[], by simp⟩
  | cons second pieces => exact ⟨_, join_cons_cons separator piece second pieces⟩

/-- Each piece takes room. -/
theorem length_le_join (given : ∀ piece ∈ pieces, piece ≠ []) : pieces.length ≤ (join separator pieces).length := by
  induction pieces with
  | nil => exact Nat.zero_le _
  | cons first pieces ih =>
    rw [List.forall_mem_cons] at given
    have here := List.length_pos_iff.mpr given.1
    have later := ih given.2
    cases pieces with
    | nil =>
      rw [join_singleton]
      exact here
    | cons second rest =>
      simp only [join_cons_cons, List.length_append, List.length_cons] at later ⊢
      omega

theorem length_le_join_of_mem {piece : Text} (member : piece ∈ pieces) :
    piece.length ≤ (join separator pieces).length := by
  induction pieces with
  | nil => cases member
  | cons first pieces ih =>
    cases pieces with
    | nil => rw [List.mem_singleton.mp member, join_singleton]
    | cons second rest =>
      rw [join_cons_cons, List.length_append, List.length_append]
      rcases List.mem_cons.mp member with rfl | later
      · omega
      · have := ih later
        omega

theorem filter_join {p : Char → Bool} (dropped : separator.filter p = []) :
    (join separator pieces).filter p = pieces.flatten.filter p := by
  induction pieces with
  | nil => rfl
  | cons first pieces ih =>
    cases pieces with
    | nil => simp
    | cons second rest => rw [join_cons_cons, List.flatten_cons]; simp [dropped, ih]

theorem Unbroken.join (gap : Unbroken separator) (unbroken : ∀ piece ∈ pieces, Unbroken piece) :
    Unbroken (join separator pieces) := fun c member =>
  (mem_join member).elim (gap c) fun ⟨piece, inside, found⟩ => unbroken piece inside c found

theorem not_pair_join {a : Char} (between : ¬ [a, a] <:+: separator)
    (apart : separator.head? ≠ some a ∧ separator.getLast? ≠ some a) (gap : separator ≠ [])
    (each : ∀ piece ∈ pieces, ¬ [a, a] <:+: piece) : ¬ [a, a] <:+: Text.join separator pieces := by
  induction pieces with
  | nil => simp
  | cons first pieces ih =>
    rw [List.forall_mem_cons] at each
    cases pieces with
    | nil => simpa using each.1
    | cons second rest =>
      rw [join_cons_cons]
      refine not_pair_append each.1 (not_pair_append between (ih each.2) (.inl apart.2)) (.inr ?_)
      cases separator with
      | nil => exact absurd rfl gap
      | cons c separator => exact apart.1

/-! ### Texts that fill a line

A file drops the blanks at its end, so of lines that are inline it drops the empty ones at the end and
no others.
-/

/-- A text on one line, with no blanks around it. -/
structure Inline (t : Text) : Prop where
  unbroken : Unbroken t
  stripped : strip t = t

instance (t : Text) : Decidable (Inline t) :=
  decidable_of_iff (Unbroken t ∧ strip t = t) ⟨fun ⟨unbroken, stripped⟩ => ⟨unbroken, stripped⟩,
    fun inline => ⟨inline.unbroken, inline.stripped⟩⟩

namespace Inline

theorem nil : Inline [] := ⟨by simp [Unbroken], rfl⟩

variable {s t : Text}

theorem head (inline : Inline t) {c : Char} (first : t.head? = some c) : isBlank c = false :=
  head?_strip (by rwa [inline.stripped])

theorem last (inline : Inline t) {c : Char} (last : t.getLast? = some c) : isBlank c = false :=
  getLast?_strip (by rwa [inline.stripped])

theorem append (unbroken : Unbroken s) (first : ∀ c, s.head? = some c → isBlank c = false)
    (given : t ≠ []) (rest : Inline t) : Inline (s ++ t) := by
  refine ⟨unbroken.append rest.unbroken, strip_eq_self (fun c head => ?_) fun c last => ?_⟩
  · cases s with
    | nil => exact rest.head head
    | cons d s => exact first c head
  · rw [List.getLast?_append] at last
    cases behind : t.getLast? with
    | none => exact absurd (List.getLast?_eq_none_iff.mp behind) given
    | some d =>
      rw [behind] at last
      cases last
      exact rest.last behind

theorem of_solid (solid : ∀ c ∈ t, isBlank c = false) : Inline t :=
  ⟨.of_solid solid, strip_eq_self (fun c first => solid c (List.mem_of_head? first))
    fun c last => solid c (List.mem_of_getLast? last)⟩

theorem of_strip (unbroken : Unbroken t) : Inline (strip t) :=
  ⟨unbroken.of_infix (strip_isInfix t), strip_strip t⟩

end Inline

theorem ofLines_eq_join {rows : List Text} (given : rows ≠ []) :
    ofLines rows = join ['\n'] rows ++ ['\n'] := by
  induction rows with
  | nil => exact absurd rfl given
  | cons row rows ih =>
    cases rows with
    | nil => simp [ofLines]
    | cons next rest =>
      rw [join_cons_cons, List.append_assoc, List.append_assoc, ← ih (by simp)]
      simp [ofLines]

theorem join_concat {separator row : Text} {rows : List Text} (given : rows ≠ []) :
    join separator (rows ++ [row]) = join separator rows ++ (separator ++ row) := by
  induction rows with
  | nil => exact absurd rfl given
  | cons first rows ih =>
    cases rows with
    | nil => simp
    | cons next rest => simpa using ih (by simp)

theorem getLast?_join_concat {separator row : Text} (rows : List Text) (given : row ≠ []) :
    (join separator (rows ++ [row])).getLast? = row.getLast? := by
  cases rows with
  | nil => simp
  | cons first rest =>
    rw [join_concat (List.cons_ne_nil first rest), ← List.append_assoc, List.getLast?_append,
      List.getLast?_eq_some_getLast given]
    rfl

/-- The lines of a file are those that it was written from, up to empty ones at its end. -/
theorem lines_stripEnd_join {rows : List Text} (inline : ∀ row ∈ rows, Inline row) :
    ∃ kept count, rows = kept ++ List.replicate count [] ∧
      lines (stripEnd (join ['\n'] rows) ++ ['\n']) = if kept = [] then [[]] else kept := by
  obtain ⟨back, rfl⟩ : ∃ back : List Text, rows = back.reverse := ⟨rows.reverse, by simp⟩
  -- From the last line on: an empty one is dropped, and any other one keeps all of them.
  induction back with
  | nil => exact ⟨[], 0, rfl, rfl⟩
  | cons row back ih =>
    rw [List.reverse_cons] at inline ⊢
    by_cases empty : row = []
    · subst empty
      obtain ⟨kept, count, parts, same⟩ := ih fun row member => inline row (by simp [member])
      refine ⟨kept, count + 1, by rw [parts, List.append_assoc, List.replicate_succ'], ?_⟩
      rw [← same]
      cases front : back.reverse with
      | nil => rfl
      | cons first rest =>
        have feed : ∀ c ∈ ['\n'] ++ [], isBlank c = true := fun c member => by
          rw [List.append_nil, List.mem_singleton] at member
          rw [member]
          rfl
        rw [join_concat (List.cons_ne_nil first rest), stripEnd, dropEnd_append_of_all _ feed]
        rfl
    · refine ⟨back.reverse ++ [row], 0, by simp, ?_⟩
      have last : stripEnd (join ['\n'] (back.reverse ++ [row])) = join ['\n'] (back.reverse ++ [row]) := by
        refine dropEnd_eq_self fun c last => (inline row (by simp)).last ?_
        rwa [getLast?_join_concat _ empty] at last
      rw [last, ← ofLines_eq_join (by simp), lines_ofLines fun row member => (inline row member).unbroken,
        if_neg (by simp)]

end Forwarding.Text
