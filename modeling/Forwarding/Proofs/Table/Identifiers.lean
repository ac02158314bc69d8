import Forwarding.Proofs.Rendition.Rows
import Forwarding.Proofs.Table.Atomicity
import Forwarding.Proofs.Table.Course

/-! The names that get past validation, in a table that is built in any way.

The check of a name takes a line feed at its end for the end of the text. So a name that passes is an identifier, or
an identifier with one line feed behind it, and `identifiers_iff` says when a valid table has only the former. A
table that has been read is one of these: its lines have no line feed to give.
-/

set_option autoImplicit false

namespace Forwarding

open Text Checks

namespace Text

/-- Unaccented letters, digits and underscores, at least one of them, and no digit first. -/
structure Identifier (t : Text) : Prop where
  given : t ≠ []
  characters : ∀ c ∈ t, ('a' ≤ c ∧ c ≤ 'z') ∨ ('A' ≤ c ∧ c ≤ 'Z') ∨ ('0' ≤ c ∧ c ≤ '9') ∨ c = '_'
  first : ∀ c, t.head? = some c → ¬ ('0' ≤ c ∧ c ≤ '9')

variable {t name : Text} {c : Char}

theorem isDigit_iff : c.isDigit = true ↔ '0' ≤ c ∧ c ≤ '9' := by
  rw [Char.isDigit, Bool.and_eq_true, decide_eq_true_iff, decide_eq_true_iff]
  exact Iff.rfl

theorem isIdentifierRest_iff : isIdentifierRest c = true ↔
    ('a' ≤ c ∧ c ≤ 'z') ∨ ('A' ≤ c ∧ c ≤ 'Z') ∨ ('0' ≤ c ∧ c ≤ '9') ∨ c = '_' := by
  have lower : c.isLower = true ↔ 'a' ≤ c ∧ c ≤ 'z' :=
    Bool.and_eq_true_iff.trans (and_congr decide_eq_true_iff decide_eq_true_iff)
  have upper : c.isUpper = true ↔ 'A' ≤ c ∧ c ≤ 'Z' := decide_eq_true_iff
  have letter : c.isAlpha = true ↔ c.isUpper = true ∨ c.isLower = true := Bool.or_eq_true_iff
  rw [isIdentifierRest, Char.isAlphanum, Bool.or_eq_true, Bool.or_eq_true, letter, lower, upper, isDigit_iff,
    beq_iff_eq, or_assoc, or_assoc]
  exact or_left_comm

theorem identifier_iff : Identifier t ↔ isIdentifierCore t = true := by
  constructor
  · intro identifier
    have name : Name t := ⟨identifier.given, fun c member => isIdentifierRest_iff.mpr (identifier.characters c member)⟩
    rw [← name.isIdentifier_eq, name.isIdentifier_iff]
    intro c first
    rw [← Bool.not_eq_true, isDigit_iff]
    exact identifier.first c first
  · intro core
    have name := name_of_isIdentifierCore core
    refine ⟨name.given, fun c member => isIdentifierRest_iff.mp (name.rest c member), fun c first => ?_⟩
    rw [← name.isIdentifier_eq, name.isIdentifier_iff] at core
    rw [← isDigit_iff, core c first]
    decide

theorem Identifier.not_mem_feed (identifier : Identifier t) : '\n' ∉ t := fun member => by
  have range := identifier.characters '\n' member
  revert range
  decide

/-- A name that the check lets through: an identifier, or one that ends in a line feed. -/
def Passable (t : Text) : Prop := Identifier t ∨ ∃ name, Identifier name ∧ t = name ++ ['\n']

theorem isIdentifier_iff_passable : isIdentifier t = true ↔ Passable t := by
  constructor
  · intro named
    cases t with
    | nil => cases named
    | cons =>
      rw [isIdentifier, dropNewline] at named
      split at named
      · next last =>
        obtain ⟨front, parts⟩ := List.getLast?_eq_some_iff.mp (eq_of_beq last)
        rw [parts, List.dropLast_concat] at named
        exact .inr ⟨front, identifier_iff.mpr named, parts⟩
      · exact .inl (identifier_iff.mpr named)
  · rintro (identifier | ⟨name, identifier, rfl⟩)
    · exact isIdentifier_of_isIdentifierCore (identifier_iff.mp identifier)
    · rw [isIdentifier, dropNewline, List.getLast?_concat, if_pos (beq_self_eq_true _), List.dropLast_concat]
      exact identifier_iff.mp identifier

theorem Passable.identifier_iff (passable : Passable t) : Identifier t ↔ '\n' ∉ t := by
  rcases passable with identifier | ⟨name, -, rfl⟩
  · exact ⟨fun _ => identifier.not_mem_feed, fun _ => identifier⟩
  · exact ⟨Identifier.not_mem_feed, fun plain => absurd (List.mem_append_right name List.mem_cons_self) plain⟩

/-- What stands in front of something has no line feed: this one can only be the last character. -/
theorem Passable.not_mem_feed {front rest : Text} (passable : Passable (front ++ rest)) (given : rest ≠ []) :
    '\n' ∉ front := by
  rcases passable with identifier | ⟨name, identifier, parts⟩
  · exact fun member => identifier.not_mem_feed (List.mem_append_left rest member)
  · have core : front ++ rest.dropLast = name := by
      rw [← List.dropLast_append_of_ne_nil given, parts, List.dropLast_concat]
    exact fun member => identifier.not_mem_feed (core ▸ List.mem_append_left _ member)

end Text

namespace Declaration

variable {d : Declaration}

/-- The class has no part in it: its name stands in front of an underscore. -/
theorem feed_mem_symbol_iff (accepted : d.checkNames = .ok ()) : '\n' ∈ d.symbol ↔ '\n' ∈ d.method ∨ '\n' ∈ d.tag := by
  obtain ⟨-, -, -, symbol⟩ := checkNames_eq_ok_iff.mp accepted
  have parts : d.symbol = flat (bare d.subjectName) ++ ('_' :: (d.method ++ d.tag)) := by
    simp [Declaration.symbol, symbolOf]
  rw [parts] at symbol ⊢
  have subject := (isIdentifier_iff_passable.mp symbol).not_mem_feed (List.cons_ne_nil _ _)
  simp [subject]

end Declaration

namespace Table

/-- The names that end up in a rendition: of the functions, the methods and the aliases. -/
def names (t : Table) : List Text := t.rows.map Declaration.symbol ++ t.rows.map Declaration.method ++ t.aliasNames

variable {t other next : Table}

theorem forall_mem_names {p : Text → Prop} : (∀ name ∈ t.names, p name) ↔
    (∀ d ∈ t.rows, p d.symbol ∧ p d.method) ∧ ∀ a ∈ t.aliases, p a.name := by
  simp only [names, aliasNames, List.forall_mem_append, List.forall_mem_map]
  constructor
  · rintro ⟨⟨symbols, methods⟩, aliases⟩
    exact ⟨fun d row => ⟨symbols d row, methods d row⟩, aliases⟩
  · rintro ⟨rows, aliases⟩
    exact ⟨⟨fun d row => (rows d row).1, fun d row => (rows d row).2⟩, aliases⟩

theorem passable_apply {call : Call} (made : call.apply t = .ok next) (passed : ∀ a ∈ t.aliases, Passable a.name) :
    ∀ a ∈ next.aliases, Passable a.name := by
  cases call with
  | register name underlying origin =>
    obtain ⟨named, -, rfl⟩ := register_eq_ok_iff.mp made
    refine List.forall_mem_append.mpr ⟨passed, fun a member => ?_⟩
    rw [List.mem_singleton.mp member]
    exact isIdentifier_iff_passable.mp named
  | declare d =>
    cases made
    exact passed
  | addInclude header =>
    cases made
    rw [addInclude_aliases]
    exact passed
  | addNote n =>
    cases made
    exact passed

/-- Appending moves aliases, or some of them when it is refused, and renames none. -/
theorem passable_merge (reachable : Reachable other) (first : ∀ a ∈ t.aliases, Passable a.name)
    (second : ∀ a ∈ other.aliases, Passable a.name) : ∀ a ∈ (t.merge other).1.aliases, Passable a.name := by
  by_cases apart : t.Apart other
  · rw [merge_of_apart apart reachable.nodup]
    exact List.forall_mem_append.mpr ⟨first, List.forall_mem_map.mpr second⟩
  · obtain ⟨fault, refused⟩ := merge_of_not_apart reachable.nodup apart
    -- Some aliases are left when the rest is refused, and they are those of the second table.
    rw [refused]
    refine List.forall_mem_append.mpr ⟨first, List.forall_mem_map.mpr fun a left => ?_⟩
    exact second a ((List.takeWhile_prefix _).mem left)

namespace Reachable

/-- What each call keeps: an alias name has been checked. -/
theorem passable (reachable : Reachable t) : ∀ a ∈ t.aliases, Passable a.name := by
  induction reachable with
  | empty => exact fun a none => nomatch none
  | @call t call _ ih =>
    unfold Call.perform
    split
    · next next made => exact passable_apply made ih
    · exact ih
  | addSource source _ ih => exact ih
  | merge _ reachable first second => exact passable_merge reachable first second

/-- Reading makes calls too. -/
theorem of_read {source text : Text} (read : Table.read source text = .ok t) : Reachable t := by
  obtain ⟨calls, -, -, -, made⟩ := read_eq_ok_iff.mp read
  exact (Reachable.empty.addSource source).of_replay made

end Reachable

theorem identifiers_of_read {source text : Text} (read : Table.read source text = .ok t)
    (valid : t.validate = .ok ()) : ∀ name ∈ t.names, Identifier name := by
  refine forall_mem_names.mpr ⟨fun d row => ?_, fun a member => ?_⟩
  · have renderable := renderable_of_read read valid d row
    exact ⟨identifier_iff.mpr renderable.symbol, identifier_iff.mpr renderable.method⟩
  · exact identifier_iff.mpr ((settled_of_read read).names a member)

/-- In a table that is valid, each name is an identifier, or one that a line feed ends. They are all identifiers just
when no method, tag or alias name was given with a line feed, and in particular when the table has been read. -/
theorem identifiers_iff (reachable : Reachable t) (valid : t.validate = .ok ()) :
    (∀ name ∈ t.names, Passable name) ∧
    ((∀ name ∈ t.names, Identifier name) ↔
      (∀ d ∈ t.rows, '\n' ∉ d.method ∧ '\n' ∉ d.tag) ∧ ∀ a ∈ t.aliases, '\n' ∉ a.name) ∧
    (∀ source text, Table.read source text = .ok t → ∀ name ∈ t.names, Identifier name) := by
  have accepted : ∀ d ∈ t.rows, d.checkNames = .ok () := fun d row => checkNames_of_validate valid row
  have passed : ∀ name ∈ t.names, Passable name := by
    refine forall_mem_names.mpr ⟨fun d row => ?_, reachable.passable⟩
    obtain ⟨-, method, -, symbol⟩ := Declaration.checkNames_eq_ok_iff.mp (accepted d row)
    exact ⟨isIdentifier_iff_passable.mp symbol, isIdentifier_iff_passable.mp method⟩
  refine ⟨passed, ?_, fun source text read => identifiers_of_read read valid⟩
  have plain : (∀ name ∈ t.names, Identifier name) ↔ ∀ name ∈ t.names, '\n' ∉ name :=
    forall₂_congr fun name member => (passed name member).identifier_iff
  rw [plain, forall_mem_names]
  refine and_congr_left fun _ => forall₂_congr fun d row => ?_
  rw [Declaration.feed_mem_symbol_iff (accepted d row), not_or]
  exact and_iff_left_of_imp And.left

namespace Call

/-- Calls that give a method and an alias name with a line feed. -/
def fed : List Call := [
  .register "Index\n" "int" none, .declare { subject := "IActor", result := "Index", method := "get\n" }]

end Call

theorem identifiers_iff_fed : ∃ t, replay {} Call.fed = .ok t ∧ t.validate = .ok () ∧
    (∀ name ∈ t.names, Passable name) ∧ ¬ ∀ name ∈ t.names, Identifier name := by
  have reachable := @Reachable.of_replay _ _ Call.fed .empty rfl
  obtain ⟨passed, all, -⟩ := identifiers_iff reachable (by decide +kernel)
  refine ⟨_, rfl, by decide +kernel, passed, ?_⟩
  rw [all]
  decide

/-- A valid table has a method, a function and an alias with a line feed in their names. -/
theorem not_identifiers_of_valid :
    ¬ ∀ t, Reachable t → t.validate = .ok () → ∀ name ∈ t.names, Identifier name := by
  intro all
  have reachable := @Reachable.of_replay _ _ Call.fed .empty rfl
  have identifier := all _ reachable (by decide +kernel) "IActor_get\n".toList (by decide +kernel)
  exact identifier.not_mem_feed (by decide)

end Table

end Forwarding
