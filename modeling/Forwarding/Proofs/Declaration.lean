import Forwarding.Declaration
import Forwarding.Proofs.Text.Name
import Forwarding.Proofs.Text.Occurs

/-! Checks made one after the other, and the checks of a row's names. -/

set_option autoImplicit false

namespace Forwarding.Checks

variable {α β ε : Type}

theorem bind_eq_ok {first : Except ε α} {next : α → Except ε β} {b : β} :
    first >>= next = .ok b ↔ ∃ a, first = .ok a ∧ next a = .ok b := by
  cases first <;> simp [Bind.bind, Except.bind]

theorem bind_eq_error {first : Except ε α} {next : α → Except ε β} {e : ε} :
    first >>= next = .error e ↔ first = .error e ∨ ∃ a, first = .ok a ∧ next a = .error e := by
  cases first <;> simp [Bind.bind, Except.bind]

theorem seq_eq_ok {first : Except ε Unit} {next : Unit → Except ε β} {b : β} :
    first >>= next = .ok b ↔ first = .ok () ∧ next () = .ok b := by
  cases first <;> simp [Bind.bind, Except.bind]

theorem seq_eq_error {first : Except ε Unit} {next : Unit → Except ε β} {e : ε} :
    first >>= next = .error e ↔ first = .error e ∨ first = .ok () ∧ next () = .error e := by
  cases first <;> simp [Bind.bind, Except.bind]

@[simp] theorem ok_bind (a : α) (next : α → Except ε β) :
    (Except.ok a : Except ε α) >>= next = next a := rfl

@[simp] theorem error_bind (e : ε) (next : α → Except ε β) :
    (Except.error e : Except ε α) >>= next = .error e := rfl

theorem map_eq_ok {f : α → β} {x : Except ε α} {b : β} : x.map f = .ok b ↔ ∃ a, x = .ok a ∧ f a = b := by
  cases x <;> simp [Except.map]

theorem map_eq_ok_apply {f : α → β} (injective : ∀ a b, f a = f b → a = b) {x : Except ε α} {a : α} :
    x.map f = .ok (f a) ↔ x = .ok a := by
  rw [map_eq_ok]
  constructor
  · rintro ⟨b, rfl, same⟩
    rw [injective b a same]
  · rintro rfl
    exact ⟨a, rfl, rfl⟩

theorem forM_eq_ok {check : α → Except ε Unit} {items : List α} :
    items.forM check = .ok () ↔ ∀ item ∈ items, check item = .ok () := by
  induction items with
  | nil => simp [pure, Except.pure]
  | cons item rest ih =>
    simp only [List.forM_eq_forM, List.forM_cons, List.forall_mem_cons] at ih ⊢
    rw [seq_eq_ok, ih]

/-- The first item that is refused. -/
theorem forM_eq_error {check : α → Except ε Unit} {items : List α} {e : ε} : items.forM check = .error e ↔
    ∃ before item after, items = before ++ item :: after ∧ (∀ other ∈ before, check other = .ok ()) ∧
      check item = .error e := by
  induction items with
  | nil => simp [pure, Except.pure]
  | cons first rest ih =>
    simp only [List.forM_eq_forM, List.forM_cons] at ih ⊢
    rw [seq_eq_error, ih]
    constructor
    · rintro (here | ⟨passed, before, item, after, rfl, fine, refused⟩)
      · exact ⟨[], first, rest, rfl, by simp, here⟩
      · exact ⟨first :: before, item, after, rfl, List.forall_mem_cons.mpr ⟨passed, fine⟩, refused⟩
    -- The first item is refused itself if nothing comes before the refused one, and has passed otherwise.
    · rintro ⟨before, item, after, parts, fine, refused⟩
      cases before with
      | nil =>
        cases parts
        exact .inl refused
      | cons other before =>
        cases parts
        rw [List.forall_mem_cons] at fine
        exact .inr ⟨fine.1, before, item, after, rfl, fine.2, refused⟩

theorem exists_of_forM_eq_error {check : α → Except ε Unit} {items : List α} {e : ε}
    (refused : items.forM check = .error e) : ∃ item ∈ items, check item = .error e := by
  obtain ⟨before, item, after, parts, -, refusal⟩ := forM_eq_error.mp refused
  exact ⟨item, by simp [parts], refusal⟩

theorem mapM_eq_ok {step : α → Except ε β} {items : List α} {results : List β} :
    items.mapM step = .ok results ↔ items.map step = results.map .ok := by
  induction items generalizing results with
  | nil => cases results <;> simp [pure, Except.pure]
  | cons item rest ih =>
    rw [List.mapM_cons, bind_eq_ok]
    simp only [bind_eq_ok, ih]
    constructor
    · rintro ⟨first, here, others, later, same⟩
      cases same
      rw [List.map_cons, List.map_cons, here, later]
    · intro same
      cases results with
      | nil => cases same
      | cons first others =>
        obtain ⟨here, later⟩ := List.cons.inj same
        exact ⟨first, here, others, later, rfl⟩

theorem exists_mapM_eq_ok {step : α → Except ε β} {items : List α} :
    (∃ results, items.mapM step = .ok results) ↔ ∀ item ∈ items, ∃ b, step item = .ok b := by
  induction items with
  | nil => simp [pure, Except.pure]
  | cons item rest ih =>
    rw [List.forall_mem_cons, ← ih, List.mapM_cons]
    simp only [bind_eq_ok]
    constructor
    · rintro ⟨-, first, here, others, later, -⟩
      exact ⟨⟨first, here⟩, others, later⟩
    · rintro ⟨⟨first, here⟩, others, later⟩
      exact ⟨first :: others, first, here, others, later, rfl⟩

/-- What comes out is what the items give one by one. -/
theorem mem_of_mapM_eq_ok {step : α → Except ε β} {items : List α} {results : List β}
    (done : items.mapM step = .ok results) {b : β} : b ∈ results ↔ ∃ item ∈ items, step item = .ok b := by
  have own : b ∈ results ↔ (Except.ok b : Except ε β) ∈ results.map .ok := by simp
  rw [own, ← mapM_eq_ok.mp done, List.mem_map]

end Forwarding.Checks

/-! ### Names of rows -/

namespace Forwarding

open Text

namespace Text

theorem isIdentifierRest_of_isIdentifier {t : Text} (named : isIdentifier t = true) {c : Char}
    (member : c ∈ t) : c = '\n' ∨ isIdentifierRest c = true := by
  have core : c = '\n' ∨ c ∈ dropNewline t := by
    rw [dropNewline]
    split
    · next last =>
      obtain ⟨front, rfl⟩ := List.getLast?_eq_some_iff.mp (eq_of_beq last)
      simpa [or_comm] using member
    · exact .inr member
  exact core.imp id ((name_of_isIdentifierCore named).rest c)

end Text

namespace Declaration

theorem symbol_eq_of_key_eq {first second : Declaration} (same : first.key = second.key) :
    first.symbol = second.symbol := by
  simp only [key, Key.mk.injEq] at same
  simp [symbol, same]

theorem checkNames_eq_ok_iff {d : Declaration} : d.checkNames = .ok () ↔
    isIdentifier (flat d.subjectName) = true ∧ isIdentifier d.method = true ∧ strip d.result ≠ [] ∧
      isIdentifier d.symbol = true := by
  simp only [checkNames]
  repeat' split
  all_goals simp_all

theorem not_mem_of_checkNames {d : Declaration} (accepted : d.checkNames = .ok ()) {c : Char}
    (solid : isBlank c = false) (other : isIdentifierRest c = false) (mark : c ∉ ['&', '*', ':']) :
    c ∉ d.subject ∧ c ∉ d.method ∧ c ∉ d.tag := by
  have outside : ∀ {t : Text}, isIdentifier t = true → c ∉ t := fun named member => by
    rcases isIdentifierRest_of_isIdentifier named member with rfl | rest
    · revert solid; decide
    · rw [other] at rest; cases rest
  obtain ⟨subject, method, -, symbol⟩ := checkNames_eq_ok_iff.mp accepted
  simp only [List.mem_cons, List.not_mem_nil, or_false, not_or] at mark
  refine ⟨fun member => outside subject ?_, outside method, fun member => outside symbol ?_⟩
  -- Neither dropping the marks at the end nor stripping takes the character away from the name that is checked.
  · obtain ⟨marks, parts, all⟩ := exists_dropEnd Spelling.isDeclarator d.subject
    refine mem_replace (by simpa using mark.2.2) (mem_strip ?_ solid)
    rw [parts, List.mem_append] at member
    refine member.resolve_right fun late => ?_
    simpa [Spelling.isDeclarator, mark] using all c late
  · simp [Declaration.symbol, symbolOf, member]

theorem kind_of_checkNames {d : Declaration} {fault : Fault} (refused : d.checkNames = .error fault) :
    fault.cause.kind = .invalidRow := by
  rw [checkNames] at refused
  repeat' split at refused
  all_goals cases refused
  all_goals rfl

end Declaration

end Forwarding
