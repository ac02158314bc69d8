import Forwarding.Proofs.Forwarder
import Forwarding.Proofs.Table.Roundtrip
import Forwarding.Proofs.Text.Join

/-! Rows as they are rendered: their names are names, and nothing of them breaks a line. -/

set_option autoImplicit false

namespace Forwarding

open Text

theorem Text.isIdentifierCore_of_not_mem_feed {t : Text} (named : isIdentifier t = true) (plain : '\n' ∉ t) :
    isIdentifierCore t = true := by
  have whole : dropNewline t = t := by
    rw [dropNewline, if_neg]
    intro last
    exact plain (List.mem_of_getLast? (eq_of_beq last))
  rwa [isIdentifier, whole] at named

/-- A line feed in a name can only be its last character. -/
theorem Text.isIdentifierCore_append_of_not_mem_feed {s t : Text} (named : isIdentifier (s ++ t) = true)
    (given : t ≠ []) (plain : '\n' ∉ t) : isIdentifierCore (s ++ t) = true := by
  have whole : dropNewline (s ++ t) = s ++ t := by
    rw [dropNewline, if_neg]
    intro last
    rw [beq_iff_eq, List.getLast?_append_of_ne_nil _ given] at last
    exact plain (List.mem_of_getLast? last)
  rwa [isIdentifier, whole] at named

theorem Parameters.name_of_mem_names {n : Nat} {name : Text} (member : name ∈ names n) : Name name := by
  obtain ⟨i, -, rfl⟩ := List.mem_map.mp member
  refine ⟨List.cons_ne_nil _ _, List.forall_mem_cons.mpr ⟨by decide, fun c inside => ?_⟩⟩
  exact isIdentifierRest_of_mem_decimal inside

theorem Parameters.unbroken_of_mem_names {n : Nat} {name : Text} (member : name ∈ names n) : Unbroken name :=
  .of_solid (name_of_mem_names member).solid

theorem Parameters.unbroken_join_names (n : Nat) : Unbroken (join ", " (names n)) :=
  .join (.of_all rfl) fun _ => unbroken_of_mem_names

theorem Text.unbroken_of_isIdentifierCore {t : Text} (core : isIdentifierCore t = true) : Unbroken t :=
  .of_solid (name_of_isIdentifierCore core).solid

/-- What a rendition relies on in a row. -/
structure Declaration.Renderable (d : Declaration) : Prop where
  symbol : isIdentifierCore d.symbol = true
  method : isIdentifierCore d.method = true
  subject : Unbroken d.subjectName
  result : Unbroken d.result
  parameters : ∀ type ∈ d.parameters, Unbroken type
  heading : Unbroken d.heading

namespace Declaration

variable {d : Declaration}

theorem subjectName_isInfix (d : Declaration) : d.subjectName <:+: d.subject := by
  obtain ⟨marks, parts, -⟩ := exists_dropEnd Spelling.isDeclarator d.subject
  exact (strip_isInfix _).trans ⟨[], marks, parts.symm⟩

theorem Writable.renderable (writable : d.Writable) (heading : Inline d.heading)
    (accepted : d.checkNames = .ok ()) : d.Renderable := by
  have field : ∀ a ∈ d.fields, Unbroken a := fun a member => (writable.fields a member).inline.unbroken
  obtain ⟨-, method, -, symbol⟩ := checkNames_eq_ok_iff.mp accepted
  have plainMethod : '\n' ∉ d.method := (field d.method (by simp [Declaration.fields])).not_mem_feed
  have plainTag : '\n' ∉ d.tag := by
    by_cases empty : d.tag = []
    · rw [empty]
      exact List.not_mem_nil
    · exact (field d.tag (by simp [Declaration.fields, empty])).not_mem_feed
  have subject : Unbroken d.subject := field d.subject (by simp [Declaration.fields])
  have parts : d.symbol = flat (bare d.subjectName) ++ ('_' :: (d.method ++ d.tag)) := by
    simp [Declaration.symbol, symbolOf]
  refine ⟨?_, isIdentifierCore_of_not_mem_feed method plainMethod, subject.of_infix d.subjectName_isInfix,
    field d.result (by simp [Declaration.fields]),
    fun type member => field type (by simp [Declaration.fields, member]), heading.unbroken⟩
  rw [parts] at symbol ⊢
  -- The subject can hold no line feed either way: it is not what the symbol ends in.
  refine isIdentifierCore_append_of_not_mem_feed symbol (List.cons_ne_nil _ _) ?_
  simpa using ⟨plainMethod, plainTag⟩

theorem Renderable.signature (row : d.Renderable) : Unbroken d.signature := by
  have method := unbroken_of_isIdentifierCore row.method
  have types : Unbroken (join ", " d.parameters) := .join (.of_all rfl) row.parameters
  unfold Declaration.signature
  exact ((((((row.result.append (.of_all rfl)).append row.subject).append (.of_all rfl)).append method).append
    (.of_all rfl)).append types).append (.of_all rfl)

end Declaration

namespace Table

variable {t : Table} {source text : Text}

theorem renderable_of_read (read : Table.read source text = .ok t) (valid : t.validate = .ok ()) :
    ∀ d ∈ t.rows, d.Renderable := by
  intro d row
  have written := (writable_of_read read).rows d row
  exact written.1.renderable written.2 (checkNames_of_validate valid row)

end Table

end Forwarding
