import Forwarding.Proofs.Forwarder
import Forwarding.Proofs.Rendition.Rows
import Forwarding.Proofs.Spelling.Arguments
import Forwarding.Rendition.Sheet

/-! Counting the parameters of an emitted function by the commas of its parameter list.

The list is one text, so that a bracket which one type leaves open takes the commas behind it away from
the count. Validation looks at each type by itself and lets such a type pass; of the rows that are read
from a text only the last type can be one.
-/

set_option autoImplicit false

namespace Forwarding

open Text Spelling

/-! ### What stands around a type in the list -/

theorem Spelling.isBracket_of_isIdentifierRest {c : Char} (rest : isIdentifierRest c = true) :
    isBracket c = false := by
  cases mark : isBracket c with
  | false => rfl
  | true =>
    simp only [isBracket, isOpener, Bool.or_eq_true, beq_iff_eq] at mark
    rcases mark with ((((rfl | rfl) | rfl) | rfl) | rfl) | rfl <;> cases rest

theorem Text.Name.neutral {t : Text} (name : Name t) : Neutral t := by
  refine fun c member => ⟨isBracket_of_isIdentifierRest (name.rest c member), ?_⟩
  rintro rfl
  exact absurd (name.rest ',' member) (by decide)

theorem Declaration.neutral_subjectParameter {d : Declaration} (accepted : d.checkNames = .ok ()) :
    Neutral d.subjectParameter := by
  have marks : Neutral (if d.byReference then "&" else "*" : Text) := by
    split <;> simp [Neutral, isBracket, isOpener]
  refine Neutral.append (fun c member => ?_) marks
  -- A bracket or a comma is neither a blank nor a character of a name, so that no accepted subject has it.
  have foreign : ∀ mark ∈ ['(', '[', '\x7b', ')', ']', '\x7d', ','], c ≠ mark := by
    rintro mark listed rfl
    have kind : ∀ mark ∈ ['(', '[', '\x7b', ')', ']', '\x7d', ','],
        isBlank mark = false ∧ isIdentifierRest mark = false ∧ mark ∉ ['&', '*', ':'] := by decide
    obtain ⟨solid, other, mark⟩ := kind c listed
    exact (not_mem_of_checkNames accepted solid other mark).1 (d.subjectName_isInfix.subset member)
  simp only [List.forall_mem_cons] at foreign
  simp [isBracket, isOpener, foreign]

/-! ### The pieces of a parameter list -/

namespace Rendition

/-- The pieces of a parameter list count the parameters: the subject comes first, and behind it each
parameter stands at its position under its name. -/
structure Positions (arity : Nat) (pieces : List Text) : Prop where
  length : pieces.length = arity + 1
  subject : ∃ piece, pieces[0]? = some piece ∧ "subject".toList <:+ piece
  parameters : ∀ i < arity, ∃ piece, pieces[i + 1]? = some piece ∧ Parameters.positional (i + 1) <:+ piece

/-- A type with its name. -/
def unitArgument (entry : Text × Text) : Text := entry.1 ++ (" ".toList ++ entry.2)

/-- What the commas of a parameter list stand between. -/
def unitArguments (f : Forwarder) : List Text :=
  (f.row.subjectParameter ++ " subject") :: f.parameters.formal.map unitArgument

theorem unitParameters_eq (f : Forwarder) : unitParameters f = join ", " (unitArguments f) := by
  have same : (fun entry : Text × Text => entry.1 ++ (" ".toList ++ entry.2)) = unitArgument := rfl
  simp only [unitParameters, unitArguments, List.append_assoc, same]

theorem neutral_of_mem_names {n : Nat} {name : Text} (member : name ∈ Parameters.names n) :
    Neutral (" ".toList ++ name) :=
  Neutral.append (by simp [Neutral, isBracket, isOpener]) (Parameters.name_of_mem_names member).neutral

variable {d : Declaration}

theorem unitArguments_make (d : Declaration) : unitArguments (.make d) =
    (d.subjectParameter ++ " subject") ::
      (d.parameters.zip (Parameters.names d.parameters.length)).map unitArgument := by
  rw [← Parameters.formal_named]
  rfl

theorem length_unitArguments (d : Declaration) :
    (unitArguments (.make d)).length = d.parameters.length + 1 := by
  simp [unitArguments_make, Parameters.length_names]

theorem neutral_unitSubject (accepted : d.checkNames = .ok ()) :
    Neutral (d.subjectParameter ++ " subject") :=
  (Declaration.neutral_subjectParameter accepted).append (by simp [Neutral, isBracket, isOpener])

theorem not_hasOuterComma_of_mem_unitArguments (accepted : d.checkNames = .ok ())
    (single : ∀ type ∈ d.parameters, ¬ HasOuterComma type) :
    ∀ a ∈ unitArguments (.make d), ¬ HasOuterComma a := by
  rw [unitArguments_make]
  refine List.forall_mem_cons.mpr ⟨(neutral_unitSubject accepted).not_hasOuterComma, ?_⟩
  refine List.forall_mem_map.mpr fun entry member => ?_
  have type := single entry.1 (List.of_mem_zip member).1
  exact (neutral_of_mem_names (List.of_mem_zip member).2).not_hasOuterComma_append type

theorem map_openAfter_unitArguments (accepted : d.checkNames = .ok ()) :
    (unitArguments (.make d)).map openAfter = [] :: d.parameters.map openAfter := by
  have subject : openAfter (d.subjectParameter ++ " subject") = [] :=
    (neutral_unitSubject accepted).openAfter_append []
  have each : ∀ entry ∈ d.parameters.zip (Parameters.names d.parameters.length),
      (openAfter ∘ unitArgument) entry = (openAfter ∘ Prod.fst) entry := fun entry member =>
    (neutral_of_mem_names (List.of_mem_zip member).2).openAfter_append entry.1
  rw [unitArguments_make, List.map_cons, subject, List.map_map, List.map_congr_left each, ← List.map_map,
    List.map_fst_zip (Nat.le_of_eq (Parameters.length_names _).symm)]

theorem closed_unitArguments_iff (accepted : d.checkNames = .ok ()) :
    (∀ a ∈ (unitArguments (.make d)).dropLast, openAfter a = []) ↔
      ∀ type ∈ d.parameters.dropLast, openAfter type = [] := by
  -- The subject stands in front and leaves nothing open, whatever types come behind it.
  have skip : ∀ brackets : List (List Char),
      (∀ open_ ∈ ([] :: brackets).dropLast, open_ = []) ↔ ∀ open_ ∈ brackets.dropLast, open_ = [] := by
    intro brackets
    cases brackets <;> simp
  have both := skip (d.parameters.map openAfter)
  rw [← map_openAfter_unitArguments accepted, ← List.map_dropLast, ← List.map_dropLast] at both
  simpa only [List.forall_mem_map] using both

theorem positions_of_closed (accepted : d.checkNames = .ok ())
    (single : ∀ type ∈ d.parameters, ¬ HasOuterComma type)
    (closed : ∀ type ∈ d.parameters.dropLast, openAfter type = []) :
    Positions d.parameters.length (arguments (unitParameters (.make d))) := by
  have pieces : arguments (unitParameters (.make d)) = (unitArguments (.make d)).map strip := by
    rw [unitParameters_eq]
    exact arguments_join_eq_map_strip (not_hasOuterComma_of_mem_unitArguments accepted single)
      (List.cons_ne_nil _ _) ((closed_unitArguments_iff accepted).mpr closed)
  rw [pieces, unitArguments_make]
  refine ⟨?_, ⟨_, rfl, ?_⟩, fun i bound => ?_⟩
  · simp [Parameters.length_names]
  · exact suffix_strip ⟨d.subjectParameter ++ " ", by simp⟩ (by decide) (by decide)
  · have named : Name (Parameters.positional (i + 1)) :=
      Parameters.name_of_mem_names (List.mem_map.mpr ⟨i, List.mem_range.mpr bound, rfl⟩)
    refine ⟨strip (unitArgument (d.parameters[i], Parameters.positional (i + 1))), ?_, ?_⟩
    · simp [Parameters.names, bound, Parameters.positional]
    · exact suffix_strip ⟨d.parameters[i] ++ " ", by simp [unitArgument]⟩ named.given named.solid

theorem positions_make_iff (accepted : d.checkNames = .ok ())
    (single : ∀ type ∈ d.parameters, ¬ HasOuterComma type) :
    Positions d.parameters.length (arguments (unitParameters (.make d))) ↔
      ∀ type ∈ d.parameters.dropLast, openAfter type = [] := by
  refine ⟨fun positions => ?_, positions_of_closed accepted single⟩
  have counted := positions.length
  rw [unitParameters_eq, ← length_unitArguments] at counted
  have each := not_hasOuterComma_of_mem_unitArguments accepted single
  have closed := (length_arguments_join_iff each (List.cons_ne_nil _ _)).mp counted
  exact (closed_unitArguments_iff accepted).mp closed

theorem closed_of_read {source text : Text} {t : Table} (read : Table.read source text = .ok t)
    (row : d ∈ t.rows) : ∀ type ∈ d.parameters.dropLast, openAfter type = [] := by
  intro type member
  have writable := ((Table.writable_of_read read).rows d row).1
  refine writable.closed type ?_
  have given : d.parameters ≠ [] := by
    intro none
    rw [none] at member
    cases member
  -- The types are the last fields, so that only the last of them is the last field.
  have parts : d.fields = ([d.subject, d.result, d.method] ++ if d.tag = [] then [] else [d.tag]) ++ d.parameters :=
    rfl
  rw [parts, List.dropLast_append_of_ne_nil given]
  exact List.mem_append.mpr (.inr member)

/-- For each row of a valid table the parameter list has at most one piece for the subject and one for each
parameter. These pieces count the parameters just when each type but the last closes its brackets, which all
rows do that are read from a text. -/
theorem positions_unitParameters_iff {t : Table} (valid : t.validate = .ok ()) :
    ∃ made, t.forwarders = .ok made ∧ made.map Forwarder.row = t.rows ∧
      (∀ f ∈ made,
        (arguments (unitParameters f)).length ≤ f.row.parameters.length + 1 ∧
        (Positions f.row.parameters.length (arguments (unitParameters f)) ↔
          ∀ type ∈ f.row.parameters.dropLast, openAfter type = [])) ∧
      ∀ source text other, Table.read source text = .ok other → ∀ f ∈ made, f.row ∈ other.rows →
        Positions f.row.parameters.length (arguments (unitParameters f)) := by
  have checked : ∀ d ∈ t.rows, d.checkNames = .ok () ∧ ∀ type ∈ d.parameters, ¬ HasOuterComma type := by
    intro d row
    obtain ⟨i, accepted⟩ := (Table.validate_eq_ok_iff.mp valid).exists_rowValid row
    exact ⟨accepted.names, fun type member => (accepted.types type (List.mem_cons_of_mem _ member)).single⟩
  refine ⟨_, Table.forwarders_of_validate valid, ?_, ?_, ?_⟩
  · rw [List.map_map]
    exact List.map_id t.rows
  · refine List.forall_mem_map.mpr fun d row => ⟨?_, ?_⟩
    · have each := not_hasOuterComma_of_mem_unitArguments (checked d row).1 (checked d row).2
      have bound := length_arguments_join_le each (List.cons_ne_nil _ _)
      rwa [← unitParameters_eq, length_unitArguments] at bound
    · exact positions_make_iff (checked d row).1 (checked d row).2
  · intro source text other read
    refine List.forall_mem_map.mpr fun d row inside => ?_
    exact positions_of_closed (checked d row).1 (checked d row).2 (closed_of_read read inside)

def lone (parameters : List Text) : Table :=
  { rows := [{ subject := "IActor", result := "void", method := "on", parameters }] }

/-- Commas inside parentheses and a bracket that stays open in the last type do no harm. -/
theorem positions_unitParameters_lone :
    (lone ["void(*)(int, float)", "int["]).validate = .ok () ∧
    ∃ made, (lone ["void(*)(int, float)", "int["]).forwarders = .ok made ∧
      ∀ f ∈ made, Positions f.row.parameters.length (arguments (unitParameters f)) := by
  have valid : (lone ["void(*)(int, float)", "int["]).validate = .ok () := by decide +kernel
  obtain ⟨made, forwarders, rows, each, -⟩ := positions_unitParameters_iff valid
  refine ⟨valid, made, forwarders, fun f member => (each f member).2.mpr ?_⟩
  have row : f.row ∈ made.map Forwarder.row := List.mem_map_of_mem member
  rw [rows] at row
  rw [List.mem_singleton.mp row]
  decide

/-- The two halves of a type that was cut at its comma are each a valid type, but the parameter list that they
give has two pieces and not three. -/
theorem valid_not_positions :
    (lone ["void(*)(int", "float)"]).validate = .ok () ∧
    ∃ f, (lone ["void(*)(int", "float)"]).forwarders = .ok [f] ∧
      f.row.parameters = ["void(*)(int", "float)"] ∧
      arguments (unitParameters f) = ["IActor* subject", "void(*)(int _1, float) _2"] ∧
      ¬ Positions f.row.parameters.length (arguments (unitParameters f)) := by
  have valid : (lone ["void(*)(int", "float)"]).validate = .ok () := by decide +kernel
  refine ⟨valid, _, Table.forwarders_of_validate valid, rfl, by decide +kernel, fun positions => ?_⟩
  exact absurd positions.length (by decide +kernel)

end Rendition

end Forwarding
