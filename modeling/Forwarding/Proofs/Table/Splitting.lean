import Forwarding.Proofs.Spelling.Arguments
import Forwarding.Proofs.Table.Row
import Forwarding.Proofs.Table.Validation
import Forwarding.Proofs.Table.Writable

/-! Composite types in a row are not split unnoticed.

The reader of rows cuts at every comma outside brackets, and angles are no brackets. What is cut off
before such a comma opens more angles than it closes, so one of the pieces is no balanced spelling, and
no part of a valid row can be that piece.

Nothing is cut twice. An argument is its own only argument, and arguments that are joined are cut apart where
they were joined. So no type of a row that has been read is composite, however its brackets stand, and no such
row is refused for want of an alias.
-/

set_option autoImplicit false

namespace Forwarding

open Text Spelling Checks

/-- A text that is written as one argument: on one line and without a comment, with its brackets
nested, its angles balanced, and every comma in brackets or between angles. -/
structure Argument (a : Text) : Prop where
  stripped : strip a = a
  unbroken : Unbroken a
  plain : ¬ "//".toList <:+: a
  nested : Nested a
  balanced : AnglesBalanced a
  guarded : ∀ left right, a = left ++ ',' :: right →
    openAfter left ≠ [] ∨ left.count '>' < left.count '<'

/-- Arguments of a row. Only a tag may be empty. -/
structure RowForm.Takes (form : RowForm) (args : List Text) : Prop where
  enough : form.leading ≤ args.length
  arguments : ∀ a ∈ args, Argument a
  nonempty : ∀ i a, args[i]? = some a → a = [] → form = .overload ∧ i = 3

namespace Spelling

theorem exists_unbalanced {pieces : List Text}
    (more : pieces.flatten.count '>' < pieces.flatten.count '<') :
    ∃ piece ∈ pieces, piece.count '>' < piece.count '<' := by
  induction pieces with
  | nil => simp at more
  | cons piece pieces ih =>
    by_cases here : piece.count '>' < piece.count '<'
    · exact ⟨piece, List.mem_cons_self, here⟩
    · rw [List.flatten_cons, List.count_append, List.count_append] at more
      obtain ⟨other, member, unbalanced⟩ := ih (by omega)
      exact ⟨other, List.mem_cons_of_mem _ member, unbalanced⟩

/-- A composite argument leaves a piece that opens more angles than it closes. -/
theorem exists_unbalanced_of_composite {a : Text} (argument : Argument a) (composite : HasOuterComma a) :
    ∃ piece ∈ arguments a, piece.count '>' < piece.count '<' := by
  obtain ⟨left, right, rfl, closed⟩ := composite
  -- The comma stands in no brackets, so that angles are open in front of it, and cutting loses none of them.
  have more := (argument.guarded left right rfl).resolve_left fun inside => inside closed
  have count : ∀ c, c ≠ ',' → isBlank c = false → (arguments left).flatten.count c = left.count c := by
    intro c comma solid
    have same := filter_flatten_arguments (p := (· == c)) (by simpa using comma.symm)
      (fun d blank => by simpa using ne_of_isBlank blank solid) left
    rw [List.count_eq_length_filter, same, ← List.count_eq_length_filter]
  rw [← count '>' (by decide) rfl, ← count '<' (by decide) rfl] at more
  obtain ⟨piece, member, unbalanced⟩ := exists_unbalanced more
  rw [arguments_append_comma closed]
  exact ⟨piece, List.mem_append.mpr (.inl member), unbalanced⟩

end Spelling

/-- Whether a text without brackets is an argument, as a computation. -/
def Argument.isPlain (a : Text) : Bool :=
  strip a == a && a.all (fun c => !isLineBreak c && !isBracket c && c != '/') && anglesBalanced a &&
    (List.range a.length).all fun n => a[n]? != some ',' || decide ((a.take n).count '>' < (a.take n).count '<')

theorem Argument.of_isPlain {a : Text} (plain : isPlain a = true) : Argument a := by
  simp only [isPlain, Bool.and_eq_true, beq_iff_eq, List.all_eq_true, List.mem_range, Bool.not_eq_true',
    bne_iff_ne, Bool.or_eq_true, decide_eq_true_eq, anglesBalanced_iff] at plain
  obtain ⟨⟨⟨stripped, marks⟩, balanced⟩, commas⟩ := plain
  refine ⟨stripped, fun c member => (marks c member).1.1, not_pair_of_not_mem fun slash =>
    (marks '/' slash).2 rfl, .of_plain fun c member => (marks c member).1.2, balanced, ?_⟩
  rintro left right rfl
  have here := (commas left.length (by simp)).resolve_left (by simp)
  rw [List.take_left] at here
  exact .inr here

namespace RowForm.Takes

variable {form : RowForm} {args : List Text}

theorem paired (takes : form.Takes args) : Paired '(' ')' (join ", " args) :=
  Nested.paired_join fun a member => (takes.arguments a member).nested

theorem arguments_join (takes : form.Takes args) :
    Spelling.arguments (join ", " args) = args.flatMap Spelling.arguments := by
  refine Spelling.arguments_join (fun none => ?_) fun a member => ?_
  · have := takes.enough
    rw [none] at this
    cases form <;> exact absurd this (by decide)
  · exact (takes.arguments a (List.dropLast_subset _ member)).nested.openAfter

end RowForm.Takes

namespace Table

variable {form : RowForm} {args : List Text}

theorem read_line (takes : form.Takes args) (source : Text) : read source (form.line args) =
    (do (← (Reader.start source).step 1 (form.line args)).finish) := by
  have unbroken := Line.unbroken_line form fun a member => (takes.arguments a member).unbroken
  have some : form.line args ≠ [] := by cases form <;> exact List.cons_ne_nil _ _
  rw [read, lines_of_unbroken unbroken some, Reader.run]
  cases (Reader.start source).step 1 (form.line args) <;> rfl

theorem read_line_eq_ok {source : Text} (takes : form.Takes args) {t : Table}
    (result : read source (form.line args) = .ok t) :
    ∃ d, Declaration.ofArguments form (args.flatMap Spelling.arguments) = .ok d ∧
      t.rows = [{ d with heading := [], origin := some ((Reader.start source).place 1) }] := by
  have plain := Line.not_infix_line form fun a member => (takes.arguments a member).plain
  rw [read_line takes] at result
  cases made : Declaration.ofArguments form (arguments (join ", " args)) with
  | error cause =>
    rw [Reader.step_line_of_error rfl plain takes.paired 1 made] at result
    cases result
  | ok d =>
    rw [Reader.step_line_of_ok rfl plain takes.paired 1 made] at result
    cases result
    exact ⟨d, by rw [← takes.arguments_join, made], rfl⟩

theorem read_line_of_ok (takes : form.Takes args) (source : Text) {d : Declaration}
    (made : Declaration.ofArguments form (args.flatMap Spelling.arguments) = .ok d) :
    ∃ t, read source (form.line args) = .ok t := by
  have plain := Line.not_infix_line form fun a member => (takes.arguments a member).plain
  rw [← takes.arguments_join] at made
  rw [read_line takes, Reader.step_line_of_ok rfl plain takes.paired 1 made]
  exact ⟨_, rfl⟩

/-- No part of a valid row opens more angles than it closes. -/
theorem Valid.not_unbalanced {t : Table} {d : Declaration} (valid : t.Valid) (row : d ∈ t.rows) {a : Text}
    (member : a ∈ [d.subject, d.method, d.tag] ∨ a ∈ d.result :: d.parameters) :
    a.count '<' ≤ a.count '>' := by
  obtain ⟨i, rowValid⟩ := valid.exists_rowValid row
  rcases member with name | type
  · have absent := Declaration.not_mem_of_checkNames rowValid.names (c := '<') rfl rfl (by decide)
    have none : '<' ∉ a := by
      simp only [List.mem_cons, List.not_mem_nil, or_false] at name
      rcases name with rfl | rfl | rfl
      · exact absent.1
      · exact absent.2.1
      · exact absent.2.2
    rw [List.count_eq_zero_of_not_mem none]
    exact Nat.zero_le _
  · exact Nat.le_of_eq (rowValid.types a type).balanced.equal

theorem read_validate_line (takes : form.Takes args) (source : Text) :
    (∀ t, read source (form.line args) = .ok t → t.validate = .ok () →
      ∃ d, t.rows = [d] ∧ d.Spells form args) ∧
    ((∃ a ∈ args, HasOuterComma a) →
      ∀ t, read source (form.line args) = .ok t → t.validate ≠ .ok ()) ∧
    ((∀ a ∈ args, ¬ HasOuterComma a) → ∃ t, read source (form.line args) = .ok t) := by
  have refused : (∃ a ∈ args, HasOuterComma a) →
      ∀ t, read source (form.line args) = .ok t → t.validate ≠ .ok () := by
    rintro ⟨a, member, composite⟩ t result valid
    obtain ⟨piece, found, unbalanced⟩ := exists_unbalanced_of_composite (takes.arguments a member) composite
    have here : piece ∈ args.flatMap Spelling.arguments := List.mem_flatMap.mpr ⟨a, member, found⟩
    have nonempty : piece ≠ [] := by
      rintro rfl
      simp at unbalanced
    obtain ⟨d, made, rows⟩ := read_line_eq_ok takes result
    have part := Declaration.mem_of_ofArguments made here nonempty
    have row : { d with heading := [], origin := some ((Reader.start source).place 1) } ∈ t.rows := by
      rw [rows]
      exact List.mem_cons_self
    -- The piece that opens more angles than it closes is a part of the row.
    have bound := (validate_eq_ok_iff.mp valid).not_unbalanced row part
    omega
  have single : (∀ a ∈ args, ¬ HasOuterComma a) → args.flatMap Spelling.arguments = args := fun alone =>
    flatMap_arguments fun a member => ⟨(takes.arguments a member).stripped, alone a member⟩
  obtain ⟨d, taken, -, -, spells⟩ := Declaration.ofArguments_of_nonempty takes.enough takes.nonempty
  refine ⟨fun t result valid => ?_, refused, fun alone => ?_⟩
  · have alone : ∀ a ∈ args, ¬ HasOuterComma a := fun a member composite =>
      refused ⟨a, member, composite⟩ t result valid
    obtain ⟨other, made, rows⟩ := read_line_eq_ok takes result
    rw [single alone, taken] at made
    cases made
    exact ⟨_, rows, by cases form <;> exact spells⟩
  · exact read_line_of_ok takes source (by rw [single alone, taken])

theorem takes_pair : RowForm.plain.Takes ["A", "void", "f", "P<a, b>"] where
  enough := by decide
  arguments a member := .of_isPlain (List.all_eq_true.mp
    (rfl : List.all ["A".toList, "void".toList, "f".toList, "P<a, b>".toList] Argument.isPlain = true) a member)
  nonempty i a found empty := absurd (List.mem_of_getElem? found) (by subst empty; decide)

theorem read_validate_line_pair :
    ∃ t, read "t" (RowForm.plain.line ["A", "void", "f", "P<a, b>"]) = .ok t ∧ t.validate ≠ .ok () :=
  ⟨_, rfl, (read_validate_line takes_pair "t").2.1 ⟨"P<a, b>", by decide, isComposite_iff.mp rfl⟩ _ rfl⟩

end Table

/-! ### A row is cut only once -/

namespace Spelling

theorem arguments_join_arguments (t : Text) : arguments (join [','] (arguments t)) = arguments t := by
  have given : arguments t ≠ [] := by simp [arguments_eq]
  have closed : ∀ a ∈ (arguments t).dropLast, openAfter a = [] := fun a => openAfter_of_mem_dropLast
  rw [arguments_join_blanks (by simp) given closed]
  exact flatMap_arguments fun a member => (of_mem_arguments member).2

end Spelling

theorem Declaration.type_mem_fields {d : Declaration} {type : Text}
    (member : type ∈ d.result :: d.parameters) : type ∈ d.fields := by
  rcases List.mem_cons.mp member with rfl | parameter
  · simp [Declaration.fields]
  · simp [Declaration.fields, parameter]

namespace Table

variable {t : Table} {index : Nat} {d : Declaration} {fault : Fault}

/-- A row without composite types is refused for something else. -/
theorem Blames.kind_ne_aliasRequired (blames : t.Blames index d fault)
    (single : ∀ type ∈ d.result :: d.parameters, ¬ HasOuterComma type) : fault.cause.kind ≠ .aliasRequired := by
  cases blames with
  | names refused =>
    rw [Declaration.kind_of_checkNames refused]
    decide
  | composite member composite => exact absurd composite (single _ member)
  | arity | blank | unbalanced | early | duplicate =>
    intro same
    cases same

theorem single_of_read {source text : Text} (read : Table.read source text = .ok t) (row : d ∈ t.rows) {type : Text}
    (member : type ∈ d.result :: d.parameters) : ¬ HasOuterComma type :=
  (((writable_of_read read).rows d row).1.fields type (Declaration.type_mem_fields member)).single

theorem arguments_stable (t : Text) :
    (∀ piece ∈ arguments t, arguments piece = [piece]) ∧
    arguments (join [','] (arguments t)) = arguments t ∧
    (∀ left right : Text,
      arguments (left ++ ',' :: right) = arguments left ++ arguments right ↔ openAfter left = []) ∧
    ∀ source u, Table.read source t = .ok u →
      (∀ d ∈ u.rows, ∀ type ∈ d.result :: d.parameters, isComposite type = false) ∧
      ∀ fault, u.validate = .error fault → fault.cause.kind ≠ .aliasRequired := by
  refine ⟨fun piece => arguments_of_mem, arguments_join_arguments t, fun left right => arguments_append_comma_iff,
    fun source u read => ⟨fun d row type member => ?_, fun fault refused => ?_⟩⟩
  · rw [Bool.eq_false_iff, ne_eq, isComposite_iff]
    exact single_of_read read row member
  · obtain ⟨i, d, found, blames⟩ := exists_blames refused
    exact blames.kind_ne_aliasRequired fun type => single_of_read read (List.mem_of_getElem? found)

/-- A row with brackets that close in the wrong places or not at all. -/
def crooked : Table where
  rows := [{ subject := "A", result := "void", method := "f", parameters := ["([,)int>, [x"], origin := some "t:1" }]
  sources := ["t"]

theorem validate_crooked : crooked.validate = .error ⟨.unbalancedType "([,)int>, [x", some "t:1"⟩ := rfl

theorem arguments_stable_crooked :
    "([,)int>, [x".toList ∈ arguments "A, void, f, ([,)int>, [x" ∧
      arguments "([,)int>, [x" = ["([,)int>, [x".toList] ∧
      Table.read "t" "PROXY(A, void, f, ([,)int>, [x);" = .ok crooked ∧
      ∃ fault, crooked.validate = .error fault ∧ fault.cause.kind ≠ .aliasRequired := by
  have member : "([,)int>, [x".toList ∈ arguments "A, void, f, ([,)int>, [x" := by decide
  have read : Table.read "t" "PROXY(A, void, f, ([,)int>, [x);" = .ok crooked := rfl
  exact ⟨member, (arguments_stable _).1 _ member, read, _, validate_crooked,
    ((arguments_stable _).2.2.2 _ _ read).2 _ validate_crooked⟩

end Table

end Forwarding
