import Forwarding.Forwarder
import Forwarding.Proofs.Table.Validation
import Mathlib.Data.List.Forall2

/-! What the forwarders of a table are, and that validation is all they need.

The checks that are made again for each row cannot fail when the table has passed, and the two
comparisons of counts cannot fail at all: `forwarders_validate` is the main statement. `alike_iff` is about a
row that is checked by itself.
-/

set_option autoImplicit false

namespace Forwarding

open Text Checks

namespace Parameters

variable {types : List Text} {origin : Option Text}

def names (n : Nat) : List Text := (List.range n).map fun i => "_" ++ decimal (i + 1)

theorem count_eq (types : List Text) (origin : Option Text) : count types origin =
    if types.length ≤ limit then .ok types.length
    else .error ⟨.tooManyParameters types.length limit, origin⟩ := by
  split
  · next bound => exact count_of_le bound origin
  · next beyond => exact count_of_lt (Nat.lt_of_not_le beyond) origin

theorem formal_named (types : List Text) :
    (named types types.length).formal = types.zip (names types.length) := by
  refine List.ext_getElem? fun i => ?_
  simp only [named, names, List.take_length, List.getElem?_map, List.getElem?_zipIdx, List.zip,
    List.getElem?_zipWith, Nat.zero_add, positional]
  cases found : types[i]? with
  | none => rfl
  | some type =>
    obtain ⟨bound, -⟩ := List.getElem?_eq_some_iff.mp found
    simp [List.getElem?_range bound]

theorem length_names (n : Nat) : (names n).length = n := by simp [names]

theorem map_fst_formal (types : List Text) : (named types types.length).formal.map (·.1) = types := by
  rw [formal_named, List.map_fst_zip (Nat.le_of_eq (length_names _).symm)]

theorem map_snd_formal (types : List Text) :
    (named types types.length).formal.map (·.2) = names types.length := by
  rw [formal_named, List.map_snd_zip (Nat.le_of_eq (length_names _))]

theorem actual_named (types : List Text) : (named types types.length).actual = names types.length :=
  map_snd_formal types

/-- The lists that are compared have the same length, so that only the count and the types decide. -/
theorem ofTypes_eq (types : List Text) (origin : Option Text) : ofTypes types origin = do
    let _ ← count types origin
    types.forM fun type => checkSpelling type origin
    return named types types.length := by
  rw [ofTypes, count_eq]
  split
  · have formal : (named types types.length).formal.length = types.length := by
      rw [formal_named, List.length_zip, length_names, Nat.min_self]
    have actual : (named types types.length).actual.length = types.length := by
      rw [actual_named, length_names]
    simp only [ok_bind, formal, actual, beq_self_eq_true, Bool.and_self, if_true]
  · rfl

theorem ofTypes_eq_ok_iff {p : Parameters} : ofTypes types origin = .ok p ↔
    types.length ≤ limit ∧ (∀ type ∈ types, checkSpelling type origin = .ok ()) ∧
      p = named types types.length := by
  rw [ofTypes_eq, bind_eq_ok]
  simp only [count_eq_ok_iff, seq_eq_ok, forM_eq_ok, pure, Except.pure, Except.ok.injEq]
  constructor
  · rintro ⟨_, ⟨bound, -⟩, spelled, rfl⟩
    exact ⟨bound, spelled, rfl⟩
  · rintro ⟨bound, spelled, rfl⟩
    exact ⟨_, ⟨bound, rfl⟩, spelled, rfl⟩

theorem of_ofTypes_eq_error {fault : Fault} (refused : ofTypes types origin = .error fault) :
    count types origin = .error fault ∨ ∃ type ∈ types, checkSpelling type origin = .error fault := by
  rw [ofTypes_eq, bind_eq_error] at refused
  rcases refused with arity | ⟨_, -, rest⟩
  · exact .inl arity
  · rcases seq_eq_error.mp rest with spelling | ⟨-, done⟩
    · exact .inr (exists_of_forM_eq_error spelling)
    · cases done

theorem kind_of_ofTypes_eq_error {fault : Fault} (refused : ofTypes types origin = .error fault) :
    (∃ length, fault.cause = .tooManyParameters length limit) ∨ fault.cause = .emptyType ∨
      (∃ type, fault.cause = .compositeType type) ∨ ∃ type, fault.cause = .unbalancedType type := by
  rcases of_ofTypes_eq_error refused with arity | ⟨type, -, spelling⟩
  · rw [count_eq] at arity
    split at arity
    · cases arity
    · cases arity
      exact .inl ⟨_, rfl⟩
  · rw [checkSpelling] at spelling
    split at spelling
    · cases spelling
      exact .inr (.inl rfl)
    split at spelling
    · cases spelling
      exact .inr (.inr (.inl ⟨type, rfl⟩))
    split at spelling
    · cases spelling
      exact .inr (.inr (.inr ⟨type, rfl⟩))
    · cases spelling

end Parameters

open Parameters (names limit checkSpelling_eq_ok_iff ofTypes_eq_ok_iff)

namespace Forwarder

/-- What the forwarder of a row has to be: it takes the declared types under their names, and passes
the same names on. -/
structure Forwards (d : Declaration) (f : Forwarder) : Prop where
  row : f.row = d
  types : f.parameters.formal.map (·.1) = d.parameters
  formal : f.parameters.formal.map (·.2) = names d.parameters.length
  actual : f.parameters.actual = names d.parameters.length

/-- The forwarder that a row gets if it gets one. -/
def make (d : Declaration) : Forwarder := ⟨d, .named d.parameters d.parameters.length⟩

variable {d : Declaration}

theorem forwards_make (d : Declaration) : Forwards d (make d) :=
  ⟨rfl, Parameters.map_fst_formal _, Parameters.map_snd_formal _, Parameters.actual_named _⟩

theorem ofRow_eq (d : Declaration) : ofRow d = do
    d.checkNames
    let parameters ← Parameters.ofTypes d.parameters d.origin
    return ⟨d, parameters⟩ := by
  rw [ofRow]
  cases made : Parameters.ofTypes d.parameters d.origin with
  | error fault => rfl
  | ok parameters =>
    obtain ⟨-, -, rfl⟩ := ofTypes_eq_ok_iff.mp made
    have arity : (Parameters.named d.parameters d.parameters.length).arity = d.parameters.length := by
      rw [Parameters.arity, Parameters.actual_named, Parameters.length_names]
    simp only [ok_bind, arity, beq_self_eq_true, if_true]

theorem ofRow_eq_ok_iff {f : Forwarder} : ofRow d = .ok f ↔
    d.checkNames = .ok () ∧ d.parameters.length ≤ limit ∧
      (∀ type ∈ d.parameters, Parameters.checkSpelling type d.origin = .ok ()) ∧ f = make d := by
  rw [ofRow_eq, seq_eq_ok, bind_eq_ok]
  simp only [ofTypes_eq_ok_iff, pure, Except.pure, Except.ok.injEq]
  constructor
  · rintro ⟨named, _, ⟨bound, spelled, rfl⟩, rfl⟩
    exact ⟨named, bound, spelled, rfl⟩
  · rintro ⟨named, bound, spelled, rfl⟩
    exact ⟨named, _, ⟨bound, spelled, rfl⟩, rfl⟩

theorem of_ofRow_eq_error {fault : Fault} (refused : ofRow d = .error fault) :
    d.checkNames = .error fault ∨ Parameters.ofTypes d.parameters d.origin = .error fault := by
  rw [ofRow_eq, seq_eq_error, bind_eq_error] at refused
  rcases refused with named | ⟨-, types | ⟨_, -, done⟩⟩
  · exact .inl named
  · exact .inr types
  · cases done

theorem ofRow_of_rowValid {t : Table} {index : Nat} (valid : t.RowValid index d) :
    ofRow d = .ok (make d) := by
  refine ofRow_eq_ok_iff.mpr ⟨valid.names, valid.arity, fun type member => ?_, rfl⟩
  have spelled := valid.types type (List.mem_cons_of_mem _ member)
  exact checkSpelling_eq_ok_iff.mpr ⟨spelled.notBlank, spelled.single, spelled.balanced⟩

end Forwarder

namespace Table

variable {t : Table}

theorem mapM_ofRow {rows : List Declaration}
    (made : ∀ d ∈ rows, Forwarder.ofRow d = .ok (Forwarder.make d)) :
    rows.mapM Forwarder.ofRow = .ok (rows.map Forwarder.make) := by
  induction rows with
  | nil => rfl
  | cons d rows ih =>
    rw [List.forall_mem_cons] at made
    rw [List.mapM_cons, made.1, ok_bind, ih made.2]
    rfl

theorem forwarders_of_validate (valid : t.validate = .ok ()) :
    t.forwarders = .ok (t.rows.map Forwarder.make) := by
  rw [forwarders, valid, ok_bind]
  refine mapM_ofRow fun d member => ?_
  obtain ⟨i, accepted⟩ := (validate_eq_ok_iff.mp valid).exists_rowValid member
  exact Forwarder.ofRow_of_rowValid accepted

/-- A table has forwarders just when it is valid, one for each row in their order, and is refused with
the fault of its validation otherwise. A count is the length of the list, up to the limit. No list and
no row is refused because two counts differ. -/
theorem forwarders_validate (t : Table) :
    (∀ fault, t.forwarders = .error fault ↔ t.validate = .error fault) ∧
    (t.validate = .ok () →
      ∃ made, t.forwarders = .ok made ∧ List.Forall₂ Forwarder.Forwards t.rows made) ∧
    (∀ types origin, Parameters.count types origin =
      if types.length ≤ 10 then .ok types.length
      else .error ⟨.tooManyParameters types.length 10, origin⟩) ∧
    (∀ types origin formal actual declared place,
      Parameters.ofTypes types origin ≠ .error ⟨.unequalLists formal actual declared, place⟩) ∧
    (∀ d symbol expanded declared place,
      Forwarder.ofRow d ≠ .error ⟨.unequalCount symbol expanded declared, place⟩) := by
  refine ⟨fun fault => ?_, fun valid => ⟨_, forwarders_of_validate valid, ?_⟩, Parameters.count_eq,
    fun types origin formal actual declared place refused => ?_,
    fun d symbol expanded declared place refused => ?_⟩
  · cases checked : t.validate with
    | error first => simp [forwarders, checked]
    | ok _ => simp [forwarders_of_validate checked]
  · exact List.forall₂_map_right_iff.mpr (List.forall₂_same.mpr fun d _ => Forwarder.forwards_make d)
  · have cause := Parameters.kind_of_ofTypes_eq_error refused
    simp at cause
  · rcases Forwarder.of_ofRow_eq_error refused with named | types
    · rw [Declaration.checkNames] at named
      repeat' split at named
      all_goals cases named
    · have cause := Parameters.kind_of_ofTypes_eq_error types
      simp at cause

/-- Two rows, one of which takes nothing. -/
def pair : Table :=
  { aliases := [⟨"Grid", "Map<int, Cell>", 0, none⟩]
    rows := [{ subject := "A&", result := "void", method := "f", parameters := ["Grid", "const B &"] },
      { subject := "A", result := "int", method := "g" }] }

theorem forwarders_validate_pair : pair.validate = .ok () ∧
    ∃ made, pair.forwarders = .ok made ∧ List.Forall₂ Forwarder.Forwards pair.rows made := by
  have valid : pair.validate = .ok () := by decide +kernel
  exact ⟨valid, (forwarders_validate pair).2.1 valid⟩

end Table

/-! ### A row by itself

Making the forwarder of a row and validating the table that holds no other row look at the names and at the
parameters in the same order. Only the table looks at the result type, between the two: `alike_iff` says when that
makes a difference.
-/

/-- Two checks that report the same: both pass, or both are refused with a fault of one family and with one
message. -/
inductive Alike {α β : Type} : Except Fault α → Except Fault β → Prop where
  | passed (a : α) (b : β) : Alike (.ok a) (.ok b)
  | refused {first second : Fault} : first.cause.kind = second.cause.kind →
      first.message = second.message → Alike (.error first) (.error second)

namespace Alike

variable {α β : Type}

theorem of_error (fault : Fault) : Alike (.error fault : Except Fault α) (.error fault : Except Fault β) :=
  .refused rfl rfl

theorem exists_of_error {first : Except Fault α} {fault : Fault} (alike : Alike first (.error fault : Except Fault β)) :
    ∃ other, first = .error other ∧ other.cause.kind = fault.cause.kind ∧ other.message = fault.message := by
  cases alike with
  | refused kind message => exact ⟨_, rfl, kind, message⟩

end Alike

namespace Cause

variable {type other : Text}

theorem compositeType_of_message_eq (same : (compositeType type).message = (compositeType other).message) :
    type = other := by
  unfold message at same
  exact List.append_cancel_left (List.append_cancel_right same)

theorem unbalancedType_of_message_eq (same : (unbalancedType type).message = (unbalancedType other).message) :
    type = other := by
  unfold message at same
  exact List.append_cancel_left (List.append_cancel_right (List.append_cancel_right same))

theorem head?_message_emptyType : emptyType.message.head? = some 'e' := rfl

theorem head?_message_unbalancedType (type : Text) : (unbalancedType type).message.head? = some 't' := rfl

end Cause

theorem Fault.cause_message_eq {first second : Fault} (place : first.origin = second.origin)
    (same : first.message = second.message) : first.cause.message = second.cause.message := by
  unfold Fault.message at same
  rw [place] at same
  exact List.append_cancel_left same

/-! ### Types by themselves -/

namespace Parameters

/-- A spelling that counts as one type. -/
structure Single (type : Text) : Prop where
  notBlank : strip type ≠ []
  single : ¬ Spelling.HasOuterComma type
  balanced : Spelling.AnglesBalanced type

variable {type other : Text} {origin : Option Text}

theorem checkSpelling_eq_ok : checkSpelling type origin = .ok () ↔ Single type := by
  rw [checkSpelling_eq_ok_iff]
  constructor
  · rintro ⟨notBlank, single, balanced⟩
    exact ⟨notBlank, single, balanced⟩
  · intro single
    exact ⟨single.notBlank, single.single, single.balanced⟩

/-- What a spelling is refused for; only a blank one is not named. -/
theorem of_checkSpelling_eq_error {fault : Fault} (refused : checkSpelling type origin = .error fault) :
    fault.origin = origin ∧ ((strip type = [] ∧ fault.cause = .emptyType) ∨
      fault.cause = .compositeType type ∨ fault.cause = .unbalancedType type) := by
  unfold checkSpelling at refused
  split at refused
  · next blank =>
    cases refused
    exact ⟨rfl, .inl ⟨List.isEmpty_iff.mp blank, rfl⟩⟩
  split at refused
  · cases refused
    exact ⟨rfl, .inr (.inl rfl)⟩
  split at refused
  · cases refused
    exact ⟨rfl, .inr (.inr rfl)⟩
  · cases refused

/-- A message about a type that is not blank tells which type it is about. -/
theorem eq_of_message_eq {fault second : Fault} (given : strip type ≠ [])
    (refused : checkSpelling type origin = .error fault)
    (refused' : checkSpelling other origin = .error second) (kind : second.cause.kind = fault.cause.kind)
    (message : second.message = fault.message) : other = type := by
  obtain ⟨place, causes⟩ := of_checkSpelling_eq_error refused
  obtain ⟨place', causes'⟩ := of_checkSpelling_eq_error refused'
  have words := Fault.cause_message_eq (place'.trans place.symm) message
  have named := causes.resolve_left fun blank => given blank.1
  -- A composite type is of a family of its own; the first letter tells an empty type from an unbalanced one.
  rcases named with cause | cause <;> rcases causes' with ⟨-, cause'⟩ | cause' | cause' <;>
    rw [cause, cause'] at kind words
  · cases kind
  · exact Cause.compositeType_of_message_eq words
  · cases kind
  · have letter := congrArg List.head? words
    rw [Cause.head?_message_emptyType, Cause.head?_message_unbalancedType] at letter
    cases letter
  · cases kind
  · exact Cause.unbalancedType_of_message_eq words

end Parameters

open Parameters (Single)

/-! ### The two checks of a row -/

/-- The table that holds one row and no alias. -/
def Table.alone (d : Declaration) : Table := { rows := [d] }

namespace Declaration

variable (d : Declaration)

/-- What is looked at first: the names of a row and how many parameters it has. -/
def checkFront : Except Fault Unit := do
  d.checkNames
  let _ ← Parameters.count d.parameters d.origin

/-- The first parameter that is not spelled as a single type is spelled like the result. -/
def BlamesResult : Prop :=
  ∃ before after, d.parameters = before ++ d.result :: after ∧ ∀ type ∈ before, Single type

end Declaration

variable (d : Declaration)

theorem Forwarder.ofRow_eq_checks : Forwarder.ofRow d = do
    d.checkFront
    d.parameters.forM fun type => Parameters.checkSpelling type d.origin
    return .make d := by
  rw [Forwarder.ofRow_eq, Declaration.checkFront, Parameters.ofTypes_eq]
  cases d.checkNames with
  | error fault => rfl
  | ok _ =>
    cases Parameters.count d.parameters d.origin with
    | error fault => rfl
    | ok n => cases d.parameters.forM fun type => Parameters.checkSpelling type d.origin <;> rfl

theorem Table.validate_alone : (Table.alone d).validate = (do
    d.checkFront
    Parameters.checkSpelling d.result d.origin
    d.parameters.forM fun type => Parameters.checkSpelling type d.origin) := by
  have types : (Table.alone d).checkType 0 d = fun type => Parameters.checkSpelling type d.origin := by
    funext type
    have defined : (TypeForm.ofSpelling type).identifiers.forM ((Table.alone d).checkAlias 0 d) = .ok () :=
      forM_eq_ok.mpr fun name _ => rfl
    rw [Table.checkType, defined]
    cases Parameters.checkSpelling type d.origin with
    | error fault => rfl
    | ok _ => rfl
  have new : Table.checkNew [] (.ofRow d) = .ok () := rfl
  change (Table.alone d).checkRows [] [d] = _
  simp only [Table.checkRows, Table.checkRow, List.length_nil, types, new, Declaration.checkFront]
  cases d.checkNames with
  | error fault => rfl
  | ok _ =>
    cases Parameters.count d.parameters d.origin with
    | error fault => rfl
    | ok n =>
      simp only [ok_bind, List.forM_eq_forM, List.forM_cons]
      cases Parameters.checkSpelling d.result d.origin with
      | error fault => rfl
      | ok _ =>
        simp only [ok_bind]
        cases forM d.parameters fun type => Parameters.checkSpelling type d.origin <;> rfl

theorem Declaration.checkFront_eq_ok_iff :
    d.checkFront = .ok () ↔ d.checkNames = .ok () ∧ d.parameters.length ≤ Parameters.limit := by
  rw [checkFront, seq_eq_ok, bind_eq_ok]
  simp only [Parameters.count_eq_ok_iff]
  constructor
  · rintro ⟨names, _, ⟨bound, -⟩, -⟩
    exact ⟨names, bound⟩
  · rintro ⟨names, bound⟩
    exact ⟨names, _, ⟨bound, rfl⟩, rfl⟩

namespace Table

/-- Where the result is refused, the parameters alone report the same just when the first of them that is refused is
spelled like the result. -/
theorem alike_parameters_iff {fault : Fault} (given : strip d.result ≠ [])
    (refused : Parameters.checkSpelling d.result d.origin = .error fault) :
    Alike (do d.parameters.forM fun type => Parameters.checkSpelling type d.origin
              return Forwarder.make d) (.error fault : Except Fault Unit) ↔ d.BlamesResult := by
  constructor
  · intro alike
    obtain ⟨other, reported, kind, message⟩ := alike.exists_of_error
    rw [bind_eq_error] at reported
    obtain ⟨before, type, after, parts, fine, bad⟩ :=
      forM_eq_error.mp (reported.resolve_right fun ⟨_, _, made⟩ => by cases made)
    have same := Parameters.eq_of_message_eq given refused bad kind message
    exact ⟨before, after, same ▸ parts, fun other member => Parameters.checkSpelling_eq_ok.mp (fine other member)⟩
  · rintro ⟨before, after, parts, fine⟩
    have first : (d.parameters.forM fun type => Parameters.checkSpelling type d.origin) = .error fault :=
      forM_eq_error.mpr ⟨before, d.result, after, parts,
        fun other member => Parameters.checkSpelling_eq_ok.mpr (fine other member), refused⟩
    rw [first]
    exact .of_error fault

/-- Making the forwarder of a row by itself reports what validating the table of this row alone reports, unless
the names and the number of parameters pass, the result is not spelled as a single type, and the first parameter
that is none either, if there is one, is spelled otherwise. A row that is valid alone has a forwarder, and a row
with a forwarder is valid alone just when its result is a single type. -/
theorem alike_iff :
    (Alike (Forwarder.ofRow d) (alone d).validate ↔
      d.checkNames ≠ .ok () ∨ Parameters.limit < d.parameters.length ∨ Single d.result ∨ d.BlamesResult) ∧
    ((alone d).validate = .ok () ↔ (∃ f, Forwarder.ofRow d = .ok f) ∧ Single d.result) := by
  rw [Forwarder.ofRow_eq_checks, validate_alone]
  have passed := d.checkFront_eq_ok_iff
  cases front : d.checkFront with
  | error fault =>
    have refused : d.checkNames ≠ .ok () ∨ Parameters.limit < d.parameters.length := by
      by_contra both
      rw [not_or, not_not, Nat.not_lt, ← passed, front] at both
      cases both
    refine ⟨⟨fun _ => refused.imp id .inl, fun _ => .of_error fault⟩, ?_⟩
    simp
  | ok _ =>
    obtain ⟨names, bound⟩ := passed.mp front
    simp only [ok_bind, names, ne_eq, not_true_eq_false, Nat.not_lt.mpr bound, false_or]
    cases result : Parameters.checkSpelling d.result d.origin with
    | ok _ =>
      have single := Parameters.checkSpelling_eq_ok.mp result
      simp only [ok_bind, single, true_or, iff_true, and_true]
      cases d.parameters.forM fun type => Parameters.checkSpelling type d.origin with
      | error fault => exact ⟨.of_error fault, by simp⟩
      | ok _ => exact ⟨.passed _ _, by simp [pure, Except.pure]⟩
    | error fault =>
      have multiple : ¬ Single d.result := fun single => by
        rw [Parameters.checkSpelling_eq_ok.mpr single] at result
        cases result
      have given := (Declaration.checkNames_eq_ok_iff.mp names).2.2.1
      simp only [error_bind, multiple, false_or, and_false, iff_false]
      exact ⟨alike_parameters_iff d given result, by simp⟩

/-- A row whose result was to be named by an alias first. -/
def composite : Declaration := { subject := "IVehicle", result := "Pair<int, int>", method := "getColour" }

/-- A composite result is refused in a table and has a forwarder by itself. -/
theorem not_alike_composite : ¬ Alike (Forwarder.ofRow composite) (alone composite).validate := by
  have made : Forwarder.ofRow composite = .ok (.make composite) := rfl
  have refused : (alone composite).validate = .error ⟨.compositeType "Pair<int, int>", none⟩ := rfl
  rw [made, refused]
  rintro ⟨⟩

end Table

end Forwarding
