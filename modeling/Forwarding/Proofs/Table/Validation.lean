import Forwarding.Proofs.Declaration
import Forwarding.Proofs.Spelling.Brackets
import Forwarding.Proofs.Text.Words
import Forwarding.Table.Validation

/-! Which tables are valid, said without the order of the checks, and which row a refusal is about.

`validate_iff_and_first` is the main statement: a table passes when every row by itself is valid at
its place and no two symbols are equal; otherwise the fault is that of the first row up to which the
table does not pass, and it says truly what is wrong there.
-/

set_option autoImplicit false

namespace Forwarding

open Text Checks

namespace Parameters

theorem count_of_le {types : List Text} (bound : types.length ≤ limit) (origin : Option Text) :
    count types origin = .ok types.length := by
  have marker : (marked types)[limit]? = some (.inr types.length) := by
    simp only [limit] at bound
    rw [marked, List.getElem?_append_right (by simpa [limit] using bound)]
    simp only [List.length_map, List.getElem?_map, markers]
    rw [List.getElem?_reverse (by simp [limit]; omega)]
    simp only [List.length_range, limit]
    rw [show 10 + 1 - 1 - (10 - types.length) = types.length by omega,
      List.getElem?_range (by omega)]
    rfl
  simp [count, marker]

theorem count_of_lt {types : List Text} (beyond : limit < types.length) (origin : Option Text) :
    count types origin = .error ⟨.tooManyParameters types.length limit, origin⟩ := by
  have type : (marked types)[limit]? = some (.inl types[limit]) := by
    rw [marked, List.getElem?_append_left (by simpa using beyond)]
    simp [beyond]
  simp [count, type]

theorem count_eq_ok_iff {types : List Text} {origin : Option Text} {n : Nat} :
    count types origin = .ok n ↔ types.length ≤ limit ∧ n = types.length := by
  by_cases bound : types.length ≤ limit
  · simp [count_of_le bound, bound, eq_comm]
  · simp [count_of_lt (Nat.lt_of_not_le bound), bound]

theorem checkSpelling_eq_ok_iff {type : Text} {origin : Option Text} :
    checkSpelling type origin = .ok () ↔
      strip type ≠ [] ∧ ¬ Spelling.HasOuterComma type ∧ Spelling.AnglesBalanced type := by
  rw [← Spelling.isComposite_iff, ← Spelling.anglesBalanced_iff]
  simp only [checkSpelling]
  repeat' split
  all_goals simp_all

end Parameters

namespace Table

/-- What a type of the row at `index` has to be: a single type, spelled with names that mean
something there. -/
structure TypeValid (t : Table) (index : Nat) (type : Text) : Prop where
  notBlank : strip type ≠ []
  single : ¬ Spelling.HasOuterComma type
  balanced : Spelling.AnglesBalanced type
  defined : ∀ name ∈ identifiers type, ∀ a, t.alias? name = some a → a.position ≤ index

/-- What a row has to be at its place, whatever the other rows are. -/
structure RowValid (t : Table) (index : Nat) (d : Declaration) : Prop where
  names : d.checkNames = .ok ()
  arity : d.parameters.length ≤ 10
  types : ∀ type ∈ d.result :: d.parameters, t.TypeValid index type

structure Valid (t : Table) : Prop where
  rows : ∀ i d, t.rows[i]? = some d → t.RowValid i d
  symbols : (t.rows.map Declaration.symbol).Nodup

/-- What a fault may say about the row at `index`; a duplicate names the only earlier row that has
the symbol. -/
inductive Blames (t : Table) (index : Nat) (d : Declaration) : Fault → Prop where
  | names {fault : Fault} : d.checkNames = .error fault → Blames t index d fault
  | arity : 10 < d.parameters.length →
      Blames t index d (d.fault (.tooManyParameters d.parameters.length 10))
  | blank {type : Text} : type ∈ d.result :: d.parameters → strip type = [] →
      Blames t index d (d.fault .emptyType)
  | composite {type : Text} : type ∈ d.result :: d.parameters → Spelling.HasOuterComma type →
      Blames t index d (d.fault (.compositeType type))
  | unbalanced {type : Text} : type ∈ d.result :: d.parameters → ¬ Spelling.AnglesBalanced type →
      Blames t index d (d.fault (.unbalancedType type))
  | early {type name : Text} {a : Alias} : type ∈ d.result :: d.parameters →
      name ∈ identifiers type → t.alias? name = some a → index < a.position →
      Blames t index d (d.fault (.aliasUsedEarly name d.symbol a.origin))
  | duplicate {j : Nat} {first : Declaration} : j < index → t.rows[j]? = some first →
      first.symbol = d.symbol →
      (∀ k other, k < index → t.rows[k]? = some other → other.symbol = d.symbol → k = j) →
      Blames t index d ⟨.duplicateSymbol d.symbol (first.key, first.origin) (d.key, d.origin), none⟩

/-- The table with its first rows only. -/
def upTo (t : Table) (count : Nat) : Table := { t with rows := t.rows.take count }

variable {t : Table}

theorem checkAlias_eq_ok_iff {index : Nat} {d : Declaration} {name : Text} :
    t.checkAlias index d name = .ok () ↔ ∀ a, t.alias? name = some a → a.position ≤ index := by
  cases found : t.alias? name with
  | none => simp [checkAlias, found]
  | some a => simp [checkAlias, found]

theorem exists_of_checkAlias_eq_error {index : Nat} {d : Declaration} {name : Text} {fault : Fault}
    (refused : t.checkAlias index d name = .error fault) :
    ∃ a, t.alias? name = some a ∧ index < a.position ∧
      fault = d.fault (.aliasUsedEarly name d.symbol a.origin) := by
  cases found : t.alias? name with
  | none => simp [checkAlias, found] at refused
  | some a =>
    simp only [checkAlias, found] at refused
    split at refused
    · next late => exact ⟨a, rfl, late, (Except.error.inj refused).symm⟩
    · cases refused

theorem checkType_eq_ok_iff {index : Nat} {d : Declaration} {type : Text} :
    t.checkType index d type = .ok () ↔ t.TypeValid index type := by
  have tokens : (TypeForm.ofSpelling type).identifiers = identifiers type := identifiers_squeeze type
  simp only [checkType, seq_eq_ok, Parameters.checkSpelling_eq_ok_iff, forM_eq_ok, tokens,
    checkAlias_eq_ok_iff]
  exact ⟨fun ⟨⟨notBlank, single, balanced⟩, defined⟩ => ⟨notBlank, single, balanced, defined⟩,
    fun valid => ⟨⟨valid.notBlank, valid.single, valid.balanced⟩, valid.defined⟩⟩

theorem blames_of_checkType_eq_error {index : Nat} {d : Declaration} {type : Text} {fault : Fault}
    (member : type ∈ d.result :: d.parameters) (refused : t.checkType index d type = .error fault) :
    t.Blames index d fault := by
  simp only [checkType, seq_eq_error] at refused
  rcases refused with spelling | ⟨-, aliases⟩
  · simp only [Parameters.checkSpelling] at spelling
    split at spelling
    · next blank =>
      cases spelling
      exact .blank member (by simpa using blank)
    split at spelling
    · next composite =>
      cases spelling
      exact .composite member (Spelling.isComposite_iff.mp composite)
    split at spelling
    · next unbalanced =>
      cases spelling
      refine .unbalanced member fun balanced => ?_
      simp [Spelling.anglesBalanced_iff.mpr balanced] at unbalanced
    · cases spelling
  · obtain ⟨name, token, refusal⟩ := exists_of_forM_eq_error aliases
    obtain ⟨a, found, late, rfl⟩ := exists_of_checkAlias_eq_error refusal
    exact .early member (by rwa [← identifiers_squeeze]) found late

theorem exists_of_checkNew_eq_error {done : List Declaration} {d : Declaration} {fault : Fault}
    (refused : checkNew (done.map .ofRow) (.ofRow d) = .error fault) :
    ∃ first ∈ done, first.symbol = d.symbol ∧
      fault = ⟨.duplicateSymbol d.symbol (first.key, first.origin) (d.key, d.origin), none⟩ := by
  simp only [checkNew, List.find?_map] at refused
  split at refused
  · next found =>
    cases refused
    obtain ⟨first, chosen, rfl⟩ := Option.map_eq_some_iff.mp found
    have same := List.find?_some chosen
    exact ⟨first, List.mem_of_find?_eq_some chosen,
      Declaration.symbol_eq_of_key_eq (eq_of_beq same), rfl⟩
  · split at refused
    · next found =>
      cases refused
      obtain ⟨first, chosen, rfl⟩ := Option.map_eq_some_iff.mp found
      have same := List.find?_some chosen
      exact ⟨first, List.mem_of_find?_eq_some chosen, eq_of_beq same, rfl⟩
    · cases refused

theorem checkNew_eq_ok_iff {done : List Declaration} {d : Declaration} :
    checkNew (done.map .ofRow) (.ofRow d) = .ok () ↔ d.symbol ∉ done.map Declaration.symbol := by
  constructor
  · intro new member
    obtain ⟨first, member, same⟩ := List.mem_map.mp member
    simp only [checkNew, List.find?_map] at new
    split at new
    · cases new
    · split at new
      · cases new
      · next none =>
        rw [Option.map_eq_none_iff, List.find?_eq_none] at none
        exact none first member (by simp [Checked.ofRow, same])
  · intro new
    cases result : checkNew (done.map .ofRow) (.ofRow d) with
    | ok _ => rfl
    | error fault =>
      obtain ⟨first, member, same, -⟩ := exists_of_checkNew_eq_error result
      exact absurd (List.mem_map.mpr ⟨first, member, same⟩) new

theorem checkRow_eq_ok_iff {done : List Declaration} {d : Declaration} :
    t.checkRow (done.map .ofRow) d = .ok () ↔
      t.RowValid done.length d ∧ d.symbol ∉ done.map Declaration.symbol := by
  simp only [checkRow, seq_eq_ok, @bind_eq_ok Nat, Parameters.count_eq_ok_iff, forM_eq_ok,
    checkType_eq_ok_iff, checkNew_eq_ok_iff, List.length_map]
  exact ⟨fun ⟨names, _, ⟨arity, _⟩, types, new⟩ => ⟨⟨names, arity, types⟩, new⟩,
    fun ⟨valid, new⟩ => ⟨valid.names, _, ⟨valid.arity, rfl⟩, valid.types, new⟩⟩

theorem blames_of_checkRow_eq_error {done rest : List Declaration} {d : Declaration} {fault : Fault}
    (rows : t.rows = done ++ d :: rest) (distinct : (done.map Declaration.symbol).Nodup)
    (refused : t.checkRow (done.map .ofRow) d = .error fault) : t.Blames done.length d fault := by
  simp only [checkRow, seq_eq_error, @bind_eq_error Nat, List.length_map] at refused
  rcases refused with names | ⟨-, arity | ⟨_, -, types | ⟨-, new⟩⟩⟩
  · exact .names names
  · have beyond : Parameters.limit < d.parameters.length := by
      apply Nat.lt_of_not_le
      intro bound
      rw [Parameters.count_of_le bound] at arity
      cases arity
    rw [Parameters.count_of_lt beyond] at arity
    cases arity
    exact .arity beyond
  · obtain ⟨type, member, refusal⟩ := exists_of_forM_eq_error types
    exact blames_of_checkType_eq_error member refusal
  · obtain ⟨first, member, same, rfl⟩ := exists_of_checkNew_eq_error new
    obtain ⟨j, bound, rfl⟩ := List.getElem_of_mem member
    have place : t.rows[j]? = some done[j] := by
      rw [rows, List.getElem?_append_left bound, List.getElem?_eq_getElem bound]
    refine .duplicate bound place same fun k other before found symbol => ?_
    rw [rows, List.getElem?_append_left before, List.getElem?_eq_getElem before] at found
    cases found
    refine (List.getElem?_inj (by simpa using before) distinct).mp ?_
    simp [List.getElem?_eq_getElem before, List.getElem?_eq_getElem bound, symbol, same]

theorem checkRows_append (before : List Checked) (done rest : List Declaration) :
    t.checkRows before (done ++ rest) =
      (do t.checkRows before done; t.checkRows (before ++ done.map .ofRow) rest) := by
  induction done generalizing before with
  | nil => simp [checkRows]
  | cons d done ih =>
    simp only [List.cons_append, checkRows, List.map_cons]
    cases t.checkRow before d with
    | error fault => rfl
    | ok _ => simp [ih]

theorem checkRows_upTo (count : Nat) (before : List Checked) (rows : List Declaration) :
    (t.upTo count).checkRows before rows = t.checkRows before rows := by
  induction rows generalizing before with
  | nil => rfl
  | cons d rows ih => simp only [checkRows, ih]; rfl

theorem validate_upTo (count : Nat) :
    (t.upTo count).validate = t.checkRows [] (t.rows.take count) := by
  rw [validate, checkRows_upTo]; rfl

theorem checkRows_eq_ok_iff {done rest : List Declaration}
    (distinct : (done.map Declaration.symbol).Nodup) :
    t.checkRows (done.map .ofRow) rest = .ok () ↔
      (∀ i d, rest[i]? = some d → t.RowValid (done.length + i) d) ∧
        ((done ++ rest).map Declaration.symbol).Nodup := by
  induction rest generalizing done with
  | nil => simp [checkRows, distinct]
  | cons d rest ih =>
    have step : done.map Checked.ofRow ++ [.ofRow d] = (done ++ [d]).map .ofRow := by simp
    have rows : done ++ d :: rest = (done ++ [d]) ++ rest := by simp
    -- The row moves to those that have been checked; its symbol must be none of theirs.
    rw [checkRows, seq_eq_ok, checkRow_eq_ok_iff, step, rows]
    constructor
    · rintro ⟨⟨valid, new⟩, later⟩
      have distinct : ((done ++ [d]).map Declaration.symbol).Nodup := by
        rw [List.map_append, List.nodup_append]
        refine ⟨distinct, by simp, fun symbol member last isLast => ?_⟩
        rw [List.map_singleton, List.mem_singleton] at isLast
        rintro rfl
        exact new (isLast ▸ member)
      obtain ⟨valids, symbols⟩ := (ih distinct).mp later
      refine ⟨fun i other found => ?_, symbols⟩
      cases i with
      | zero => cases found; exact valid
      | succ i => simpa [Nat.add_assoc, Nat.add_comm 1] using valids i other found
    · rintro ⟨valids, symbols⟩
      have distinct : ((done ++ [d]).map Declaration.symbol).Nodup := by
        rw [List.map_append] at symbols
        exact (List.nodup_append.mp symbols).1
      have new : d.symbol ∉ done.map Declaration.symbol := by
        rw [List.map_append, List.nodup_append] at distinct
        exact fun member => distinct.2.2 _ member d.symbol (by simp) rfl
      refine ⟨⟨valids 0 d rfl, new⟩, (ih distinct).mpr ⟨fun i other found => ?_, symbols⟩⟩
      · simpa [Nat.add_assoc, Nat.add_comm 1] using valids (i + 1) other found

theorem checkRows_nil_eq_ok_iff {rows : List Declaration} :
    t.checkRows [] rows = .ok () ↔
      (∀ i d, rows[i]? = some d → t.RowValid i d) ∧ (rows.map Declaration.symbol).Nodup := by
  simpa using @checkRows_eq_ok_iff t [] rows (by simp)

theorem exists_of_checkRows_eq_error {before : List Checked} {rows : List Declaration} {fault : Fault}
    (refused : t.checkRows before rows = .error fault) :
    ∃ done d rest, rows = done ++ d :: rest ∧ t.checkRows before done = .ok () ∧
      t.checkRow (before ++ done.map .ofRow) d = .error fault := by
  induction rows generalizing before with
  | nil => cases refused
  | cons d rows ih =>
    simp only [checkRows, seq_eq_error] at refused
    rcases refused with here | ⟨passed, later⟩
    · exact ⟨[], d, rows, rfl, rfl, by simpa using here⟩
    · obtain ⟨done, other, rest, rfl, fine, refusal⟩ := ih later
      exact ⟨d :: done, other, rest, rfl, by simp [checkRows, passed, fine], by simpa using refusal⟩

theorem validate_eq_ok_iff : t.validate = .ok () ↔ t.Valid := by
  rw [validate, checkRows_nil_eq_ok_iff]
  exact ⟨fun ⟨rows, symbols⟩ => ⟨rows, symbols⟩, fun valid => ⟨valid.rows, valid.symbols⟩⟩

theorem Valid.exists_rowValid (valid : t.Valid) {d : Declaration} (row : d ∈ t.rows) : ∃ i, t.RowValid i d := by
  obtain ⟨i, found⟩ := List.mem_iff_getElem?.mp row
  exact ⟨i, valid.rows i d found⟩

theorem checkNames_of_validate (valid : t.validate = .ok ()) {d : Declaration} (row : d ∈ t.rows) :
    d.checkNames = .ok () := by
  obtain ⟨_, accepted⟩ := (validate_eq_ok_iff.mp valid).exists_rowValid row
  exact accepted.names

theorem exists_blames {fault : Fault} (refused : t.validate = .error fault) :
    ∃ i d, t.rows[i]? = some d ∧ t.Blames i d fault := by
  obtain ⟨done, d, rest, rows, passed, refusal⟩ := exists_of_checkRows_eq_error refused
  have distinct := (checkRows_nil_eq_ok_iff.mp passed).2
  exact ⟨done.length, d, by simp [rows], blames_of_checkRow_eq_error rows distinct refusal⟩

theorem validate_iff_and_first (t : Table) :
    (t.validate = .ok () ↔ t.Valid) ∧
      ∀ fault, t.validate = .error fault → ∃ i d, t.rows[i]? = some d ∧ t.Blames i d fault ∧
        ∀ n, (t.upTo n).validate = if n ≤ i then .ok () else .error fault := by
  refine ⟨validate_eq_ok_iff, fun fault refused => ?_⟩
  obtain ⟨done, d, rest, rows, passed, refusal⟩ := exists_of_checkRows_eq_error refused
  have distinct := (checkRows_nil_eq_ok_iff.mp passed).2
  refine ⟨done.length, d, by simp [rows], blames_of_checkRow_eq_error rows distinct refusal, fun n => ?_⟩
  rw [validate_upTo, rows]
  split
  · next within =>
    rw [List.take_append_of_le_length within]
    rw [← List.take_append_drop n done, checkRows_append, seq_eq_ok] at passed
    exact passed.1
  · next beyond =>
    -- With more rows the refused one is reached, and what is behind it is not looked at.
    obtain ⟨more, rfl⟩ := Nat.exists_eq_add_of_lt (Nat.lt_of_not_le beyond)
    rw [List.take_append, checkRows_append, List.take_of_length_le (by omega), passed,
      show done.length + more + 1 - done.length = more + 1 by omega, List.take_succ_cons]
    simp only [ok_bind, checkRows, refusal]
    rfl

/-- Two rows with different keys and one symbol. -/
def doubled : Table :=
  { rows := [{ subject := "A", result := "void", method := "f", tag := "_g" },
      { subject := "A_f", result := "void", method := "g" }] }

theorem validate_iff_and_first_doubled :
    ∃ fault, doubled.validate = .error fault ∧
      ∃ i d, doubled.rows[i]? = some d ∧ doubled.Blames i d fault ∧
        ∀ n, (doubled.upTo n).validate = if n ≤ i then .ok () else .error fault :=
  ⟨_, rfl, (validate_iff_and_first doubled).2 _ rfl⟩

end Table

end Forwarding
