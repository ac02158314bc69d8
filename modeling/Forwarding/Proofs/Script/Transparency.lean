import Forwarding.Proofs.Rendition.Agreement
import Forwarding.Proofs.Script.Literal
import Forwarding.Proofs.Script.Regular
import Forwarding.Script.Reader
import Mathlib.Data.List.Nodup

/-! Forwarding is transparent: calling a symbol of a loaded module is calling the method of its row.

A module that is rendered from a valid table has regular form as long as no type spells a quote, a backslash or
a null, so that its functions are known by its lines, each under a symbol of its own. `run_load` is the main
statement.
-/

set_option autoImplicit false

namespace Forwarding

open Text

/-! ### Calls of a function -/

namespace Script.Subject

variable {s : Subject} {method : Text}

theorem call_of_has (has : s.has method = true) (arguments : List Value) :
    s.call method arguments = (s.respond method arguments, [(method, arguments)]) := by
  simp [call, has]

theorem call_of_lacks (lacks : s.has method = false) (arguments : List Value) :
    s.call method arguments = (.error (.noMethod method), []) := by
  simp [call, lacks]

end Script.Subject

namespace Script.Function

/-- Each parameter has the argument at its place. -/
theorem filterMap_lookup_zip {names : List Text} {arguments : List Value} (distinct : names.Nodup)
    (length : arguments.length = names.length) :
    names.filterMap (fun name => (names.zip arguments).lookup name) = arguments := by
  induction names generalizing arguments with
  | nil =>
    rw [List.length_nil, List.length_eq_zero_iff] at length
    rw [length]
    rfl
  | cons name names ih =>
    cases arguments with
    | nil => cases length
    | cons v arguments =>
      rw [List.nodup_cons] at distinct
      have first : ((name :: names).zip (v :: arguments)).lookup name = some v := by simp
      have others : names.filterMap (fun other => ((name :: names).zip (v :: arguments)).lookup other) =
          names.filterMap fun other => (names.zip arguments).lookup other := by
        refine List.filterMap_congr fun other member => ?_
        have differ : (other == name) = false := by
          simpa using fun same : other = name => distinct.1 (same ▸ member)
        rw [List.zip_cons_cons, List.lookup_cons, differ]
      rw [List.filterMap_cons, first, others, ih distinct.2 (Nat.succ.inj length)]

variable {f : Function}

theorem call_of_length_eq (passed : f.passed = f.parameters) (distinct : f.parameters.Nodup) (subject : Subject)
    {arguments : List Value} (length : arguments.length = f.parameters.length) :
    f.call subject arguments = subject.call f.method arguments := by
  have notMore : ¬ f.parameters.length < arguments.length := Nat.not_lt.mpr (Nat.le_of_eq length)
  have notLess : ¬ arguments.length < f.parameters.length := Nat.not_lt.mpr (Nat.le_of_eq length.symm)
  rw [call, if_neg notMore, if_neg notLess, passedValues, passed, filterMap_lookup_zip distinct length]

/-- Another number of arguments is refused before any method is called. -/
theorem call_of_length_ne (f : Function) (subject : Subject) {arguments : List Value}
    (length : arguments.length ≠ f.parameters.length) :
    ∃ error, error.kind = "TypeError".toList ∧ f.call subject arguments = (.error error, []) := by
  unfold call
  split
  · exact ⟨_, rfl, rfl⟩
  split
  · exact ⟨_, rfl, rfl⟩
  · next notMore notLess =>
    exact absurd (Nat.le_antisymm (Nat.le_of_not_lt notMore) (Nat.le_of_not_lt notLess)) length

end Script.Function

/-! ### Functions of a module -/

namespace Script

theorem read_of_regular {t : Text} {m : Regular} (known : Regular.ofText? (unixNewlines t) = some m) :
    read t = .ok (ofRegular m) := by
  unfold read
  simp only [known]

theorem run_of_function? {m : Script} {symbol : Text} {f : Function} (found : m.function? symbol = some f)
    (subject : Subject) (arguments : List Value) :
    m.run symbol subject arguments = (f.call subject arguments, m) := by
  unfold run
  simp only [found]

theorem function?_ofRegular {m : Regular} (distinct : (m.functions.map Function.symbol).Nodup) {f : Function}
    (member : f ∈ m.functions) (other : f.symbol ≠ listName) : (ofRegular m).function? f.symbol = some f := by
  have inside : f ∈ (m.functions.filter fun g => g.symbol != listName).reverse := by
    simpa using ⟨member, other⟩
  have kept : ((m.functions.filter fun g => g.symbol != listName).reverse.map Function.symbol).Nodup := by
    rw [List.map_reverse, List.nodup_reverse]
    exact distinct.sublist (List.filter_sublist.map _)
  exact find?_name kept inside

end Script

/-! ### Functions of a table -/

namespace Parameters

theorem nodup_names (n : Nat) : (names n).Nodup := by
  refine List.pairwise_map.mpr (List.nodup_range.imp fun {i j} differ same => differ ?_)
  exact Nat.succ.inj (decimal_injective (List.append_cancel_left same))

end Parameters

namespace Script

/-- Words of the language have no underscore in them. -/
theorem isName_of_underscore {t : Text} (core : isIdentifierCore t = true) (inside : '_' ∈ t)
    (other : t ≠ "__debug__".toList) : isName t = true := by
  have free : ∀ word ∈ reservedWords, '_' ∉ word := by decide
  have unreserved : isKeyword t = false := by
    simpa [isKeyword_eq] using fun member : t ∈ reservedWords => free t member inside
  simp only [isName, core, unreserved, Bool.not_false, Bool.and_self, Bool.true_and]
  simpa using other

theorem isName_of_mem_names {n : Nat} {name : Text} (member : name ∈ Parameters.names n) : isName name = true := by
  obtain ⟨i, -, rfl⟩ := List.mem_map.mp member
  have digits : '_' ∉ decimal (i + 1) := fun inside =>
    absurd (Nat.isDigit_of_mem_toDigits (by decide) (by decide) inside) (by decide)
  refine isName_of_underscore ?_ (List.mem_cons_self ..) fun same => digits ?_
  · exact isIdentifierCore_append rfl fun c inside => isIdentifierRest_of_mem_decimal inside
  · rw [show decimal (i + 1) = "_debug__".toList from List.tail_eq_of_cons_eq same]
    decide

end Script

namespace Declaration

/-- The types of a row are spelled without characters that mean something between quotes. -/
def Plain (d : Declaration) : Prop :=
  ∀ type ∈ d.result :: d.parameters, '"' ∉ type ∧ '\\' ∉ type ∧ '\x00' ∉ type

/-- The name starts and ends with two underscores. -/
def Dunder (name : Text) : Prop := "__".toList <+: name ∧ "__".toList <:+ name

instance (d : Declaration) : Decidable d.Plain := inferInstanceAs (Decidable (∀ _ ∈ _, _))

instance (name : Text) : Decidable (Dunder name) := inferInstanceAs (Decidable (_ ∧ _))

variable {d : Declaration}

theorem not_mem_signature (accepted : d.checkNames = .ok ()) {c : Char} (solid : isBlank c = false)
    (other : isIdentifierRest c = false) (mark : c ∉ ['&', '*', ':', ' ', '(', ')', ','])
    (types : ∀ type ∈ d.result :: d.parameters, c ∉ type) : c ∉ d.signature := by
  simp only [List.mem_cons, List.not_mem_nil, or_false, not_or] at mark
  rw [List.forall_mem_cons] at types
  obtain ⟨subject, method, -⟩ := not_mem_of_checkNames accepted solid other (by simp [mark])
  have bare : c ∉ d.subjectName := fun member => subject (d.subjectName_isInfix.subset member)
  have parameters : c ∉ join ", " d.parameters := not_mem_join (by simp [mark]) types.2
  unfold signature
  simpa [types.1, bare, method, mark] using parameters

theorem isWritten_signature (accepted : d.checkNames = .ok ()) (plain : d.Plain) :
    Script.isWritten d.signature = true :=
  Script.isWritten_of_not_mem
    (not_mem_signature accepted rfl rfl (by decide) fun type member => (plain type member).1)
    (not_mem_signature accepted rfl rfl (by decide) fun type member => (plain type member).2.1)
    (not_mem_signature accepted rfl rfl (by decide) fun type member => (plain type member).2.2)

theorem isRegular_function (row : d.Renderable) (written : Script.isWritten d.signature = true)
    (symbol : ¬ Dunder d.symbol) : (Forwarder.make d).function.isRegular = true := by
  -- Every symbol has the underscore between class and method, so that none is a word of the language.
  have underscore : '_' ∈ d.symbol := by simp [Declaration.symbol, symbolOf]
  have named : Script.isName d.symbol = true :=
    Script.isName_of_underscore row.symbol underscore fun same => symbol (by rw [same]; decide)
  have actual : (Forwarder.make d).function.parameters = Parameters.names d.parameters.length :=
    Parameters.actual_named d.parameters
  have passed : (Forwarder.make d).function.passed = Parameters.names d.parameters.length :=
    Parameters.actual_named d.parameters
  have distinct : ("subject".toList :: Parameters.names d.parameters.length).Nodup := by
    refine List.nodup_cons.mpr ⟨fun member => ?_, Parameters.nodup_names _⟩
    obtain ⟨i, -, same⟩ := List.mem_map.mp member
    exact absurd (List.head_eq_of_cons_eq same) (by decide)
  rw [Script.Function.isRegular, actual, passed]
  simp only [Bool.and_eq_true, List.all_eq_true, List.contains_iff_mem, decide_eq_true_eq]
  exact ⟨⟨⟨⟨⟨named, fun name => Script.isName_of_mem_names⟩, distinct⟩, row.method⟩,
    written⟩, fun name member => member⟩

end Declaration

namespace Table

open Rendition

variable {t : Table} {source text : Text}

def regular (t : Table) : Script.Regular :=
  { document := moduleOpening.tail.dropLast
    functions := t.rows.map fun d => (Forwarder.make d).function }

theorem moduleLines_ofTable (s : Setting) (t : Table) :
    moduleLines (.ofTable s t (t.rows.map .make)) = t.regular.lines := by
  have symbols : (t.rows.map Forwarder.make).map Forwarder.symbol =
      t.regular.functions.map Script.Function.symbol := by
    rw [regular, List.map_map, List.map_map]
    rfl
  have functions : (t.rows.map Forwarder.make).flatMap (·.function.lines) =
      t.regular.functions.flatMap Script.Function.lines := by
    rw [regular, List.flatMap_map, List.flatMap_map]
  have opening : moduleOpening = Script.documentMark :: t.regular.document ++ [Script.documentMark] := rfl
  rw [moduleLines, Script.Regular.lines]
  simp only [Sheet.ofTable, symbols, functions, opening, List.cons_append, List.append_assoc, List.nil_append]

/-- A rendered module whose documents can stand between quotes has regular form, and is loaded as such. -/
theorem load_of_written (read : Table.read source text = .ok t) (valid : t.validate = .ok ())
    (written : ∀ d ∈ t.rows, Script.isWritten d.signature = true)
    (symbols : ∀ d ∈ t.rows, ¬ Declaration.Dunder d.symbol) :
    t.load (t.rows.map .make) = .ok (.ofRegular t.regular) := by
  have each := renderable_of_read read valid
  let sheet := Sheet.ofTable { outputDir := .ofText [] } t (t.rows.map .make)
  have unbroken : ∀ line ∈ t.regular.lines, Unbroken line := by
    rw [← moduleLines_ofTable]
    exact unbroken_moduleLines sheet rfl each
  have rendered : Rendition.module sheet = ofLines t.regular.lines := by
    rw [Rendition.module, moduleLines_ofTable]
  have regular : ∀ f ∈ t.regular.functions, f.isRegular = true := by
    refine List.forall_mem_map.mpr fun d row => ?_
    exact Declaration.isRegular_function (each d row) (written d row) (symbols d row)
  -- A carriage return would end a line when the text is loaded.
  have unixLines : '\r' ∉ ofLines t.regular.lines := by
    intro member
    obtain ⟨line, inside, found⟩ := List.mem_flatMap.mp member
    rw [List.mem_append, List.mem_singleton] at found
    exact found.elim (unbroken line inside).not_mem_return (by decide)
  have literal : ∀ line ∈ moduleOpening.tail.dropLast, Script.isLiteral line = true := by decide +kernel
  have known : Script.Regular.ofText? (unixNewlines (Rendition.module sheet)) = some t.regular := by
    rw [rendered, unixNewlines_of_not_mem unixLines]
    exact Script.Regular.ofText?_ofLines literal regular fun line member => (unbroken line member).not_mem_feed
  have text : t.render {} none { outputDir := .ofText [] } Target.module.templateName (t.rows.map .make) =
      .ok (Rendition.module sheet) := rfl
  rw [Table.load, text, Checks.ok_bind]
  exact Script.read_of_regular known

theorem load_eq (read : Table.read source text = .ok t) (valid : t.validate = .ok ())
    (plain : ∀ d ∈ t.rows, d.Plain) (symbols : ∀ d ∈ t.rows, ¬ Declaration.Dunder d.symbol) :
    t.load (t.rows.map .make) = .ok (.ofRegular t.regular) := by
  refine load_of_written read valid (fun d row => ?_) symbols
  exact Declaration.isWritten_signature (checkNames_of_validate valid row) (plain d row)

/-- Forwarding is transparent: in the module of a table whose types are spelled plainly, calling the symbol of a
row with as many arguments as the row has parameters is one call of its method with these arguments, whatever the
subject and the outcome, and with any other number a type error before a method is called. -/
theorem run_load (read : Table.read source text = .ok t) (valid : t.validate = .ok ())
    (plain : ∀ d ∈ t.rows, d.Plain) (symbols : ∀ d ∈ t.rows, ¬ Declaration.Dunder d.symbol) :
    ∃ made script, t.forwarders = .ok made ∧ t.load made = .ok script ∧
      ∀ d ∈ t.rows, ∀ (subject : Script.Subject) (arguments : List Script.Value),
        (arguments.length = d.parameters.length → subject.has d.method = true →
          script.run d.symbol subject arguments =
            ((subject.respond d.method arguments, [(d.method, arguments)]), script)) ∧
        (arguments.length = d.parameters.length → subject.has d.method = false →
          script.run d.symbol subject arguments = ((.error (.noMethod d.method), []), script)) ∧
        (arguments.length ≠ d.parameters.length → ∃ error, error.kind = "TypeError".toList ∧
          script.run d.symbol subject arguments = ((.error error, []), script)) := by
  refine ⟨_, _, forwarders_of_validate valid, load_eq read valid plain symbols, ?_⟩
  intro d row subject arguments
  have distinct : (t.regular.functions.map Script.Function.symbol).Nodup := by
    rw [regular, List.map_map]
    exact (validate_eq_ok_iff.mp valid).symbols
  -- A function with this symbol would be gone once the list of symbols is made.
  have other : d.symbol ≠ Script.listName := fun same => symbols d row (by rw [same]; decide)
  have member : (Forwarder.make d).function ∈ t.regular.functions := List.mem_map_of_mem row
  have found : (Script.ofRegular t.regular).function? d.symbol = some (Forwarder.make d).function :=
    Script.function?_ofRegular (f := (Forwarder.make d).function) distinct member other
  have parameters : (Forwarder.make d).function.parameters = Parameters.names d.parameters.length :=
    Parameters.actual_named d.parameters
  have count : (Forwarder.make d).function.parameters.length = d.parameters.length := by
    rw [parameters, Parameters.length_names]
  have once : (Forwarder.make d).function.parameters.Nodup := by
    rw [parameters]
    exact Parameters.nodup_names _
  have one (length : arguments.length = d.parameters.length) :
      (Forwarder.make d).function.call subject arguments = subject.call d.method arguments :=
    Script.Function.call_of_length_eq rfl once subject (length.trans count.symm)
  rw [Script.run_of_function? found subject arguments]
  refine ⟨fun length has => ?_, fun length lacks => ?_, fun length => ?_⟩
  · rw [one length, Script.Subject.call_of_has has arguments]
  · rw [one length, Script.Subject.call_of_lacks lacks arguments]
  · obtain ⟨error, kind, refused⟩ := Script.Function.call_of_length_ne (Forwarder.make d).function subject
      fun same => length (same.trans count)
    exact ⟨error, kind, by rw [refused]⟩

theorem run_load_overloads : ∃ t made script,
    Table.read "t" "PROXY(A, int, import, int);\nPROXY_OVERLOAD(A, int, f, _x);\nPROXY_OVERLOAD(A, int, f, _y, int);" =
      .ok t ∧ t.forwarders = .ok made ∧ t.load made = .ok script ∧
    script.run "A_import" ⟨fun _ => true, fun method _ => .ok (.text method)⟩ [.integer 7] =
      ((Except.ok (.text "import"), [("import".toList, [Script.Value.integer 7])]), script) ∧
    script.run "A_f_x" ⟨fun _ => true, fun method _ => .ok (.text method)⟩ [] =
      ((Except.ok (.text "f"), [("f".toList, [])]), script) ∧
    script.run "A_f_y" ⟨fun _ => true, fun method _ => .ok (.text method)⟩ [.nothing] =
      ((Except.ok (.text "f"), [("f".toList, [Script.Value.nothing])]), script) ∧
    ∃ error, error.kind = "TypeError".toList ∧
      script.run "A_f_x" ⟨fun _ => true, fun method _ => .ok (.text method)⟩ [.nothing] =
        ((.error error, []), script) := by
  obtain ⟨made, script, listed, loaded, calls⟩ := @run_load _ "t"
    "PROXY(A, int, import, int);\nPROXY_OVERLOAD(A, int, f, _x);\nPROXY_OVERLOAD(A, int, f, _y, int);"
    rfl (by decide +kernel) (by decide +kernel) (by decide +kernel)
  refine ⟨_, made, script, rfl, listed, loaded, ?_, ?_, ?_, ?_⟩
  · exact (calls ⟨"A", "int", "import", ["int".toList], [], [], some "t:1"⟩ (by decide +kernel) _ [.integer 7]).1 rfl rfl
  · exact (calls ⟨"A", "int", "f", [], "_x", [], some "t:2"⟩ (by decide +kernel) _ []).1 rfl rfl
  · exact (calls ⟨"A", "int", "f", ["int".toList], "_y", [], some "t:3"⟩ (by decide +kernel) _ [.nothing]).1 rfl rfl
  · exact (calls ⟨"A", "int", "f", [], "_x", [], some "t:2"⟩ (by decide +kernel) _ [.nothing]).2.2 (by decide)

end Table

end Forwarding
