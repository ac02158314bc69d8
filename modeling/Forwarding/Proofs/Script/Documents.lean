import Forwarding.Proofs.Script.Members
import Forwarding.Proofs.Script.Transparency
import Forwarding.Proofs.Text.Replacement

/-! What the functions of a loaded module say about themselves.

The document of a function is the signature of its row as it is spelled, put between quotes. It is read back as it
is spelled just when no type has an escape in it; `documents_iff` is the main statement.
-/

set_option autoImplicit false

namespace Forwarding

open Text

/-! ### Texts in joined ones -/

namespace Text

variable {part s t : Text} {c : Char} {pieces : List Text}

/-- A text without a character stands on one side of it. -/
theorem infix_append_cons_iff (outside : c ∉ part) : part <:+: s ++ c :: t ↔ part <:+: s ∨ part <:+: t := by
  constructor
  · intro inside
    -- It begins behind `s`, or in `s`, and there it ends before the character since it does not have it.
    rcases infix_append_cases inside with behind | ⟨y, last, -, starts⟩
    · rcases List.infix_cons_iff.mp behind with first | later
      · cases part with
        | nil => exact .inl List.nil_infix
        | cons d part =>
          obtain ⟨rfl, -⟩ := List.cons_prefix_cons.mp first
          exact absurd (List.mem_cons_self ..) outside
      · exact .inr later
    · have cut : y ++ [c] <+: y ++ c :: t := ⟨t, by simp⟩
      rcases List.prefix_or_prefix_of_prefix starts cut with short | long
      · rcases List.prefix_concat_iff.mp short with rfl | before
        · exact absurd (by simp) outside
        · exact .inl (before.isInfix.trans last.isInfix)
      · exact absurd (long.subset (by simp)) outside
  · rintro (before | behind)
    · exact before.trans (List.prefix_append s _).isInfix
    · exact behind.trans ((List.suffix_cons c t).trans (List.suffix_append s _)).isInfix

theorem infix_join_iff (given : part ≠ []) (comma : ',' ∉ part) (blank : ' ' ∉ part) :
    part <:+: join ", " pieces ↔ ∃ piece ∈ pieces, part <:+: piece := by
  induction pieces with
  | nil => simp [given]
  | cons first pieces ih =>
    cases pieces with
    | nil => simp
    | cons second rest =>
      have parts : join ", " (first :: second :: rest) =
          first ++ ',' :: ([] ++ ' ' :: join ", " (second :: rest)) := by
        rw [join_cons_cons]
        rfl
      rw [parts, infix_append_cons_iff comma, infix_append_cons_iff blank, ih]
      simp [given]

end Text

/-! ### Signatures -/

namespace Declaration

variable {d : Declaration}

theorem infix_signature_iff (accepted : d.checkNames = .ok ()) {part : Text} {c : Char} (member : c ∈ part)
    (solid : isBlank c = false) (other : isIdentifierRest c = false) (mark : c ∉ ['&', '*', ':'])
    (outside : ∀ separator ∈ [' ', '(', ')', ','], separator ∉ part) :
    part <:+: d.signature ↔ ∃ type ∈ d.result :: d.parameters, part <:+: type := by
  have given : part ≠ [] := List.ne_nil_of_mem member
  obtain ⟨subject, method, -⟩ := not_mem_of_checkNames accepted solid other mark
  have names : ¬ part <:+: d.subjectName ++ ("::" ++ d.method) := by
    intro inside
    have found := inside.subset member
    simp only [List.mem_append] at found
    rcases found with inSubject | inMark | inMethod
    · exact subject (d.subjectName_isInfix.subset inSubject)
    · have known : ∀ e ∈ "::".toList, e ∈ ['&', '*', ':'] := by decide
      exact mark (known c inMark)
    · exact method inMethod
  have parts : d.signature = d.result ++ ' ' :: (d.subjectName ++ ("::" ++ d.method) ++
      '(' :: (join ", " d.parameters ++ ')' :: [])) := by
    simp [signature]
  rw [parts, infix_append_cons_iff (outside ' ' (by simp)), infix_append_cons_iff (outside '(' (by simp)),
    infix_append_cons_iff (outside ')' (by simp)),
    infix_join_iff given (outside ',' (by simp)) (outside ' ' (by simp)), List.infix_nil, List.exists_mem_cons_iff]
  simp only [names, given, false_or, or_false]

/-- No type of the row has a backslash that means something between quotes. -/
def Unescaped (d : Declaration) : Prop := ∀ type ∈ d.result :: d.parameters, ¬ Script.Escapes type

instance (d : Declaration) : Decidable d.Unescaped := inferInstanceAs (Decidable (∀ _ ∈ _, _))

theorem not_escapes_signature_iff (accepted : d.checkNames = .ok ()) :
    ¬ Script.Escapes d.signature ↔ d.Unescaped := by
  have each : ∀ c ∈ Script.escapeCharacters, (['\\', c] <:+: d.signature ↔
      ∃ type ∈ d.result :: d.parameters, ['\\', c] <:+: type) := by
    intro c known
    have outside : ∀ c ∈ Script.escapeCharacters, ∀ separator ∈ [' ', '(', ')', ','],
        separator ∉ ['\\', c] := by decide
    exact infix_signature_iff accepted (List.mem_cons_self ..) rfl rfl (by decide) (outside c known)
  constructor
  · rintro none type member ⟨c, known, inside⟩
    exact none ⟨c, known, (each c known).mpr ⟨type, member, inside⟩⟩
  · rintro each' ⟨c, known, inside⟩
    obtain ⟨type, member, found⟩ := (each c known).mp inside
    exact each' type member ⟨c, known, found⟩

/-- A signature can be put between quotes if its types have no escapes, no nulls and no three quotes in a row. -/
theorem isWritten_signature_of_unescaped (accepted : d.checkNames = .ok ()) (unescaped : d.Unescaped)
    (closed : ∀ type ∈ d.result :: d.parameters, '\x00' ∉ type ∧ ¬ Script.documentMark <:+: type) :
    Script.isWritten d.signature = true := by
  have last : d.signature.getLast? = some ')' := List.getLast?_concat
  refine Script.isWritten_of_plain ?_ ?_ (by simp [last]) (by simp [last])
    ((not_escapes_signature_iff accepted).mpr unescaped)
  · exact not_mem_signature accepted rfl rfl (by decide) fun type member => (closed type member).1
  · have quote : '"' ∈ Script.documentMark := List.mem_cons_self ..
    rw [infix_signature_iff accepted quote rfl rfl (by decide) (by decide)]
    rintro ⟨type, member, inside⟩
    exact (closed type member).2 inside

end Declaration

/-! ### Documents -/

namespace Table

variable {t : Table} {source text : Text}

theorem distinct_regular (valid : t.validate = .ok ()) (symbols : ∀ d ∈ t.rows, ¬ Declaration.Dunder d.symbol) :
    t.regular.Distinct where
  nodup := by
    rw [regular, List.map_map]
    exact (validate_eq_ok_iff.mp valid).symbols
  plain := by
    refine List.forall_mem_map.mpr fun d row special => ?_
    -- A symbol has an underscore between class and method, so that it is special only with two on each side.
    have known : ∀ name ∈ Script.specialNames, Declaration.Dunder name ∨ '_' ∉ name := by decide
    rcases known _ special with dunder | bare
    · exact symbols d row dunder
    · have inside : '_' ∈ d.symbol := by simp [Declaration.symbol, Declaration.symbolOf]
      exact bare inside

/-- The symbols of a table, each with what its function says. -/
def documents (t : Table) : List (Script.Value × Script.Value) :=
  t.rows.map fun d => (.text d.symbol, .text (Forwarder.make d).function.spoken)

theorem documents_regular (valid : t.validate = .ok ()) (symbols : ∀ d ∈ t.rows, ¬ Declaration.Dunder d.symbol) :
    (Script.ofRegular t.regular).documents = (.ok t.documents, .ofRegular t.regular) := by
  rw [Script.documents_ofRegular (distinct_regular valid symbols), regular, List.map_map]
  rfl

theorem documents_eq_iff (valid : t.validate = .ok ()) (written : ∀ d ∈ t.rows, Script.isWritten d.signature = true) :
    t.documents = t.rows.map (fun d => (.text d.symbol, .text d.signature)) ↔ ∀ d ∈ t.rows, d.Unescaped := by
  rw [documents, List.map_inj_left]
  refine forall₂_congr fun d row => ?_
  have said : (Forwarder.make d).function.spoken = d.signature ↔ ¬ Script.Escapes d.signature :=
    Script.Function.spoken_eq_iff (written d row)
  rw [← Declaration.not_escapes_signature_iff (checkNames_of_validate valid row), ← said]
  simp

/-- Where nothing in the types means anything but itself, the functions say the signatures of their rows. -/
theorem documents_of_unescaped (read : Table.read source text = .ok t) (valid : t.validate = .ok ())
    (unescaped : ∀ d ∈ t.rows, d.Unescaped)
    (closed : ∀ d ∈ t.rows, ∀ type ∈ d.result :: d.parameters, '\x00' ∉ type ∧ ¬ Script.documentMark <:+: type)
    (symbols : ∀ d ∈ t.rows, ¬ Declaration.Dunder d.symbol) :
    ∃ made script, t.forwarders = .ok made ∧ t.load made = .ok script ∧
      script.documents = (.ok (t.rows.map fun d => (.text d.symbol, .text d.signature)), script) := by
  have written : ∀ d ∈ t.rows, Script.isWritten d.signature = true := by
    intro d row
    have accepted := checkNames_of_validate valid row
    exact Declaration.isWritten_signature_of_unescaped accepted (unescaped d row) (closed d row)
  refine ⟨_, _, forwarders_of_validate valid, load_of_written read valid written symbols, ?_⟩
  rw [documents_regular valid symbols, (documents_eq_iff valid written).mpr unescaped]

/-- A module whose documents can stand between quotes is loaded and lists the symbols of the table. What its
functions say are the signatures of the rows just when no type has an escape in it. -/
theorem documents_iff (read : Table.read source text = .ok t) (valid : t.validate = .ok ())
    (written : ∀ d ∈ t.rows, Script.isWritten d.signature = true)
    (symbols : ∀ d ∈ t.rows, ¬ Declaration.Dunder d.symbol) :
    ∃ made script, t.forwarders = .ok made ∧ t.load made = .ok script ∧
      script.documents = (.ok t.documents, script) ∧
      (t.documents = t.rows.map (fun d => (.text d.symbol, .text d.signature)) ↔ ∀ d ∈ t.rows, d.Unescaped) :=
  ⟨_, _, forwarders_of_validate valid, load_of_written read valid written symbols,
    documents_regular valid symbols, documents_eq_iff valid written⟩

def escaped : Table :=
  { rows := [⟨"A", "void", "f", ["Buf<'\\n'>".toList], [], [], some "t:1"⟩]
    sources := ["t".toList] }

theorem read_escaped : Table.read "t" "PROXY(A, void, f, Buf<'\\n'>);" = .ok escaped := rfl

theorem validate_escaped : escaped.validate = .ok () := by decide +kernel

theorem isWritten_escaped : ∀ d ∈ escaped.rows, Script.isWritten d.signature = true := by decide +kernel

theorem not_dunder_escaped : ∀ d ∈ escaped.rows, ¬ Declaration.Dunder d.symbol := by decide +kernel

theorem not_unescaped_escaped : ¬ ∀ d ∈ escaped.rows, d.Unescaped := by
  intro all
  refine all _ (List.mem_singleton_self _) "Buf<'\\n'>".toList (by decide) ⟨'n', by decide, ?_⟩
  exact ⟨"Buf<'".toList, "'>".toList, rfl⟩

/-- What is spelled as an escape is a line feed in the document. -/
theorem documents_iff_escaped : ∃ made script, escaped.forwarders = .ok made ∧ escaped.load made = .ok script ∧
    script.documents = (.ok [(.text "A_f", .text "void A::f(Buf<'\n'>)")], script) ∧
    escaped.documents ≠ escaped.rows.map fun d => (.text d.symbol, .text d.signature) := by
  obtain ⟨made, script, listed, loaded, said, exact⟩ :=
    documents_iff read_escaped validate_escaped isWritten_escaped not_dunder_escaped
  exact ⟨made, script, listed, loaded, said, fun same => not_unescaped_escaped (exact.mp same)⟩

theorem not_documents : ¬ ∀ (source text : Text) (t : Table), Table.read source text = .ok t →
    t.validate = .ok () → (∀ d ∈ t.rows, ¬ Declaration.Dunder d.symbol) →
    ∃ made script, t.forwarders = .ok made ∧ t.load made = .ok script ∧
      script.documents = (.ok (t.rows.map fun d => (.text d.symbol, .text d.signature)), script) := by
  intro all
  obtain ⟨made, script, listed, loaded, said⟩ :=
    all _ _ escaped read_escaped validate_escaped not_dunder_escaped
  cases listed.symm.trans (forwarders_of_validate validate_escaped)
  cases loaded.symm.trans (load_of_written read_escaped validate_escaped isWritten_escaped not_dunder_escaped)
  rw [documents_regular validate_escaped not_dunder_escaped] at said
  have same := Except.ok.inj (congrArg Prod.fst said)
  have texts := congrArg (List.map fun entry => entry.2.text?) same
  exact absurd texts (by decide +kernel)

end Table

end Forwarding
