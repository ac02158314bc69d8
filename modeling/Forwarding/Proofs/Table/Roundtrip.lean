import Forwarding.Proofs.Table.Validation
import Forwarding.Proofs.Table.Writable
import Forwarding.Table.Writer

/-! A table that has been written is read again.

Includes, aliases and rows come back in order. Where a row stood is not part of its content, and the
aliases now stand before all rows, so that a valid table stays valid.
-/

set_option autoImplicit false

namespace Forwarding

open Text Spelling Checks

namespace Declaration

/-- The row without its heading and its place. -/
def content (d : Declaration) : Declaration := { d with heading := [], origin := none }

theorem content_eq_of_spells {d other : Declaration} {form : RowForm} {args : List Text}
    (first : d.Spells form args) (second : other.Spells form args) : other.content = d.content := by
  cases form with
  | plain =>
    obtain ⟨untagged, rfl⟩ := first
    obtain ⟨empty, same⟩ := second
    simp only [List.cons.injEq] at same
    simp [content, untagged, empty, same]
  | overload =>
    have same := first.symm.trans second
    simp only [List.cons.injEq] at same
    simp [content, same]

variable {d : Declaration} (writable : d.Writable)
include writable

theorem Writable.inline : Inline d.write := by
  rw [write_eq]
  exact ⟨Line.unbroken_line _ fun a member => (writable.fields a member).inline.unbroken,
    Line.strip_line _ _⟩

theorem Writable.ofArguments : ∃ again, Declaration.ofArguments d.form (arguments (join ", " d.fields)) =
    .ok again ∧ again.Spells d.form d.fields := by
  have split : arguments (join ", " d.fields) = d.fields := by
    have some : d.fields ≠ [] := List.cons_ne_nil _ _
    rw [arguments_join some writable.closed]
    exact flatMap_arguments fun a member =>
      ⟨(writable.fields a member).inline.stripped, (writable.fields a member).single⟩
  have enough : d.form.leading ≤ d.fields.length := by
    cases tag : d.tag <;> simp [form, Declaration.fields, tag, RowForm.leading]
  obtain ⟨again, made, -, -, spells⟩ := ofArguments_of_nonempty enough fun i a found empty =>
    absurd empty (writable.fields a (List.mem_of_getElem? found)).given
  exact ⟨again, by rw [split, made], spells⟩

end Declaration

namespace Reader

theorem run_append (r : Reader) (number : Nat) (first second : List Text) :
    r.run number (first ++ second) =
      (do (← r.run number first).run (number + first.length) second) := by
  induction first generalizing r number with
  | nil => rfl
  | cons row rows ih =>
    simp only [List.cons_append, run]
    cases r.step number row with
    | error fault => rfl
    | ok next => simp [ih, Nat.add_assoc, Nat.add_comm 1]

theorem run_append_of_ok {r middle : Reader} {number : Nat} {first second : List Text}
    (read : r.run number first = .ok middle) :
    r.run number (first ++ second) = middle.run (number + first.length) second := by
  rw [run_append, read, ok_bind]

theorem run_single (r : Reader) (number : Nat) (row : Text) : r.run number [row] = r.step number row := by
  rw [run]
  cases r.step number row <;> rfl

theorem run_singleton {r next : Reader} {number : Nat} {row : Text} (read : r.step number row = .ok next) :
    r.run number [row] = .ok next := (run_single r number row).trans read

variable {r : Reader}

theorem step_blank (idle : r.pending = none) (number : Nat) : r.step number [] = .ok r := by
  rw [step, idle]
  rfl

theorem run_blank (idle : r.pending = none) (number count : Nat) : r.run number (List.replicate count []) = .ok r := by
  induction count generalizing number with
  | zero => rfl
  | succ count ih => rw [List.replicate_succ, run, step_blank idle, ok_bind, ih]

/-- Empty lines do not complete a row. -/
theorem eq_of_run_blank {count number : Nat} {next : Reader} (sound : r.Sound)
    (read : r.run number (List.replicate count []) = .ok next) (idle : next.pending = none) : next = r := by
  induction count generalizing r number with
  | zero =>
    cases read
    rfl
  | succ count ih =>
    obtain ⟨middle, first, rest⟩ := bind_eq_ok.mp read
    have later := ih (sound.step .nil first) rest
    cases waiting : r.pending with
    | none =>
      rw [step_blank waiting] at first
      cases first
      exact later
    | some p =>
      -- A blank line adds no parentheses, so that an open row stays open to the end.
      have stays : isOpen (p.text ++ " " ++ Line.withoutComment (strip [])) = true := by
        have still := (sound.pending p waiting).2.2
        simp only [isOpen, decide_eq_true_eq, List.count_append] at still ⊢
        exact still
      rw [step, waiting] at first
      simp only [stays, if_true] at first
      cases first
      rw [later] at idle
      cases idle

theorem step_includes {header : Text} (idle : r.pending = none) (number : Nat)
    (written : Inline header ∧ Line.isHeader header = true) (new : header ∉ r.table.includes) :
    r.step number ("#include " ++ header) =
      .ok { r with table := { r.table with includes := r.table.includes ++ [header] } } := by
  have add : r.table.addInclude header = { r.table with includes := r.table.includes ++ [header] } := by
    simp [Table.addInclude, new]
  simp only [step, idle, Line.ofText_includes written.1 written.2, add]

theorem step_definition {a : Alias} (idle : r.pending = none) (number : Nat) (writable : a.Writable)
    (new : a.name ∉ r.table.aliases.map Alias.name) :
    r.step number a.definition = .ok { r with table := { r.table with aliases :=
      r.table.aliases ++ [{ a with position := r.table.rows.length, origin := some (r.place number) }] } } := by
  have added : r.table.register a.name a.underlying (some (r.place number)) = .ok { r.table with aliases :=
      r.table.aliases ++ [{ a with position := r.table.rows.length, origin := some (r.place number) }] } :=
    Table.register_eq_ok_iff.mpr ⟨isIdentifier_of_isIdentifierCore writable.named, new, by rw [writable.squeezed]⟩
  simp only [step, idle, writable.ofText_definition, added]
  rfl

theorem run_includes {headers : List Text} (idle : r.pending = none) (number : Nat)
    (each : ∀ header ∈ headers, Inline header ∧ Line.isHeader header = true)
    (distinct : (r.table.includes ++ headers).Nodup) :
    r.run number (headers.map fun header => "#include " ++ header) =
      .ok { r with table := { r.table with includes := r.table.includes ++ headers } } := by
  induction headers generalizing r number with
  | nil => simp [run]
  | cons header headers ih =>
    rw [List.forall_mem_cons] at each
    rw [List.append_cons] at distinct
    have new : header ∉ r.table.includes := by
      have := (List.nodup_append.mp distinct).1
      exact fun member => (List.nodup_append.mp this).2.2 header member header (by simp) rfl
    rw [List.map_cons, run, step_includes idle number each.1 new, ok_bind]
    have rest := ih (r := { r with table := { r.table with includes := r.table.includes ++ [header] } })
      idle (number + 1) each.2 distinct
    rw [rest]
    simp

theorem run_definitions {aliases : List Alias} (idle : r.pending = none) (number : Nat)
    (each : ∀ a ∈ aliases, a.Writable)
    (distinct : ((r.table.aliases ++ aliases).map Alias.name).Nodup) :
    ∃ more : List Alias, r.run number (aliases.map Alias.definition) =
        .ok { r with table := { r.table with aliases := r.table.aliases ++ more } } ∧
      more.map (fun a => (a.name, a.underlying)) = aliases.map (fun a => (a.name, a.underlying)) ∧
      ∀ a ∈ more, a.position = r.table.rows.length := by
  induction aliases generalizing r number with
  | nil => exact ⟨[], by simp [run], rfl, by simp⟩
  | cons a aliases ih =>
    rw [List.forall_mem_cons] at each
    rw [List.append_cons, List.map_append] at distinct
    have new : a.name ∉ r.table.aliases.map Alias.name := by
      have := (List.nodup_append.mp distinct).1
      rw [List.map_append] at this
      exact fun member => (List.nodup_append.mp this).2.2 a.name member a.name (by simp) rfl
    have first := step_definition idle number each.1 new
    obtain ⟨more, rest, pairs, places⟩ := ih (r := { r with table := { r.table with aliases :=
      r.table.aliases ++ [{ a with position := r.table.rows.length, origin := some (r.place number) }] } })
      idle (number + 1) each.2 (by simpa using distinct)
    refine ⟨{ a with position := r.table.rows.length, origin := some (r.place number) } :: more, ?_,
      by simp [pairs], List.forall_mem_cons.mpr ⟨rfl, places⟩⟩
    rw [List.map_cons, run, first, ok_bind, rest]
    simp

theorem isIdentifierCore_of_run {aliases : List Alias} {number : Nat} {next : Reader} (idle : r.pending = none)
    (each : ∀ a ∈ aliases, a.Definable) (read : r.run number (aliases.map Alias.definition) = .ok next) :
    ∀ a ∈ aliases, isIdentifierCore a.name = true := by
  induction aliases generalizing r number with
  | nil => simp
  | cons a aliases ih =>
    rw [List.forall_mem_cons] at each
    obtain ⟨middle, first, rest⟩ := bind_eq_ok.mp read
    cases core : isIdentifierCore a.name with
    | false =>
      simp only [step, idle, each.1.ofText_definition_of_digit core] at first
      cases first
    | true =>
      have writable : a.Writable := ⟨each.1, core⟩
      simp only [step, idle, writable.ofText_definition] at first
      cases added : r.table.register a.name a.underlying (some (r.place number)) with
      | error fault =>
        rw [added] at first
        cases first
      | ok table =>
        rw [added] at first
        cases first
        exact List.forall_mem_cons.mpr ⟨core, ih (r := ⟨r.source, table, r.heading, none⟩) rfl each.2 rest⟩

/-- Between two readers at rest: these rows have been added, and nothing else but notes. -/
structure Gains (r : Reader) (rows : List Declaration) (next : Reader) : Prop where
  idle : next.pending = none
  rows : next.table.rows.map Declaration.content = (r.table.rows ++ rows).map Declaration.content
  aliases : next.table.aliases = r.table.aliases
  includes : next.table.includes = r.table.includes

end Reader

/-- Written lines that make any reader at rest gain some rows. -/
structure Adds (lines : List Text) (rows : List Declaration) : Prop where
  inline : ∀ line ∈ lines, Inline line
  run : ∀ (r : Reader) (number : Nat), r.pending = none →
    ∃ next, r.run number lines = .ok next ∧ r.Gains rows next

namespace Adds

theorem nil : Adds [] [] :=
  ⟨by simp, fun r _ idle => ⟨r, rfl, idle, by simp, rfl, rfl⟩⟩

theorem append {first second : List Text} {rows more : List Declaration} (one : Adds first rows)
    (two : Adds second more) : Adds (first ++ second) (rows ++ more) := by
  refine ⟨List.forall_mem_append.mpr ⟨one.inline, two.inline⟩, fun r number idle => ?_⟩
  obtain ⟨middle, read, gains⟩ := one.run r number idle
  obtain ⟨next, rest, others⟩ := two.run middle (number + first.length) gains.idle
  refine ⟨next, by rw [Reader.run_append_of_ok read, rest], others.idle, ?_,
    others.aliases.trans gains.aliases, others.includes.trans gains.includes⟩
  rw [others.rows, List.map_append, gains.rows]
  simp

/-- A line that leaves everything but notes and the heading as it is. -/
theorem of_step {line : Text} (inline : Inline line)
    (step : ∀ (r : Reader) (number : Nat), r.pending = none → ∃ next, r.step number line = .ok next ∧
      next.pending = none ∧ next.table.rows = r.table.rows ∧ next.table.aliases = r.table.aliases ∧
        next.table.includes = r.table.includes) : Adds [line] [] := by
  refine ⟨by simpa using inline, fun r number idle => ?_⟩
  obtain ⟨next, read, rest, rows, aliases, includes⟩ := step r number idle
  exact ⟨next, Reader.run_singleton read, rest, by rw [rows, List.append_nil], aliases, includes⟩

theorem blank : Adds [[]] [] :=
  of_step .nil fun r number idle => ⟨r, Reader.step_blank idle number, idle, rfl, rfl, rfl⟩

theorem note {n : Note} (text : Inline n.text) : Adds [n.write] [] := by
  refine of_step (Line.inline_note text) fun r number idle => ?_
  refine ⟨{ r with table := r.table.addNote ⟨n.kind, n.text, r.heading, some (r.place number)⟩ },
    ?_, idle, rfl, rfl, rfl⟩
  simp only [Reader.step, idle, Line.ofText_note text]

theorem headingLines {heading : Text} (inline : Inline heading) (plain : heading.head? ≠ some ':') :
    Adds (Table.headingLines heading) [] := by
  rw [Table.headingLines]
  split
  · exact nil
  · next named =>
    rw [List.isEmpty_iff] at named
    refine of_step (Line.inline_heading inline named) fun r number idle => ⟨{ r with heading }, ?_, idle, rfl, rfl, rfl⟩
    simp only [Reader.step, idle, Line.ofText_heading inline named plain]

theorem row {d : Declaration} (writable : d.Writable) : Adds [d.write] [d] := by
  refine ⟨by simpa using writable.inline, fun r number idle => ?_⟩
  obtain ⟨again, made, spells⟩ := writable.ofArguments
  have plain : ¬ "//".toList <:+: d.form.line d.fields :=
    Line.not_infix_line _ fun a member => (writable.fields a member).plain
  have step := Reader.step_line_of_ok idle plain writable.paired number made
  rw [← d.write_eq] at step
  refine ⟨_, Reader.run_singleton step, rfl, ?_, rfl, rfl⟩
  have same := Declaration.content_eq_of_spells d.spells_fields spells
  simp only [Table.declare, List.map_append, List.map_cons, List.map_nil]
  rw [← same]
  rfl

theorem flatten {lines : List Text} (each : ∀ line ∈ lines, Adds [line] []) : Adds lines [] := by
  induction lines with
  | nil => exact nil
  | cons line lines ih =>
    rw [List.forall_mem_cons] at each
    exact each.1.append (ih each.2)

section
variable {notes : List Note}

theorem noteLines (each : ∀ n ∈ notes, Inline n.text) (heading : Text) :
    Adds (Table.noteLines heading notes) [] := by
  refine flatten fun line member => ?_
  obtain ⟨n, found, rfl⟩ := List.mem_map.mp member
  exact note (each n (List.mem_filter.mp found).1)

theorem rowLines {rows : List Declaration} (each : ∀ n ∈ notes, Inline n.text)
    (written : ∀ d ∈ rows, d.Writable ∧ Inline d.heading ∧ d.heading.head? ≠ some ':') (current : Text) :
    Adds (Table.rowLines current notes rows).1 rows ∧ (Table.rowLines current notes rows).2 ⊆ notes := by
  induction rows generalizing current notes with
  | nil => exact ⟨noteLines each current, List.filter_sublist.subset⟩
  | cons d rows ih =>
    rw [List.forall_mem_cons] at written
    obtain ⟨⟨row, inline, plain⟩, later⟩ := written
    rw [Table.rowLines]
    split
    · obtain ⟨rest, left⟩ := ih each later current
      exact ⟨(Adds.row row).append rest, left⟩
    · have others : Table.otherNotes current notes ⊆ notes := List.filter_sublist.subset
      obtain ⟨rest, left⟩ := ih (fun n member => each n (others member)) later d.heading
      refine ⟨?_, fun n member => others (left member)⟩
      -- Where the heading changes, the notes of the old one come first, and then the line of the new one.
      have group := (((noteLines each current).append blank).append (headingLines inline plain)).append
        ((Adds.row row).append rest)
      simpa using group

theorem bodyLines {rows : List Declaration} (each : ∀ n ∈ notes, Inline n.text)
    (written : ∀ d ∈ rows, d.Writable ∧ Inline d.heading ∧ d.heading.head? ≠ some ':') :
    Adds (Table.bodyLines notes rows).1 rows ∧ (Table.bodyLines notes rows).2 ⊆ notes := by
  cases rows with
  | nil => exact ⟨nil, fun _ member => member⟩
  | cons d rows =>
    rw [List.forall_mem_cons] at written
    obtain ⟨⟨row, inline, plain⟩, later⟩ := written
    obtain ⟨rest, left⟩ := rowLines each later d.heading
    exact ⟨(headingLines inline plain).append ((Adds.row row).append rest), left⟩

theorem leftoverLines (each : ∀ n ∈ notes, Inline n.text ∧ Inline n.heading ∧ n.heading.head? ≠ some ':') :
    Adds (Table.leftoverLines notes) [] := by
  have groups : ∀ headings : List Text, (∀ h ∈ headings, h ∈ notes.map Note.heading) →
      Adds (headings.flatMap fun h => [] :: Table.headingLines h ++ Table.noteLines h notes) [] := by
    intro headings known
    induction headings with
    | nil => exact nil
    | cons h headings ih =>
      rw [List.forall_mem_cons] at known
      obtain ⟨n, member, rfl⟩ := List.mem_map.mp known.1
      obtain ⟨-, inline, plain⟩ := each n member
      have group := (blank.append (headingLines inline plain)).append
        (noteLines (fun n member => (each n member).1) n.heading)
      exact group.append (ih known.2)
  exact groups _ fun h member => List.mem_eraseDups.mp member

end

end Adds

namespace Table

/-- Lines are read from a file as they were written, up to its end. -/
theorem read_of_run {source : Text} {rows : List Text} {r : Reader}
    (inline : ∀ row ∈ rows, Inline row) (run : (Reader.start source).run 1 rows = .ok r)
    (idle : r.pending = none) : read source (stripEnd (join "\n" rows) ++ "\n") = .ok r.table := by
  obtain ⟨kept, count, rfl, same⟩ := lines_stripEnd_join inline
  rw [Reader.run_append] at run
  obtain ⟨middle, first, blanks⟩ := bind_eq_ok.mp run
  have sound := (Reader.sound_start source).run
    (fun row member => (inline row (by simp [member])).unbroken) first
  cases Reader.eq_of_run_blank sound blanks idle
  have lines : (Reader.start source).run 1 (if kept = [] then [[]] else kept) = .ok r := by
    split
    · next empty =>
      rw [empty] at first
      cases first
      rfl
    · exact first
  rw [← same] at lines
  refine bind_eq_ok.mpr ⟨r, lines, ?_⟩
  rw [Reader.finish, idle]

/-- The converse of `read_of_run`: what has been read from a file comes from the lines that were written. -/
theorem exists_run_of_read {source : Text} {rows : List Text} {t : Table} (inline : ∀ row ∈ rows, Inline row)
    (read : read source (stripEnd (join "\n" rows) ++ "\n") = .ok t) :
    ∃ r, (Reader.start source).run 1 rows = .ok r ∧ r.table = t := by
  obtain ⟨kept, count, rfl, same⟩ := lines_stripEnd_join inline
  obtain ⟨r, run, finish⟩ := bind_eq_ok.mp read
  rw [Reader.finish] at finish
  split at finish
  · cases finish
  · next idle =>
    have kept : (Reader.start source).run 1 kept = .ok r := by
      have run : (Reader.start source).run 1 (if kept = [] then [[]] else kept) = .ok r := by
        rw [← same]
        exact run
      split at run
      · next empty =>
        cases run
        rw [empty]
        rfl
      · exact run
    refine ⟨r, ?_, Except.ok.inj finish⟩
    rw [Reader.run_append_of_ok kept]
    exact Reader.run_blank idle _ count

/-- The name and the type that an alias binds. -/
def pairs (aliases : List Alias) : List (Text × Text) := aliases.map fun a => (a.name, a.underlying)

/-- Two tables with the same rows, aliases and includes, wherever they stand. -/
structure SameContent (t again : Table) : Prop where
  rows : again.rows.map Declaration.content = t.rows.map Declaration.content
  aliases : pairs again.aliases = pairs t.aliases
  includes : again.includes = t.includes

variable {t : Table}

theorem run_spaced {r next : Reader} {number : Nat} {lines : List Text}
    (read : r.run number lines = .ok next) (idle : next.pending = none) :
    r.run number (spaced lines) = .ok next := by
  rw [spaced]
  split
  · next empty =>
    rw [List.isEmpty_iff] at empty
    rwa [empty] at read
  · rw [Reader.run_append_of_ok read]
    exact Reader.run_singleton (Reader.step_blank idle _)

theorem exists_run_of_spaced {r next : Reader} {number : Nat} {lines rest : List Text}
    (read : r.run number (spaced lines ++ rest) = .ok next) : ∃ middle, r.run number lines = .ok middle := by
  rw [spaced] at read
  split at read
  · next empty =>
    rw [List.isEmpty_iff] at empty
    exact ⟨r, by rw [empty, Reader.run]⟩
  · rw [List.append_assoc, Reader.run_append] at read
    obtain ⟨middle, first, -⟩ := bind_eq_ok.mp read
    exact ⟨middle, first⟩

theorem inline_spaced {lines : List Text} (each : ∀ line ∈ lines, Inline line) :
    ∀ line ∈ spaced lines, Inline line := by
  rw [spaced]
  split
  · simp
  · exact List.forall_mem_append.mpr ⟨each, by simpa using .nil⟩

def openingLines (t : Table) : List Text :=
  spaced (t.includes.map fun header => "#include " ++ header) ++ spaced (t.aliases.map Alias.definition)

theorem write_eq (t : Table) : t.write [] = stripEnd (join "\n" (t.openingLines ++
    ((bodyLines t.notes t.rows).1 ++ leftoverLines (bodyLines t.notes t.rows).2))) ++ "\n" := by
  rw [← List.append_assoc]
  rfl

namespace Writable

variable (writable : t.Writable)
include writable

theorem inline_openingLines : ∀ line ∈ t.openingLines, Inline line := by
  refine List.forall_mem_append.mpr ⟨inline_spaced ?_, inline_spaced ?_⟩
  · rintro line member
    obtain ⟨header, found, rfl⟩ := List.mem_map.mp member
    exact Line.inline_includes (writable.includes header found).1 (writable.includes header found).2
  · rintro line member
    obtain ⟨a, found, rfl⟩ := List.mem_map.mp member
    exact (writable.aliases a found).inline

theorem run_openingLines (source : Text) : ∃ more : List Alias,
    (Reader.start source).run 1 t.openingLines = .ok { Reader.start source with
      table := { (Reader.start source).table with includes := t.includes, aliases := more } } ∧
    pairs more = pairs t.aliases ∧ ∀ a ∈ more, a.position = 0 := by
  let start := Reader.start source
  have includes := run_spaced (start.run_includes rfl 1 writable.includes writable.distinct) rfl
  obtain ⟨more, definitions, same, places⟩ := Reader.run_definitions
    (r := { start with table := { start.table with includes := start.table.includes ++ t.includes } }) rfl
    (1 + (spaced (t.includes.map fun header => "#include " ++ header)).length) writable.aliases writable.names
  exact ⟨more, (Reader.run_append_of_ok includes).trans (run_spaced definitions rfl), same, places⟩

/-- The lines behind those of the aliases. -/
theorem adds_body (rowHeadings : ∀ d ∈ t.rows, d.heading.head? ≠ some ':')
    (noteHeadings : ∀ n ∈ t.notes, n.heading.head? ≠ some ':') :
    Adds ((bodyLines t.notes t.rows).1 ++ leftoverLines (bodyLines t.notes t.rows).2) t.rows := by
  obtain ⟨body, left⟩ := Adds.bodyLines (fun n member => (writable.notes n member).1)
    fun d member => ⟨(writable.rows d member).1, (writable.rows d member).2, rowHeadings d member⟩
  have notes := Adds.leftoverLines fun n member =>
    have inline := writable.notes n (left member)
    ⟨inline.1, inline.2, noteHeadings n (left member)⟩
  simpa using body.append notes

theorem exists_read_write (source : Text) (rowHeadings : ∀ d ∈ t.rows, d.heading.head? ≠ some ':')
    (noteHeadings : ∀ n ∈ t.notes, n.heading.head? ≠ some ':') :
    ∃ again, read source (t.write []) = .ok again ∧ t.SameContent again ∧
      ∀ a ∈ again.aliases, a.position = 0 := by
  have rest := writable.adds_body rowHeadings noteHeadings
  obtain ⟨more, opening, same, places⟩ := writable.run_openingLines source
  obtain ⟨next, body, gains⟩ := rest.run _ (1 + t.openingLines.length) (rfl : Reader.pending { Reader.start source with
    table := { (Reader.start source).table with includes := t.includes, aliases := more } } = none)
  refine ⟨next.table, ?_, ⟨gains.rows, ?_, gains.includes⟩, ?_⟩
  · rw [write_eq]
    exact read_of_run (List.forall_mem_append.mpr ⟨writable.inline_openingLines, rest.inline⟩)
      ((Reader.run_append_of_ok opening).trans body) gains.idle
  · rw [gains.aliases]
    exact same
  · rw [gains.aliases]
    exact places

end Writable

/-- What has been written of a table is only read if the names of its aliases are identifiers. -/
theorem isIdentifierCore_of_read_write {again : Table} {source : Text} (plain : ({ t with aliases := [] } : Table).Writable)
    (each : ∀ a ∈ t.aliases, a.Definable) (rowHeadings : ∀ d ∈ t.rows, d.heading.head? ≠ some ':')
    (noteHeadings : ∀ n ∈ t.notes, n.heading.head? ≠ some ':')
    (result : read source (t.write []) = .ok again) : ∀ a ∈ t.aliases, isIdentifierCore a.name = true := by
  have body := plain.adds_body rowHeadings noteHeadings
  have definitions : ∀ line ∈ spaced (t.aliases.map Alias.definition), Inline line :=
    inline_spaced (List.forall_mem_map.mpr fun a member => (each a member).inline)
  have includes : ∀ line ∈ spaced (t.includes.map fun header => "#include " ++ header), Inline line :=
    inline_spaced (List.forall_mem_map.mpr fun header member =>
      Line.inline_includes (plain.includes header member).1 (plain.includes header member).2)
  rw [write_eq] at result
  obtain ⟨r, run, -⟩ := exists_run_of_read (List.forall_mem_append.mpr
    ⟨List.forall_mem_append.mpr ⟨includes, definitions⟩, body.inline⟩) result
  have opened := run_spaced ((Reader.start source).run_includes rfl 1 plain.includes plain.distinct) rfl
  rw [List.append_assoc, Reader.run_append_of_ok opened] at run
  obtain ⟨next, defined⟩ := exists_run_of_spaced run
  exact Reader.isIdentifierCore_of_run rfl each defined

/-- A valid row stays valid in another table, at another place, when its aliases are defined there. -/
theorem RowValid.of_content {again : Table} {i j : Nat} {d other : Declaration} (valid : t.RowValid i d)
    (same : d.content = other.content) (defined : ∀ type ∈ other.result :: other.parameters,
      ∀ name ∈ identifiers type, ∀ a, again.alias? name = some a → a.position ≤ j) :
    again.RowValid j other := by
  obtain ⟨subject, result, method, parameters, tag, heading, origin⟩ := other
  simp only [Declaration.content, Declaration.mk.injEq, and_true] at same
  obtain ⟨rfl, rfl, rfl, rfl, rfl⟩ := same
  refine ⟨?_, valid.arity, fun type member => ?_⟩
  · have names := Declaration.checkNames_eq_ok_iff.mp valid.names
    rw [Declaration.checkNames_eq_ok_iff]
    simp only [Declaration.symbol, Declaration.subjectName] at names ⊢
    exact names
  · have one := valid.types type member
    exact ⟨one.notBlank, one.single, one.balanced, defined type member⟩

theorem Valid.of_sameContent {again : Table} (valid : t.Valid) (same : t.SameContent again)
    (places : ∀ a ∈ again.aliases, a.position = 0) : again.Valid where
  rows i other found := by
    have rows := congrArg (·[i]?) same.rows
    simp only [List.getElem?_map, found, Option.map_some] at rows
    obtain ⟨d, row, content⟩ := Option.map_eq_some_iff.mp rows.symm
    refine (valid.rows i d row).of_content content fun type member name token a bound => ?_
    rw [places a (List.mem_of_find?_eq_some bound)]
    exact Nat.zero_le i
  symbols := by
    have symbol : Declaration.symbol = Declaration.symbol ∘ Declaration.content := rfl
    rw [symbol, ← List.map_map, same.rows, List.map_map]
    exact valid.symbols

/-- Writing undoes reading: a table that has been read, none of whose headings starts with a colon, is
written as a text that is read as a table with the same content; and if the one is valid, so is the other. -/
theorem read_write {source text : Text} {t : Table} (result : read source text = .ok t)
    (rowHeadings : ∀ d ∈ t.rows, d.heading.head? ≠ some ':')
    (noteHeadings : ∀ n ∈ t.notes, n.heading.head? ≠ some ':') (target : Text) :
    ∃ again, read target (t.write []) = .ok again ∧ t.SameContent again ∧
      (t.validate = .ok () → again.validate = .ok ()) := by
  obtain ⟨again, found, same, places⟩ :=
    (writable_of_read result).exists_read_write target rowHeadings noteHeadings
  refine ⟨again, found, same, fun valid => ?_⟩
  exact validate_eq_ok_iff.mpr ((validate_eq_ok_iff.mp valid).of_sameContent same places)

theorem read_write_lone_argument :
    ∃ t again, read "a" "using P = Pair<int,  int>;;\n// @section S\nPROXY_OVERLOAD(A&, P, f,\n , );" = .ok t ∧
      read "b" (t.write []) = .ok again ∧ t.SameContent again := by
  have result : read "a" "using P = Pair<int,  int>;;\n// @section S\nPROXY_OVERLOAD(A&, P, f,\n , );" =
      .ok { rows := [{ subject := "A&", result := "P", method := "f", heading := "S", origin := some "a:3" }]
            aliases := [{ name := "P", underlying := "Pair<int, int>;", origin := some "a:1" }]
            sources := ["a"] } := rfl
  obtain ⟨again, found, same, -⟩ := read_write result (by decide) (by decide) "b"
  exact ⟨_, again, result, found, same⟩

end Table

end Forwarding
