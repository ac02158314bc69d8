import Forwarding.Proofs.Table.Course

/-! Reading two texts as one.

The lines of the second text make the same calls behind the first one as they make alone, at other places
and, up to their first heading, under the last heading of the first text. So the table of the whole text
is the first table with the second one behind it: `read_concatenated` is the main statement.
-/

set_option autoImplicit false

namespace Forwarding

open Text Checks

/-! ### The same again, told behind a heading and without places -/

/-- The heading that holds where `heading` is the last one of a text and `outer` the last one before it. -/
def under (outer heading : Text) : Text := if heading = [] then outer else heading

theorem under_nil (heading : Text) : under [] heading = heading := by
  rw [under]
  split
  · next empty => exact empty.symm
  · rfl

theorem under_of_ne_nil {heading : Text} (given : heading ≠ []) (outer : Text) :
    under outer heading = heading := if_neg given

/-- The row as it stands behind a heading, without its place. -/
def Declaration.retold (outer : Text) (d : Declaration) : Declaration :=
  { d with heading := under outer d.heading, origin := none }

def Note.retold (outer : Text) (n : Note) : Note :=
  { n with heading := under outer n.heading, origin := none }

namespace Table

def Call.retold (outer : Text) : Call → Call
  | .register name underlying _ => .register name underlying none
  | .declare d => .declare (d.retold outer)
  | .addInclude header => .addInclude header
  | .addNote n => .addNote (n.retold outer)

def retold (outer : Text) (t : Table) : Table where
  rows := t.rows.map (.retold outer)
  aliases := t.aliases.map fun a => { a with origin := none }
  includes := t.includes
  notes := t.notes.map (.retold outer)

theorem aliasNames_retold (outer : Text) (t : Table) : (t.retold outer).aliasNames = t.aliasNames := by
  simp only [aliasNames, retold, List.map_map]
  rfl

theorem toOption_register (t : Table) (name underlying : Text) (origin : Option Text) :
    (t.register name underlying origin).toOption =
      if isIdentifier name = true ∧ name ∉ t.aliasNames then
        some { t with aliases := t.aliases ++ [⟨name, squeeze underlying, t.rows.length, origin⟩] }
      else none := by
  split
  · next free =>
    have made := (@register_eq_ok_iff t _ name underlying origin).mpr ⟨free.1, free.2, rfl⟩
    rw [made]
    rfl
  · next taken =>
    cases made : t.register name underlying origin with
    | error fault => rfl
    | ok next =>
      obtain ⟨named, new, -⟩ := register_eq_ok_iff.mp made
      exact absurd ⟨named, new⟩ taken

/-- Headings and places play no part in whether a call is refused. -/
theorem apply_retold (outer : Text) (call : Call) (t : Table) :
    ((call.retold outer).apply (t.retold outer)).toOption =
      (call.apply t).toOption.map (retold outer) := by
  cases call with
  | register name underlying origin =>
    simp only [Call.retold, Call.apply, toOption_register, aliasNames_retold]
    split
    · simp [retold]
    · rfl
  | declare d => simp [Call.retold, Call.apply, Table.declare, retold, Except.toOption]
  | addInclude header =>
    simp only [Call.retold, Call.apply, addInclude, Except.toOption, Option.map_some,
      show (t.retold outer).includes = t.includes from rfl]
    split
    · rfl
    · rfl
  | addNote n => simp [Call.retold, Call.apply, Table.addNote, retold, Except.toOption]

theorem replay_retold (outer : Text) (calls : List Call) (t : Table) :
    ((t.retold outer).replay (calls.map (.retold outer))).toOption =
      (t.replay calls).toOption.map (retold outer) := by
  induction calls generalizing t with
  | nil => rfl
  | cons call calls ih =>
    have once := apply_retold outer call t
    simp only [List.map_cons, replay]
    cases made : call.apply t with
    | error fault =>
      rw [made] at once
      cases again : (call.retold outer).apply (t.retold outer) with
      | error fault => rfl
      | ok next => rw [again] at once; cases once
    | ok next =>
      rw [made] at once
      cases again : (call.retold outer).apply (t.retold outer) with
      | error fault => rw [again] at once; cases once
      | ok other =>
        rw [again] at once
        cases once
        exact ih next

/-- What calls build is told from what they are told to do. -/
theorem replay_map_retold {outer : Text} {calls : List Call} {t next : Table}
    (made : t.replay calls = .ok next) :
    (t.retold outer).replay (calls.map (.retold outer)) = .ok (next.retold outer) := by
  have told := replay_retold outer calls t
  rw [made] at told
  cases again : (t.retold outer).replay (calls.map (.retold outer)) with
  | error fault =>
    rw [again] at told
    cases told
  | ok other =>
    rw [again] at told
    exact congrArg Except.ok (Option.some.inj told)

/-! ### The names that calls bind -/

/-- The name that a call binds. -/
def Call.bound : Call → List Text
  | .register name _ _ => [name]
  | _ => []

theorem aliasNames_eq_of_apply {t next : Table} {call : Call} (made : call.apply t = .ok next) :
    next.aliasNames = t.aliasNames ++ call.bound := by
  cases call with
  | register name underlying origin =>
    obtain ⟨-, -, rfl⟩ := register_eq_ok_iff.mp made
    simp [aliasNames, Call.bound]
  | declare d =>
    cases made
    simp [aliasNames, Table.declare, Call.bound]
  | addInclude header =>
    cases made
    simp [aliasNames, addInclude_aliases, Call.bound]
  | addNote n =>
    cases made
    simp [aliasNames, Table.addNote, Call.bound]

theorem aliasNames_eq_of_replay {t next : Table} {calls : List Call} (made : t.replay calls = .ok next) :
    next.aliasNames = t.aliasNames ++ calls.flatMap Call.bound := by
  induction calls generalizing t with
  | nil =>
    cases made
    simp
  | cons call calls ih =>
    obtain ⟨middle, first, rest⟩ := bind_eq_ok.mp made
    rw [ih rest, aliasNames_eq_of_apply first, List.flatMap_cons, List.append_assoc]

variable {t u : Table} {first second : List Call}

/-- The calls of two tables can be made one behind the other only if no alias name is bound in both. -/
theorem replay_append_eq_ok_iff {whole : Table} (built : replay {} first = .ok t)
    (more : replay {} second = .ok u) :
    replay {} (first ++ second) = .ok whole ↔ t.Apart u ∧ whole = t.append u := by
  constructor
  · intro made
    have names := aliasNames_eq_of_replay made
    rw [List.flatMap_append, ← List.append_assoc, ← aliasNames_eq_of_replay built] at names
    have later := aliasNames_eq_of_replay more
    have apart : t.Apart u := by
      intro name member old
      rw [later] at member
      have distinct := nodup_of_replay made
      rw [names] at distinct
      exact (List.nodup_append.mp distinct).2.2 name old name (by simpa [aliasNames] using member) rfl
    have joined := replay_calls built more apart
    rw [made] at joined
    exact ⟨apart, Except.ok.inj joined⟩
  · rintro ⟨apart, rfl⟩
    exact replay_calls built more apart

end Table

/-! ### One course behind another -/

namespace Course

/-- Two courses that read the same, the one behind a heading and the other from the start of a text. -/
structure Follows (outer : Text) (alone behind : Course) : Prop where
  heading : behind.heading = under outer alone.heading
  pending : behind.pending.map (fun p => (p.form, p.text)) =
    alone.pending.map fun p => (p.form, p.text)

/-- Calls that differ in their places and, behind a heading, in theirs. -/
def Same (outer : Text) (alone behind : List Table.Call) : Prop :=
  behind.map (Table.Call.retold []) = alone.map (Table.Call.retold outer)

variable {outer : Text} {alone behind next : Course} {number : Nat}

theorem Follows.row {form : RowForm} {t : Text} {call : Option Table.Call}
    (follows : Follows outer alone behind) (read : alone.row form t number = .ok (call, next)) (place : Nat) :
    ∃ call' next', behind.row form t place = .ok (call', next') ∧
      Same outer call.toList call'.toList ∧ Follows outer next next' := by
  rw [Course.row] at read ⊢
  cases made : Declaration.ofText form t with
  | error cause =>
    rw [made] at read
    cases read
  | ok d =>
    rw [made] at read
    cases read
    refine ⟨_, _, rfl, ?_, ⟨follows.heading, rfl⟩⟩
    simp [Same, Table.Call.retold, Declaration.retold, under_nil, follows.heading]

/-- A row stays open in both, or it is complete in both. -/
theorem Follows.openRow {form : RowForm} {t : Text} {call : Option Table.Call} (follows : Follows outer alone behind)
    (read : (if Reader.isOpen t then .ok (none, { alone with pending := some ⟨form, t, number⟩ })
      else alone.row form t number) = .ok (call, next)) (place : Nat) :
    ∃ call' next', (if Reader.isOpen t then .ok (none, { behind with pending := some ⟨form, t, place⟩ })
        else behind.row form t place) = .ok (call', next') ∧
      Same outer call.toList call'.toList ∧ Follows outer next next' := by
  split at read
  · next stays =>
    cases read
    rw [if_pos stays]
    exact ⟨_, _, rfl, rfl, ⟨follows.heading, rfl⟩⟩
  · next done =>
    rw [if_neg done]
    exact follows.row read place

/-- One more line makes the same call. -/
theorem Follows.step {raw : Text} {call : Option Table.Call} (follows : Follows outer alone behind)
    (read : alone.step number raw = .ok (call, next)) (place : Nat) :
    ∃ call' next', behind.step place raw = .ok (call', next') ∧
      Same outer call.toList call'.toList ∧ Follows outer next next' := by
  -- Both wait for the rest of the same row, or neither does; only the line where it starts differs.
  have pending := follows.pending
  rw [Course.step] at read ⊢
  cases waiting : alone.pending with
  | some p =>
    rw [waiting] at read pending
    obtain ⟨q, found, same⟩ := Option.map_eq_some_iff.mp pending
    obtain ⟨form, text⟩ := Prod.mk.inj same
    rw [found]
    simp only [form, text] at read ⊢
    exact follows.openRow read q.start
  | none =>
    rw [waiting] at read pending
    rw [Option.map_eq_none_iff.mp pending]
    dsimp only at read ⊢
    cases line : Line.ofText raw with
    | blank | comment | ignored text | includes header | defines name underlying =>
      rw [line] at read
      cases read
      exact ⟨_, _, rfl, rfl, follows⟩
    | heading name =>
      cases name with
      | nil =>
        rw [line] at read
        cases read
      | cons c name =>
        rw [line] at read
        cases read
        exact ⟨_, _, rfl, rfl, ⟨rfl, rfl⟩⟩
    | note kind text =>
      rw [line] at read
      cases read
      refine ⟨_, _, rfl, ?_, follows⟩
      simp [Same, Table.Call.retold, Note.retold, under_nil, follows.heading]
    | row form text =>
      rw [line] at read
      exact follows.openRow read place
    | unrecognized text =>
      rw [line] at read
      cases read

theorem Follows.run {rows : List Text} {calls : List Table.Call} {last : Course}
    (follows : Follows outer alone behind) (read : alone.run number rows = .ok (calls, last)) (place : Nat) :
    ∃ calls' last', behind.run place rows = .ok (calls', last') ∧
      Same outer calls calls' ∧ Follows outer last last' := by
  induction rows generalizing alone behind number place calls with
  | nil =>
    cases read
    exact ⟨[], behind, rfl, rfl, follows⟩
  | cons raw rows ih =>
    obtain ⟨call, next, rest, first, later, rfl⟩ := run_cons_eq_ok_iff.mp read
    obtain ⟨call', next', step, same, follows⟩ := follows.step first place
    obtain ⟨rest', last', run, more, follows⟩ := ih follows later (place + 1)
    refine ⟨_, last', run_cons_eq_ok_iff.mpr ⟨call', next', rest', step, run, rfl⟩, ?_, follows⟩
    rw [Same] at same more ⊢
    rw [List.map_append, List.map_append, same, more]

/-- Empty lines between two rows do nothing. -/
theorem run_blank {c : Course} (idle : c.pending = none) (number : Nat) {rows : List Text}
    (blank : ∀ row ∈ rows, row = []) : c.run number rows = .ok ([], c) := by
  induction rows generalizing number with
  | nil => rfl
  | cons raw rows ih =>
    rw [List.forall_mem_cons] at blank
    have step : c.step number raw = .ok (none, c) := by
      rw [blank.1, Course.step, idle]
      rfl
    exact run_cons_eq_ok_iff.mpr ⟨none, c, [], step, ih (number + 1) blank.2, rfl⟩

end Course

/-! ### Sections that come first -/

def Line.opensSection : Line → Bool
  | .heading _ => true
  | _ => false

/-- Whether a line makes an entry that stands under a heading. -/
def Line.isEntry : Line → Bool
  | .row _ _ | .note _ _ => true
  | _ => false

/-- No row and no note stands before the first line that opens a section. -/
def HeadingFirst (rows : List Text) : Prop :=
  ∀ raw ∈ rows.takeWhile (fun raw => !(Line.ofText raw).opensSection), (Line.ofText raw).isEntry = false

instance (rows : List Text) : Decidable (HeadingFirst rows) := inferInstanceAs (Decidable (∀ _ ∈ _, _))

/-- A call that makes no entry outside a section. -/
def Table.Call.Headed : Table.Call → Prop
  | .declare d => d.heading ≠ []
  | .addNote n => n.heading ≠ []
  | _ => True

theorem Table.Call.Headed.of_under {call : Table.Call} {heading : Text} (under : call.Under heading)
    (given : heading ≠ []) : call.Headed := by
  cases call with
  | register name underlying origin => trivial
  | declare d => exact fun empty => given (under.symm.trans empty)
  | addInclude header => trivial
  | addNote n => exact fun empty => given (under.symm.trans empty)

theorem Table.Call.Headed.retold_eq {call : Table.Call} (headed : call.Headed) (outer : Text) :
    call.retold outer = call.retold [] := by
  cases call with
  | register name underlying origin => rfl
  | declare d =>
    simp only [Table.Call.retold, Declaration.retold, under_nil, under_of_ne_nil headed outer]
  | addInclude header => rfl
  | addNote n => simp only [Table.Call.retold, Note.retold, under_nil, under_of_ne_nil headed outer]

namespace Course

variable {c next last : Course} {number : Nat} {raw : Text} {rows : List Text} {call : Option Table.Call}
  {calls : List Table.Call}

/-- Behind a heading every entry stands under one. -/
theorem headed_step (given : c.heading ≠ []) (read : c.step number raw = .ok (call, next)) :
    next.heading ≠ [] ∧ ∀ made ∈ call.toList, made.Headed := by
  obtain ⟨stays | named, under⟩ := step_heading read
  · exact ⟨stays ▸ given, fun made member => .of_under (under made member) given⟩
  · exact ⟨named.1, fun made member => .of_under (under made member) given⟩

theorem headed_run (given : c.heading ≠ []) (read : c.run number rows = .ok (calls, last)) :
    ∀ made ∈ calls, made.Headed := by
  induction rows generalizing c number calls with
  | nil =>
    cases read
    simp
  | cons raw rows ih =>
    obtain ⟨call, next, rest, first, later, rfl⟩ := run_cons_eq_ok_iff.mp read
    obtain ⟨still, made⟩ := headed_step given first
    exact List.forall_mem_append.mpr ⟨made, ih still later⟩

theorem step_aside (idle : c.pending = none) (plain : (Line.ofText raw).opensSection = false)
    (aside : (Line.ofText raw).isEntry = false) (read : c.step number raw = .ok (call, next)) :
    next = c ∧ ∀ made ∈ call.toList, made.Headed := by
  rw [Course.step, idle] at read
  cases line : Line.ofText raw with
  | heading name =>
    rw [line] at plain
    cases plain
  | row form text =>
    rw [line] at aside
    cases aside
  | note kind text =>
    rw [line] at aside
    cases aside
  | blank | comment | ignored text | includes header | defines name underlying =>
    rw [line] at read
    cases read
    exact ⟨rfl, by simp [Table.Call.Headed]⟩
  | unrecognized text =>
    rw [line] at read
    cases read

theorem headed_of_headingFirst (idle : c.pending = none) (sections : HeadingFirst rows)
    (read : c.run number rows = .ok (calls, last)) : ∀ made ∈ calls, made.Headed := by
  induction rows generalizing c number calls with
  | nil =>
    cases read
    simp
  | cons raw rows ih =>
    obtain ⟨call, next, rest, first, later, rfl⟩ := run_cons_eq_ok_iff.mp read
    rw [HeadingFirst, List.takeWhile_cons] at sections
    cases opens : (Line.ofText raw).opensSection with
    | false =>
      rw [opens, Bool.not_false, if_pos rfl, List.forall_mem_cons] at sections
      obtain ⟨rfl, made⟩ := step_aside idle opens sections.1 first
      exact List.forall_mem_append.mpr ⟨made, ih idle sections.2 later⟩
    | true =>
      cases line : Line.ofText raw with
      | heading name =>
        rw [Course.step, idle] at first
        simp only [line] at first
        cases name with
        | nil => cases first
        | cons d name =>
          cases first
          exact headed_run (List.cons_ne_nil d name) later
      | _ =>
        rw [line] at opens
        cases opens

end Course

/-! ### Two texts as one -/

namespace Table

/-- Two tables with the same rows, aliases, includes and notes, wherever these stand. -/
structure SameEntries (t other : Table) : Prop where
  rows : other.rows.map Declaration.content = t.rows.map Declaration.content
  aliases : other.aliases.map (fun a => (a.name, a.underlying, a.position)) =
    t.aliases.map fun a => (a.name, a.underlying, a.position)
  includes : other.includes = t.includes
  notes : other.notes.map (fun n => (n.kind, n.text)) = t.notes.map fun n => (n.kind, n.text)

/-- Two tables whose rows and notes stand under the same headings. -/
structure SameHeadings (t other : Table) : Prop where
  rows : other.rows.map Declaration.heading = t.rows.map Declaration.heading
  notes : other.notes.map Note.heading = t.notes.map Note.heading

variable {source first second : Text} {t u whole : Table}

/-- The calls of a text behind another one, up to places and to the heading that the other one leaves. -/
theorem exists_calls_append {A B : Text} (one : read first A = .ok t) (two : read second B = .ok u)
    (source : Text) : ∃ outer early late calls,
      replay { sources := [first] } early = .ok t ∧ replay { sources := [second] } late = .ok u ∧
      calls.map (Call.retold []) = early.map (Call.retold []) ++ late.map (Call.retold outer) ∧
      (HeadingFirst (lines B) → ∀ call ∈ late, call.Headed) ∧
      ∀ whole, read source (A ++ '\n' :: B) = .ok whole ↔ replay { sources := [source] } calls = .ok whole := by
  obtain ⟨early, left, runA, idleA, madeA⟩ := read_eq_ok_iff.mp one
  obtain ⟨late, right, runB, idleB, madeB⟩ := read_eq_ok_iff.mp two
  have start : Course.Follows [] { source := first } { source } := ⟨rfl, rfl⟩
  obtain ⟨early', middle, run, sameA, follows⟩ := start.run runA 1
  have idle : middle.pending = none := by
    have pending := follows.pending
    rw [idleA] at pending
    exact Option.map_eq_none_iff.mp pending
  obtain ⟨gap, blank, cut⟩ := exists_lines_append A B
  have behind : Course.Follows middle.heading { source := second } middle :=
    ⟨(if_pos rfl).symm, by rw [idle]⟩
  obtain ⟨late', last, rest, sameB, ends⟩ := behind.run runB (1 + (lines A).length + gap.length)
  have closed : last.pending = none := by
    have pending := ends.pending
    rw [idleB] at pending
    exact Option.map_eq_none_iff.mp pending
  have whole : Course.run { source } 1 (lines (A ++ '\n' :: B)) = .ok (early' ++ late', last) := by
    rw [cut, Course.run_append_eq_ok_iff]
    refine ⟨early', middle, late', run, ?_, rfl⟩
    rw [Course.run_append_eq_ok_iff]
    exact ⟨[], middle, late', Course.run_blank idle _ blank, rest, rfl⟩
  refine ⟨middle.heading, early, late, early' ++ late', madeA, madeB, ?_,
    fun sections => Course.headed_of_headingFirst rfl sections runB, fun table => ?_⟩
  · rw [List.map_append, sameA, sameB]
  · rw [read_eq_ok_iff]
    constructor
    · rintro ⟨calls, final, again, -, made⟩
      rw [whole] at again
      cases again
      exact made
    · exact fun made => ⟨_, last, whole, closed, made⟩

theorem apart_retold (outer other : Text) : (t.retold outer).Apart (u.retold other) ↔ t.Apart u := by
  simp only [Apart, aliasNames_retold]

/-- Told without places, the table of some calls is the two tables that the calls are made of. -/
theorem replay_eq_ok_iff_apart {outer : Text} {early late calls : List Call}
    (built : replay { sources := [first] } early = .ok t) (more : replay { sources := [second] } late = .ok u)
    (told : calls.map (Call.retold []) = early.map (Call.retold []) ++ late.map (Call.retold outer)) :
    ((∃ whole, replay { sources := [source] } calls = .ok whole) ↔ t.Apart u) ∧
    ∀ whole, replay { sources := [source] } calls = .ok whole →
      whole.retold [] = (t.retold []).append (u.retold outer) := by
  have one : replay {} (early.map (Call.retold [])) = .ok (t.retold []) := replay_map_retold built
  have two : replay {} (late.map (Call.retold outer)) = .ok (u.retold outer) := replay_map_retold more
  have both : ∀ whole, replay { sources := [source] } calls = .ok whole →
      (t.retold []).Apart (u.retold outer) ∧ whole.retold [] = (t.retold []).append (u.retold outer) := by
    intro whole made
    have again : replay {} (calls.map (Call.retold [])) = .ok (whole.retold []) := replay_map_retold made
    rw [told] at again
    exact (replay_append_eq_ok_iff one two).mp again
  refine ⟨⟨fun ⟨whole, made⟩ => (apart_retold _ _).mp (both whole made).1, fun apart => ?_⟩,
    fun whole made => (both whole made).2⟩
  have made := (replay_append_eq_ok_iff one two).mpr ⟨(apart_retold _ _).mpr apart, rfl⟩
  have same : (replay {} (calls.map (Call.retold []))).toOption =
      (replay { sources := [source] } calls).toOption.map (retold []) :=
    replay_retold [] calls { sources := [source] }
  rw [told, made] at same
  cases result : replay { sources := [source] } calls with
  | error fault =>
    rw [result] at same
    cases same
  | ok whole => exact ⟨whole, rfl⟩

theorem sameEntries_of_retold {outer : Text}
    (told : whole.retold [] = (t.retold []).append (u.retold outer)) : (t.append u).SameEntries whole := by
  have rows := congrArg (fun s => s.rows.map Declaration.content) told
  have aliases := congrArg (fun s => s.aliases.map fun a => (a.name, a.underlying, a.position)) told
  have notes := congrArg (fun s => s.notes.map fun n => (n.kind, n.text)) told
  have includes := congrArg Table.includes told
  simp only [retold, append, List.map_append, List.map_map] at rows aliases notes includes
  refine ⟨?_, ?_, ?_, ?_⟩
  · rw [append, List.map_append]
    exact rows
  · rw [append, List.map_append, List.map_map]
    rw [List.length_map] at aliases
    exact aliases
  · exact includes.trans (includes_foldl (by rfl) _)
  · rw [append, List.map_append]
    exact notes

theorem sameHeadings_of_retold (told : whole.retold [] = (t.retold []).append (u.retold [])) :
    (t.append u).SameHeadings whole := by
  have row : Declaration.heading ∘ Declaration.retold [] = Declaration.heading :=
    funext fun d => under_nil d.heading
  have note : Note.heading ∘ Note.retold [] = Note.heading := funext fun n => under_nil n.heading
  have rows := congrArg (fun s => s.rows.map Declaration.heading) told
  have notes := congrArg (fun s => s.notes.map Note.heading) told
  simp only [retold, append, List.map_append, List.map_map, row, note] at rows notes
  refine ⟨?_, ?_⟩
  · rw [append, List.map_append, rows]
  · rw [append, List.map_append, notes]

/-- Two texts that can both be read can be read as one just when their tables can be merged, and then the
whole text has the entries of the merged table; and their headings too, when the second text opens a
section before its first row and note. -/
theorem read_concatenated {A B : Text} (one : read first A = .ok t) (two : read second B = .ok u)
    (source : Text) :
    ((t.merge u).2 = none ↔ ∃ whole, read source (A ++ '\n' :: B) = .ok whole) ∧
    ∀ whole, read source (A ++ '\n' :: B) = .ok whole → (t.merge u).1.SameEntries whole ∧
      (HeadingFirst (lines B) → (t.merge u).1.SameHeadings whole) := by
  obtain ⟨outer, early, late, calls, built, more, told, headed, reads⟩ := exists_calls_append one two source
  obtain ⟨readable, same⟩ := @replay_eq_ok_iff_apart source _ _ _ _ _ _ _ _ built more told
  have distinct : u.aliasNames.Nodup := (writable_of_read two).names
  have merged : (t.merge u).2 = none ↔ t.Apart u := by
    by_cases apart : t.Apart u
    · rw [merge_of_apart apart distinct]
      exact iff_of_true rfl apart
    · obtain ⟨_, _, _, -, -, -, refused⟩ := exists_of_not_apart distinct apart
      rw [refused]
      exact iff_of_false nofun apart
  simp only [reads]
  refine ⟨merged.trans readable.symm, fun whole made => ?_⟩
  rw [merge_of_apart (readable.mp ⟨whole, made⟩) distinct]
  refine ⟨sameEntries_of_retold (same whole made), fun sections => sameHeadings_of_retold ?_⟩
  -- Behind a heading of its own the second text does not see the last heading of the first.
  have late' : late.map (Call.retold outer) = late.map (Call.retold []) :=
    List.map_congr_left fun call member => (headed sections call member).retold_eq outer
  rw [late'] at told
  exact (replay_eq_ok_iff_apart built more told).2 whole made

theorem read_concatenated_notes : ∃ t u whole,
    read "a" "#include <pair.h>\nusing P = Pair<int, int>;\n// @section F\nPROXY(A, P, f);" = .ok t ∧
    read "b" "#include <pair.h>\n// @section G\n// @todo: g\nPROXY(B, void,\nh, P);\nusing Q = int;" = .ok u ∧
    (t.merge u).2 = none ∧
    read "c" ("#include <pair.h>\nusing P = Pair<int, int>;\n// @section F\nPROXY(A, P, f);" ++ '\n' ::
      "#include <pair.h>\n// @section G\n// @todo: g\nPROXY(B, void,\nh, P);\nusing Q = int;") = .ok whole ∧
    (t.merge u).1.SameEntries whole ∧ (t.merge u).1.SameHeadings whole := by
  have both := @read_concatenated "a" "b" _ _
    "#include <pair.h>\nusing P = Pair<int, int>;\n// @section F\nPROXY(A, P, f);"
    "#include <pair.h>\n// @section G\n// @todo: g\nPROXY(B, void,\nh, P);\nusing Q = int;" rfl rfl "c"
  obtain ⟨merged, same⟩ := both
  obtain ⟨entries, headings⟩ := same _ rfl
  exact ⟨_, _, _, rfl, rfl, merged.mpr ⟨_, rfl⟩, rfl, entries, headings (by decide)⟩

end Table

end Forwarding
