import Forwarding.Proofs.Table.Replay

/-! Reading a text as a series of calls.

A line changes the table by one call at most, and which call it is depends on the heading and the open row
before it, but not on the table. So the lines of a text make their calls whatever the table holds, and
reading succeeds just when no line is refused and no call is.
-/

set_option autoImplicit false

namespace Forwarding

open Text Checks

/-- What stands under a heading stands under this one. -/
def Table.Call.Under (heading : Text) : Table.Call → Prop
  | .declare d => d.heading = heading
  | .addNote n => n.heading = heading
  | _ => True

/-- What decides how the next line is read: the heading and the row that is still open. -/
structure Course where
  source : Text
  heading : Text := []
  pending : Option Pending := none
  deriving Repr, DecidableEq

namespace Course

variable (c : Course)

def place (number : Nat) : Text := c.source ++ ":" ++ decimal number

def fault (cause : Cause) (number : Nat) : Fault := ⟨cause, some (c.place number)⟩

def row (form : RowForm) (t : Text) (number : Nat) : Except Fault (Option Table.Call × Course) :=
  match Declaration.ofText form t with
  | .error cause => .error (c.fault cause number)
  | .ok d =>
    .ok (some (.declare { d with heading := c.heading, origin := some (c.place number) }),
      { c with pending := none })

/-- The call of one line, if it makes one, and what decides about the next line. -/
def step (number : Nat) (raw : Text) : Except Fault (Option Table.Call × Course) :=
  match c.pending with
  | some p =>
    let text := p.text ++ " " ++ Line.withoutComment (strip raw)
    if Reader.isOpen text then .ok (none, { c with pending := some { p with text } })
    else c.row p.form text p.start
  | none =>
    match Line.ofText raw with
    | .blank | .comment | .ignored _ => .ok (none, c)
    | .heading [] => .error (c.fault .unnamedSection number)
    | .heading name => .ok (none, { c with heading := name })
    | .note kind text => .ok (some (.addNote ⟨kind, text, c.heading, some (c.place number)⟩), c)
    | .includes header => .ok (some (.addInclude header), c)
    | .defines name underlying =>
      .ok (some (.register name underlying (some (c.place number))), c)
    | .row form text =>
      if Reader.isOpen text then .ok (none, { c with pending := some ⟨form, text, number⟩ })
      else c.row form text number
    | .unrecognized text => .error (c.fault (.unrecognizedLine text) number)

/-- The calls of numbered lines. -/
def run : Course → Nat → List Text → Except Fault (List Table.Call × Course)
  | c, _, [] => .ok ([], c)
  | c, number, raw :: rest => do
    let (call, next) ← c.step number raw
    let (calls, last) ← run next (number + 1) rest
    return (call.toList ++ calls, last)

variable {c} {next last : Course} {number : Nat} {raw : Text} {rows more : List Text}
  {calls : List Table.Call} {call : Option Table.Call}

theorem row_heading {form : RowForm} {t : Text} (read : c.row form t number = .ok (call, next)) :
    next.heading = c.heading ∧ ∀ made ∈ call.toList, made.Under c.heading := by
  rw [row] at read
  split at read
  · cases read
  · cases read
    exact ⟨rfl, by simp [Table.Call.Under]⟩

/-- A line that makes an entry puts it under the heading, and a new heading has a name. -/
theorem step_heading (read : c.step number raw = .ok (call, next)) :
    (next.heading = c.heading ∨ next.heading ≠ [] ∧ call = none) ∧
      ∀ made ∈ call.toList, made.Under c.heading := by
  rw [step] at read
  split at read
  · dsimp only at read
    split at read
    · cases read
      exact ⟨.inl rfl, by simp⟩
    · exact ⟨.inl (row_heading read).1, (row_heading read).2⟩
  · cases line : Line.ofText raw with
    | heading name =>
      rw [line] at read
      cases name with
      | nil => cases read
      | cons d name =>
        cases read
        exact ⟨.inr ⟨List.cons_ne_nil _ _, rfl⟩, by simp⟩
    | row form text =>
      rw [line] at read
      dsimp only at read
      split at read
      · cases read
        exact ⟨.inl rfl, by simp⟩
      · exact ⟨.inl (row_heading read).1, (row_heading read).2⟩
    | blank | comment | ignored text | note kind text | includes header | defines name underlying =>
      rw [line] at read
      cases read
      exact ⟨.inl rfl, by simp [Table.Call.Under]⟩
    | unrecognized text =>
      rw [line] at read
      cases read

theorem run_cons_eq_ok_iff : c.run number (raw :: rows) = .ok (calls, last) ↔
    ∃ call next rest, c.step number raw = .ok (call, next) ∧
      next.run (number + 1) rows = .ok (rest, last) ∧ calls = call.toList ++ rest := by
  simp only [run, bind_eq_ok]
  constructor
  · rintro ⟨⟨call, next⟩, first, ⟨rest, final⟩, later, same⟩
    cases same
    exact ⟨call, next, rest, first, later, rfl⟩
  · rintro ⟨call, next, rest, first, later, rfl⟩
    exact ⟨(call, next), first, (rest, last), later, rfl⟩

/-- The calls of some lines and then of others. -/
theorem run_append_eq_ok_iff : c.run number (rows ++ more) = .ok (calls, last) ↔
    ∃ first next second, c.run number rows = .ok (first, next) ∧
      next.run (number + rows.length) more = .ok (second, last) ∧ calls = first ++ second := by
  induction rows generalizing c number calls with
  | nil => simp [run]
  | cons raw rows ih =>
    simp only [List.cons_append, run_cons_eq_ok_iff, ih, List.length_cons]
    constructor
    · rintro ⟨call, middle, _, step, ⟨first, next, second, before, behind, rfl⟩, rfl⟩
      refine ⟨_, next, second, ⟨call, middle, first, step, before, rfl⟩, ?_, by simp⟩
      rwa [Nat.add_comm rows.length, ← Nat.add_assoc]
    · rintro ⟨_, next, second, ⟨call, middle, first, step, before, rfl⟩, behind, rfl⟩
      refine ⟨call, middle, _, step, ⟨first, next, second, before, ?_, rfl⟩, by simp⟩
      rwa [Nat.add_comm rows.length, ← Nat.add_assoc] at behind

def reader (c : Course) (table : Table) : Reader := ⟨c.source, table, c.heading, c.pending⟩

end Course

namespace Reader

/-- What a reader has besides its table. -/
def course (r : Reader) : Course := ⟨r.source, r.heading, r.pending⟩

variable {r next : Reader} {number : Nat} {raw : Text} {rows : List Text}

theorem addRow_eq (form : RowForm) (t : Text) : r.addRow form t number = do
    let (call, next) ← r.course.row form t number
    return next.reader (← r.table.replay call.toList) := by
  rw [addRow, Course.row]
  cases Declaration.ofText form t with
  | error cause => rfl
  | ok d => rfl

theorem step_eq : r.step number raw = do
    let (call, next) ← r.course.step number raw
    return next.reader (← r.table.replay call.toList) := by
  -- The same cases as in the reader; only a call looks at the table.
  obtain ⟨source, table, heading, pending⟩ := r
  cases pending with
  | some p =>
    simp only [step, Course.step, course]
    split
    · rfl
    · exact addRow_eq _ _
  | none =>
    simp only [step, Course.step, course]
    cases Line.ofText raw with
    | blank => rfl
    | comment => rfl
    | ignored text => rfl
    | heading name => cases name <;> rfl
    | note kind text => rfl
    | includes header => rfl
    | defines name underlying =>
      simp only [ok_bind, Option.toList_some, Table.replay, Table.Call.apply, place, Course.place]
      cases table.register name underlying (some (source ++ ":" ++ decimal number)) <;> rfl
    | row form text =>
      dsimp only
      split
      · rfl
      · exact addRow_eq _ _
    | unrecognized text => rfl

theorem run_eq_ok_iff : r.run number rows = .ok next ↔
    ∃ calls, r.course.run number rows = .ok (calls, next.course) ∧
      r.table.replay calls = .ok next.table := by
  induction rows generalizing r number with
  | nil =>
    obtain ⟨source, table, heading, pending⟩ := next
    constructor
    · intro same
      cases same
      exact ⟨[], rfl, rfl⟩
    · rintro ⟨calls, same, made⟩
      cases same
      cases made
      rfl
  | cons raw rows ih =>
    simp only [run, bind_eq_ok, ih, Course.run_cons_eq_ok_iff]
    constructor
    · rintro ⟨middle, step, rest, later, made⟩
      obtain ⟨⟨call, course⟩, first, done⟩ := bind_eq_ok.mp (step_eq.symm.trans step)
      obtain ⟨table, called, same⟩ := bind_eq_ok.mp done
      cases same
      refine ⟨_, ⟨call, course, rest, first, later, rfl⟩, ?_⟩
      rw [Table.replay_append, called]
      exact made
    · rintro ⟨_, ⟨call, course, rest, first, later, rfl⟩, made⟩
      obtain ⟨table, called, made⟩ := bind_eq_ok.mp ((Table.replay_append _ _ _).symm.trans made)
      refine ⟨course.reader table, ?_, rest, later, made⟩
      rw [step_eq, first, ok_bind]
      exact bind_eq_ok.mpr ⟨table, called, rfl⟩

end Reader

/-- Reading succeeds when no line is refused, no row is left open, and no call is refused. -/
theorem Table.read_eq_ok_iff {source text : Text} {t : Table} : Table.read source text = .ok t ↔
    ∃ calls last, Course.run { source } 1 (lines text) = .ok (calls, last) ∧ last.pending = none ∧
      Table.replay { sources := [source] } calls = .ok t := by
  simp only [Table.read, bind_eq_ok, Reader.run_eq_ok_iff, Reader.finish]
  constructor
  · rintro ⟨r, ⟨calls, run, made⟩, finish⟩
    split at finish
    · cases finish
    · next idle =>
      cases finish
      exact ⟨calls, r.course, run, idle, made⟩
  · rintro ⟨calls, last, run, idle, made⟩
    refine ⟨last.reader t, ⟨calls, run, made⟩, ?_⟩
    rw [Course.reader, idle]

/-- The names of aliases are checked without a line feed at the end of a line, and every call keeps aliases where
rows are. -/
theorem Table.settled_of_read {source text : Text} {t : Table} (read : Table.read source text = .ok t) :
    t.Settled := by
  obtain ⟨calls, -, -, -, made⟩ := read_eq_ok_iff.mp read
  have start : ({ sources := [source] } : Table).Placed := nofun
  exact ⟨fun a member => ((writable_of_read read).aliases a member).named, replay_induction start Placed.apply made⟩

end Forwarding
