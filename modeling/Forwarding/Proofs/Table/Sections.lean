import Forwarding.Proofs.Table.Course
import Mathlib.Algebra.Order.BigOperators.Group.List
import Mathlib.Algebra.Order.Group.Nat

/-! The sections of a table that has been written and read again.

A writer puts the notes of a heading behind the first rows under it, and notes under other headings behind
all rows. A reader puts a note under the last heading line before it, from whose name it drops a colon.
`exists_sameSections_iff` says which tables keep their sections through both.
-/

set_option autoImplicit false

namespace Forwarding

open Text Checks

/-! ### Headings in the order in which they are read -/

def Settles (heading later : Text) : Prop := heading ≠ [] → later ≠ []

namespace Table

/-- Rows and notes under no heading come first, as long as `heading` has no name. -/
structure Ordered (t : Table) (heading : Text) : Prop where
  rows : (t.rows.map Declaration.heading ++ [heading]).Pairwise Settles
  notes : (t.notes.map Note.heading ++ [heading]).Pairwise Settles

theorem pairwise_settles_concat {headings : List Text} {heading : Text}
    (ordered : (headings ++ [heading]).Pairwise Settles) :
    (headings ++ [heading] ++ [heading]).Pairwise Settles := by
  rw [List.pairwise_append] at ordered ⊢
  refine ⟨List.pairwise_append.mpr ordered, List.pairwise_singleton _ _, ?_⟩
  simp only [List.mem_append, List.mem_singleton, forall_eq]
  rintro earlier (old | rfl)
  · exact ordered.2.2 earlier old heading (List.mem_singleton_self _)
  · exact id

theorem pairwise_settles_of_ne_nil {headings : List Text} {heading other : Text} (named : other ≠ [])
    (ordered : (headings ++ [heading]).Pairwise Settles) : (headings ++ [other]).Pairwise Settles := by
  rw [List.pairwise_append] at ordered ⊢
  refine ⟨ordered.1, List.pairwise_singleton _ _, ?_⟩
  simp only [List.mem_singleton, forall_eq]
  exact fun _ _ _ => named

variable {t next : Table} {heading : Text} {call : Call} {calls : List Call}

theorem Ordered.apply (ordered : t.Ordered heading) (under : call.Under heading)
    (made : call.apply t = .ok next) : next.Ordered heading := by
  cases call with
  | register name underlying origin =>
    obtain ⟨-, -, rfl⟩ := register_eq_ok_iff.mp made
    exact ⟨ordered.rows, ordered.notes⟩
  | declare d =>
    cases made
    cases under
    refine ⟨?_, ordered.notes⟩
    rw [Table.declare, List.map_append]
    exact pairwise_settles_concat ordered.rows
  | addInclude header =>
    cases made
    obtain ⟨rows, -, notes⟩ := t.addInclude_eq header
    exact ⟨by rw [rows]; exact ordered.rows, by rw [notes]; exact ordered.notes⟩
  | addNote n =>
    cases made
    cases under
    refine ⟨ordered.rows, ?_⟩
    rw [Table.addNote, List.map_append]
    exact pairwise_settles_concat ordered.notes

theorem Ordered.replay (ordered : t.Ordered heading) (under : ∀ call ∈ calls, call.Under heading)
    (made : t.replay calls = .ok next) : next.Ordered heading := by
  induction calls generalizing t with
  | nil =>
    cases made
    exact ordered
  | cons call calls ih =>
    rw [List.forall_mem_cons] at under
    obtain ⟨middle, first, rest⟩ := bind_eq_ok.mp made
    exact ih (ordered.apply under.1 first) under.2 rest

theorem Ordered.run {c last : Course} {number : Nat} {rows : List Text} (ordered : t.Ordered c.heading)
    (read : c.run number rows = .ok (calls, last)) (made : t.replay calls = .ok next) :
    next.Ordered last.heading := by
  induction rows generalizing c t number calls with
  | nil =>
    cases read
    cases made
    exact ordered
  | cons raw rows ih =>
    obtain ⟨call, middle, rest, first, later, rfl⟩ := Course.run_cons_eq_ok_iff.mp read
    rw [replay_append] at made
    obtain ⟨between, called, made⟩ := bind_eq_ok.mp made
    obtain ⟨stays, under⟩ := Course.step_heading first
    have done := ordered.replay under called
    refine ih ?_ later made
    rcases stays with same | ⟨named, -⟩
    · rwa [same]
    · exact ⟨pairwise_settles_of_ne_nil named done.rows, pairwise_settles_of_ne_nil named done.notes⟩

theorem ordered_of_read {source text : Text} (read : Table.read source text = .ok t) :
    (t.rows.map Declaration.heading).Pairwise Settles ∧ (t.notes.map Note.heading).Pairwise Settles := by
  obtain ⟨calls, last, run, -, made⟩ := read_eq_ok_iff.mp read
  have start : Ordered { sources := [source] } [] := ⟨List.pairwise_singleton _ _, List.pairwise_singleton _ _⟩
  have ordered := start.run run made
  exact ⟨(List.pairwise_append.mp ordered.rows).1, (List.pairwise_append.mp ordered.notes).1⟩

end Table

/-! ### What a reader makes of written lines -/

/-- The heading behind a heading line, where `outer` is the one before it; none if the line is refused. No line
is written for the heading without a name. -/
def heard (outer : Option Text) (heading : Text) : Option Text :=
  if heading = [] then outer
  else if Line.spoken heading = [] then none
  else some (Line.spoken heading)

@[simp] theorem heard_nil (outer : Option Text) : heard outer [] = outer := if_pos rfl

theorem heard_of_ne_nil {heading : Text} (named : heading ≠ []) (outer other : Option Text) :
    heard outer heading = heard other heading := by
  rw [heard, heard, if_neg named, if_neg named]

theorem heard_of_plain {heading : Text} (named : heading ≠ []) (plain : heading.head? ≠ some ':')
    (outer : Option Text) : heard outer heading = some heading := by
  rw [heard, Line.spoken_of_plain plain, if_neg named, if_neg named]

theorem heard_start_of_plain {heading : Text} (plain : heading.head? ≠ some ':') :
    heard (some []) heading = some heading := by
  by_cases empty : heading = []
  · rw [empty, heard_nil]
  · exact heard_of_plain empty plain _

/-- A heading that starts with a colon comes back as a shorter one. -/
theorem length_lt_of_heard {rest : Text} {outer : Option Text} {heading : Text}
    (result : heard outer (':' :: rest) = some heading) : heading.length < (':' :: rest).length := by
  rw [heard, if_neg (List.cons_ne_nil _ _)] at result
  split at result
  · cases result
  · cases result
    exact Nat.lt_succ_of_le (strip_isInfix rest).length_le

theorem length_le_of_heard {outer : Option Text} {heading other : Text} (named : heading ≠ [])
    (result : heard outer heading = some other) : other.length ≤ heading.length := by
  by_cases colon : heading.head? = some ':'
  · obtain ⟨rest, rfl⟩ := List.head?_eq_some_iff.mp colon
    exact (length_lt_of_heard result).le
  · rw [heard_of_plain named colon] at result
    cases result
    exact Nat.le_refl _

theorem plain_of_heard {outer : Option Text} {heading : Text} (result : heard outer heading = some heading) :
    heading.head? ≠ some ':' := by
  intro colon
  obtain ⟨rest, rfl⟩ := List.head?_eq_some_iff.mp colon
  exact Nat.lt_irrefl _ (length_lt_of_heard result)

/-- Where headings are heard as they are, up to their order, none of them starts with a colon: each comes back
no longer than it is. -/
theorem plain_of_perm {headings again : List Text} {outer : Option Text}
    (told : again.map some = headings.map (heard outer)) (perm : again.Perm headings)
    (start : [] ∈ headings → outer = some []) : ∀ heading ∈ headings, heading.head? ≠ some ':' := by
  have each : ∀ heading ∈ headings, ∃ other, heard outer heading = some other ∧
      other.length ≤ heading.length := by
    intro heading member
    have found : heard outer heading ∈ again.map some := told ▸ List.mem_map_of_mem member
    obtain ⟨other, -, same⟩ := List.mem_map.mp found
    refine ⟨other, same.symm, ?_⟩
    by_cases empty : heading = []
    · rw [empty, heard_nil, start (empty ▸ member)] at same
      cases same
      exact Nat.zero_le _
    · exact length_le_of_heard empty same.symm
  have sums : (headings.map fun heading => ((heard outer heading).getD []).length).sum =
      (headings.map List.length).sum := by
    have lengths := congrArg (fun l => (l.map fun o => (o.getD []).length).sum) told
    simp only [List.map_map] at lengths
    exact lengths.symm.trans (perm.map List.length).sum_eq
  intro heading member colon
  refine Nat.ne_of_lt (List.sum_lt_sum _ _ (fun other inside => ?_) ⟨heading, member, ?_⟩) sums
  · obtain ⟨shown, result, bound⟩ := each other inside
    rw [result]
    exact bound
  · obtain ⟨shown, result, -⟩ := each heading member
    obtain ⟨rest, rfl⟩ := List.head?_eq_some_iff.mp colon
    rw [result]
    exact length_lt_of_heard result

theorem eq_some_nil_of_heard {outer : Option Text} {heading : Text} (result : heard outer heading = some []) :
    outer = some [] := by
  rw [heard] at result
  split at result
  · exact result
  split at result
  · cases result
  · next given => exact absurd (Option.some.inj result) given

/-- What is kept of a note that stands under a heading. -/
def Note.under (heading : Option Text) (n : Note) : Option Text × Note.Kind × Text := (heading, n.kind, n.text)

/-- What is heard does not depend on the heading before, for notes that have a heading. -/
theorem map_under_heard_congr {notes : List Note} {outer other : Option Text}
    (same : ∀ n ∈ notes, n.heading = [] → outer = other) :
    notes.map (fun n => n.under (heard outer n.heading)) = notes.map fun n => n.under (heard other n.heading) := by
  refine List.map_congr_left fun n member => ?_
  by_cases empty : n.heading = []
  · rw [same n member empty]
  · rw [heard_of_ne_nil empty]

/-- Lines that leave any reader at rest, if it reads them under `outer`, under the heading `inner`, with rows
and notes under these headings. -/
structure Tells (outer : Option Text) (lines : List Text) (inner : Option Text) (rows : List (Option Text))
    (notes : List (Option Text × Note.Kind × Text)) : Prop where
  inline : ∀ line ∈ lines, Inline line
  run : ∀ (r next : Reader) (number : Nat), r.pending = none → some r.heading = outer →
    r.run number lines = .ok next → next.pending = none ∧ some next.heading = inner ∧
      next.table.rows.map (fun d => some d.heading) = r.table.rows.map (fun d => some d.heading) ++ rows ∧
      next.table.notes.map (fun n => n.under (some n.heading)) =
        r.table.notes.map (fun n => n.under (some n.heading)) ++ notes

namespace Tells

variable {outer inner last : Option Text}

theorem nil (outer : Option Text) : Tells outer [] outer [] [] := by
  refine ⟨by simp, fun r next number idle under read => ?_⟩
  cases read
  exact ⟨idle, under, by simp, by simp⟩

theorem append {first second : List Text} {rows more : List (Option Text)}
    {notes others : List (Option Text × Note.Kind × Text)} (one : Tells outer first inner rows notes)
    (two : Tells inner second last more others) :
    Tells outer (first ++ second) last (rows ++ more) (notes ++ others) := by
  refine ⟨List.forall_mem_append.mpr ⟨one.inline, two.inline⟩, fun r next number idle under read => ?_⟩
  rw [Reader.run_append] at read
  obtain ⟨middle, before, behind⟩ := bind_eq_ok.mp read
  obtain ⟨idle, under, oneRows, oneNotes⟩ := one.run r middle number idle under before
  obtain ⟨idle, under, twoRows, twoNotes⟩ := two.run middle next _ idle under behind
  refine ⟨idle, under, ?_, ?_⟩
  · rw [twoRows, oneRows, List.append_assoc]
  · rw [twoNotes, oneNotes, List.append_assoc]

theorem of_step {line : Text} {rows : List (Option Text)} {notes : List (Option Text × Note.Kind × Text)}
    (inline : Inline line)
    (step : ∀ (r next : Reader) (number : Nat), r.pending = none → some r.heading = outer →
      r.step number line = .ok next → next.pending = none ∧ some next.heading = inner ∧
        next.table.rows.map (fun d => some d.heading) = r.table.rows.map (fun d => some d.heading) ++ rows ∧
        next.table.notes.map (fun n => n.under (some n.heading)) =
          r.table.notes.map (fun n => n.under (some n.heading)) ++ notes) :
    Tells outer [line] inner rows notes := by
  refine ⟨by simpa using inline, fun r next number idle under read => ?_⟩
  obtain ⟨middle, first, rest⟩ := bind_eq_ok.mp read
  cases rest
  exact step r _ number idle under first

theorem blank (outer : Option Text) : Tells outer [[]] outer [] [] := by
  refine of_step .nil fun r next number idle under read => ?_
  rw [Reader.step_blank idle] at read
  cases read
  exact ⟨idle, under, by simp, by simp⟩

theorem note {n : Note} (text : Inline n.text) (outer : Option Text) :
    Tells outer [n.write] outer [] [n.under outer] := by
  refine of_step (Line.inline_note text) fun r next number idle under read => ?_
  simp only [Reader.step, idle, Line.ofText_note text] at read
  cases read
  refine ⟨rfl, under, by simp [Table.addNote], ?_⟩
  rw [Table.addNote, List.map_append, ← under]
  rfl

theorem headingLines {heading : Text} (inline : Inline heading) (outer : Option Text) :
    Tells outer (Table.headingLines heading) (heard outer heading) [] [] := by
  rw [Table.headingLines]
  split
  · next empty =>
    rw [List.isEmpty_iff] at empty
    rw [empty, heard_nil]
    exact nil outer
  · next named =>
    rw [List.isEmpty_iff] at named
    refine of_step (Line.inline_heading inline named) fun r next number idle under read => ?_
    rw [heard, if_neg named]
    simp only [Reader.step, idle, Line.ofText_section inline named] at read
    cases name : Line.spoken heading with
    | nil =>
      rw [name] at read
      cases read
    | cons c name' =>
      rw [name] at read
      cases read
      exact ⟨rfl, (if_neg (List.cons_ne_nil _ _)).symm, by simp, by simp⟩

theorem row {d : Declaration} (writable : d.Writable) (outer : Option Text) :
    Tells outer [d.write] outer [outer] [] := by
  refine of_step writable.inline fun r next number idle under read => ?_
  obtain ⟨again, made, -⟩ := writable.ofArguments
  have plain : ¬ "//".toList <:+: d.form.line d.fields :=
    Line.not_infix_line _ fun a member => (writable.fields a member).plain
  have step := Reader.step_line_of_ok idle plain writable.paired number made
  rw [← d.write_eq, read] at step
  cases step
  refine ⟨rfl, under, ?_, by simp [Table.declare]⟩
  rw [Table.declare, List.map_append, ← under]
  rfl

theorem notes {notes : List Note} (each : ∀ n ∈ notes, Inline n.text) (outer : Option Text) :
    Tells outer (notes.map Note.write) outer [] (notes.map (Note.under outer)) := by
  induction notes with
  | nil => exact nil outer
  | cons n notes ih =>
    rw [List.forall_mem_cons] at each
    exact (note each.1 outer).append (ih each.2)

end Tells

/-! ### Notes by heading -/

/-- The notes of some headings, those of each in order. -/
def Regroups (headings : List Text) (notes grouped : List Note) : Prop :=
  ∀ heading, grouped.filter (fun n => n.heading == heading) =
    if headings.contains heading then notes.filter (fun n => n.heading == heading) else []

namespace Regroups

variable {headings more : List Text} {notes left one two : List Note}

theorem mem (groups : Regroups headings notes one) {n : Note} (member : n ∈ one) :
    n.heading ∈ headings ∧ n ∈ notes := by
  have found : n ∈ one.filter (fun m => m.heading == n.heading) := List.mem_filter.mpr ⟨member, by simp⟩
  rw [groups n.heading] at found
  split at found
  · next known => exact ⟨List.contains_iff_mem.mp known, (List.mem_filter.mp found).1⟩
  · cases found

theorem nil (notes : List Note) : Regroups [] notes [] := fun heading => by
  simp

theorem of_mem_iff (groups : Regroups headings notes one)
    (same : ∀ heading, heading ∈ more ↔ heading ∈ headings) : Regroups more notes one := by
  intro heading
  have listed : more.contains heading = headings.contains heading := by simp [same]
  rw [groups heading, listed]

/-- The notes of one heading, and then those of others among the notes that are left. -/
theorem append {heading : Text} (later : Regroups headings (Table.otherNotes heading notes) one) :
    Regroups (heading :: headings) notes (notes.filter (fun n => n.heading == heading) ++ one) := by
  intro other
  rw [List.filter_append, List.filter_filter, later other, Table.otherNotes, List.filter_filter]
  by_cases same : other = heading
  · subst same
    have none : notes.filter (fun n => n.heading == other && n.heading != other) = [] := by
      simp [List.filter_eq_nil_iff]
    rw [none, ite_self, List.append_nil, if_pos (by simp)]
    simp
  · have none : notes.filter (fun n => n.heading == other && n.heading == heading) = [] := by
      simp only [List.filter_eq_nil_iff, Bool.and_eq_true, beq_iff_eq, not_and]
      exact fun n _ first second => same (first.symm.trans second)
    have all : notes.filter (fun n => n.heading == other && n.heading != heading) =
        notes.filter (fun n => n.heading == other) := by
      refine List.filter_congr fun n _ => ?_
      by_cases here : n.heading = other
      · simp [here, same]
      · simp [here]
    have others : (heading :: headings).contains other = headings.contains other := by simp [same]
    rw [none, all, List.nil_append, others]

theorem of_nodup (distinct : headings.Nodup) (notes : List Note) :
    Regroups headings notes (headings.flatMap fun heading => notes.filter fun n => n.heading == heading) := by
  induction headings with
  | nil => exact nil notes
  | cons heading headings ih =>
    rw [List.nodup_cons] at distinct
    rw [List.flatMap_cons]
    refine append fun other => ?_
    rw [ih distinct.2 other]
    split
    · next member =>
      have apart : other ≠ heading := fun same => distinct.1 (same ▸ List.contains_iff_mem.mp member)
      rw [Table.otherNotes, List.filter_filter]
      refine List.filter_congr fun n _ => ?_
      by_cases here : n.heading = other
      · simp [here, apart]
      · simp [here]
    · rfl

/-- The notes of some headings, and then those of all others. -/
theorem filter_append (groups : Regroups headings notes one)
    (others : Regroups ((notes.filter fun n => decide (n.heading ∉ headings)).map Note.heading)
      (notes.filter fun n => decide (n.heading ∉ headings)) two) (heading : Text) :
    (one ++ two).filter (fun n => n.heading == heading) = notes.filter fun n => n.heading == heading := by
  rw [List.filter_append, groups heading, others heading, List.filter_filter]
  by_cases known : heading ∈ headings
  · have absent : heading ∉ (notes.filter fun n => decide (n.heading ∉ headings)).map Note.heading := by
      intro member
      obtain ⟨n, found, rfl⟩ := List.mem_map.mp member
      simpa [known] using (List.mem_filter.mp found).2
    rw [if_pos (by simpa using known), if_neg (by simpa using absent), List.append_nil]
  · have same : notes.filter (fun n => n.heading == heading && decide (n.heading ∉ headings)) =
        notes.filter fun n => n.heading == heading := by
      refine List.filter_congr fun n _ => ?_
      by_cases here : n.heading = heading
      · simp [here, known]
      · simp [here]
    rw [if_neg (by simpa using known), List.nil_append, same, ite_eq_left_iff]
    intro absent
    refine (List.filter_eq_nil_iff.mpr fun n member found => ?_).symm
    have here : n.heading = heading := by simpa using found
    have left : n ∈ notes.filter fun n => decide (n.heading ∉ headings) :=
      List.mem_filter.mpr ⟨member, by simpa [here] using known⟩
    exact absent (List.contains_iff_mem.mpr (List.mem_map.mpr ⟨n, left, here⟩))

end Regroups

/-! ### A table as it is written and read -/

namespace Table

variable {notes left : List Note} {rows : List Declaration} {current : Text}

theorem rowLines_snd (current : Text) (notes : List Note) (rows : List Declaration) :
    (rowLines current notes rows).2 =
      notes.filter fun n => decide (n.heading ∉ current :: rows.map Declaration.heading) := by
  induction rows generalizing current notes with
  | nil =>
    refine List.filter_congr fun n _ => ?_
    by_cases here : n.heading = current
    · simp [here]
    · simp [here]
  | cons d rows ih =>
    rw [rowLines]
    split
    · next same =>
      rw [beq_iff_eq] at same
      simp only [ih, List.map_cons, same, List.mem_cons, or_self_left]
    · simp only [ih, otherNotes, List.filter_filter]
      refine List.filter_congr fun n _ => ?_
      by_cases here : n.heading = current
      · simp [here]
      · simp [here]

theorem bodyLines_snd (notes : List Note) (rows : List Declaration) :
    (bodyLines notes rows).2 =
      notes.filter fun n => decide (n.heading ∉ rows.map Declaration.heading) := by
  cases rows with
  | nil => simp [bodyLines]
  | cons d rows => exact rowLines_snd d.heading notes rows

theorem tells_noteLines (each : ∀ n ∈ notes, Inline n.text) (outer : Option Text) (heading : Text) :
    Tells (heard outer heading) (noteLines heading notes) (heard outer heading) []
      ((notes.filter fun n => n.heading == heading).map fun n => n.under (heard outer n.heading)) := by
  have told : (notes.filter fun n => n.heading == heading).map (Note.under (heard outer heading)) =
      (notes.filter fun n => n.heading == heading).map fun n => n.under (heard outer n.heading) := by
    refine List.map_congr_left fun n member => ?_
    have same : n.heading = heading := by simpa using (List.mem_filter.mp member).2
    rw [same]
  rw [← told]
  exact Tells.notes (fun n member => each n (List.mem_filter.mp member).1) _

theorem exists_tells_rowLines (each : ∀ n ∈ notes, Inline n.text)
    (written : ∀ d ∈ rows, d.Writable ∧ Inline d.heading)
    (ordered : (current :: rows.map Declaration.heading).Pairwise Settles) : ∃ grouped,
      Tells (heard (some []) current) (rowLines current notes rows).1
        (heard (some []) ((rows.map Declaration.heading).getLastD current))
        (rows.map fun d => heard (some []) d.heading)
        (grouped.map fun n => n.under (heard (some []) n.heading)) ∧
      Regroups (current :: rows.map Declaration.heading) notes grouped := by
  induction rows generalizing current notes with
  | nil =>
    refine ⟨_, tells_noteLines each (some []) current, ?_⟩
    have groups : Regroups [current] notes ((notes.filter fun n => n.heading == current) ++ []) :=
      Regroups.append (Regroups.nil _)
    rwa [List.append_nil] at groups
  | cons d rows ih =>
    rw [List.forall_mem_cons] at written
    obtain ⟨⟨row, inline⟩, later⟩ := written
    rw [List.map_cons] at ordered ⊢
    rw [rowLines, List.getLastD_cons]
    split
    · next same =>
      rw [beq_iff_eq] at same
      subst same
      obtain ⟨grouped, told, groups⟩ := ih each later (List.pairwise_cons.mp ordered).2
      exact ⟨grouped, (Tells.row row _).append told, groups.of_mem_iff (by simp)⟩
    · next changes =>
      rw [beq_iff_eq] at changes
      have named : d.heading ≠ [] := by
        by_cases empty : current = []
        · exact empty ▸ changes
        · exact List.rel_of_pairwise_cons ordered (List.mem_cons_self ..) empty
      have others : ∀ n ∈ otherNotes current notes, Inline n.text := fun n member =>
        each n (List.mem_filter.mp member).1
      obtain ⟨grouped, told, groups⟩ := ih others later (List.pairwise_cons.mp ordered).2
      have opens := Tells.headingLines inline (heard (some []) current)
      rw [heard_of_ne_nil named _ (some [])] at opens
      have group := (((tells_noteLines each (some []) current).append (Tells.blank _)).append opens).append
        ((Tells.row row _).append told)
      refine ⟨_, ?_, groups.append⟩
      simpa using group

theorem exists_tells_bodyLines (each : ∀ n ∈ notes, Inline n.text)
    (written : ∀ d ∈ rows, d.Writable ∧ Inline d.heading)
    (ordered : (rows.map Declaration.heading).Pairwise Settles) : ∃ grouped,
      Tells (some []) (bodyLines notes rows).1
        (heard (some []) ((rows.map Declaration.heading).getLastD []))
        (rows.map fun d => heard (some []) d.heading)
        (grouped.map fun n => n.under (heard (some []) n.heading)) ∧
      Regroups (rows.map Declaration.heading) notes grouped := by
  cases rows with
  | nil => exact ⟨[], Tells.nil _, Regroups.nil notes⟩
  | cons d rows =>
    rw [List.forall_mem_cons] at written
    obtain ⟨⟨row, inline⟩, later⟩ := written
    obtain ⟨grouped, told, groups⟩ := exists_tells_rowLines each later ordered
    refine ⟨grouped, ?_, groups⟩
    rw [List.map_cons, List.getLastD_cons]
    exact (Tells.headingLines inline (some [])).append ((Tells.row row _).append told)

/-- The notes of headings without rows. Only the first of these headings may have no name. -/
theorem exists_tells_groups {headings : List Text} (each : ∀ n ∈ notes, Inline n.text)
    (inline : ∀ heading ∈ headings, Inline heading) (named : [] ∉ headings.tail) (outer : Option Text) :
    ∃ last, Tells outer
      (headings.flatMap fun heading => [] :: headingLines heading ++ noteLines heading notes) last []
      ((headings.flatMap fun heading => notes.filter fun n => n.heading == heading).map
        fun n => n.under (heard outer n.heading)) := by
  induction headings generalizing outer with
  | nil => exact ⟨outer, Tells.nil outer⟩
  | cons heading headings ih =>
    rw [List.forall_mem_cons] at inline
    rw [List.tail_cons] at named
    obtain ⟨last, told⟩ := ih inline.2 (fun member => named (List.mem_of_mem_tail member)) (heard outer heading)
    have first := ((Tells.blank outer).append (Tells.headingLines inline.1 outer)).append
      (tells_noteLines each outer heading)
    refine ⟨last, ?_⟩
    -- The later headings have lines of their own, so that the first one does not show there.
    have given : ∀ n ∈ headings.flatMap fun heading => notes.filter fun n => n.heading == heading,
        n.heading ≠ [] := by
      intro n member empty
      obtain ⟨other, known, found⟩ := List.mem_flatMap.mp member
      have here : n.heading = other := by simpa using (List.mem_filter.mp found).2
      exact named (empty ▸ here ▸ known)
    rw [map_under_heard_congr fun n member empty => absurd empty (given n member)] at told
    rw [List.flatMap_cons, List.flatMap_cons, List.map_append]
    exact first.append told

theorem exists_tells_leftoverLines (each : ∀ n ∈ notes, Inline n.text ∧ Inline n.heading)
    (ordered : (notes.map Note.heading).Pairwise Settles) (outer : Option Text) : ∃ last grouped,
      Tells outer (leftoverLines notes) last [] (grouped.map fun n => n.under (heard outer n.heading)) ∧
      Regroups (notes.map Note.heading) notes grouped := by
  have distinct := nodup_eraseDups (notes.map Note.heading)
  have named : [] ∉ (notes.map Note.heading).eraseDups.tail := by
    cases notes with
    | nil => simp
    | cons n notes =>
      rw [List.map_cons] at ordered ⊢
      rw [List.eraseDups_cons, List.tail_cons, List.mem_eraseDups, List.mem_filter]
      rintro ⟨member, differs⟩
      have given : n.heading ≠ [] := fun same => by simp [same] at differs
      exact List.rel_of_pairwise_cons ordered member given rfl
  have inline : ∀ heading ∈ (notes.map Note.heading).eraseDups, Inline heading := by
    intro heading member
    obtain ⟨n, found, rfl⟩ := List.mem_map.mp (List.mem_eraseDups.mp member)
    exact (each n found).2
  obtain ⟨last, told⟩ := exists_tells_groups (fun n member => (each n member).1) inline named outer
  exact ⟨last, _, told, (Regroups.of_nodup distinct notes).of_mem_iff (by simp)⟩

variable {t again : Table} {source target text : Text}

/-- The heading before the notes of headings that have no rows, unless one without a name is among those that
have. -/
def lastHeard (t : Table) : Option Text :=
  if (t.rows.map Declaration.heading).contains [] then some []
  else heard (some []) ((t.rows.map Declaration.heading).getLastD [])

theorem lastHeard_of_mem (known : [] ∈ t.rows.map Declaration.heading) : t.lastHeard = some [] :=
  if_pos (List.contains_iff_mem.mpr known)

theorem lastHeard_of_not_mem (absent : [] ∉ t.rows.map Declaration.heading) :
    t.lastHeard = heard (some []) ((t.rows.map Declaration.heading).getLastD []) :=
  if_neg fun known => absent (List.contains_iff_mem.mp known)

theorem lastHeard_eq_some_nil_iff (plain : ∀ d ∈ t.rows, heard (some []) d.heading = some d.heading) :
    t.lastHeard = some [] ↔ t.rows = [] ∨ ∃ d ∈ t.rows, d.heading = [] := by
  by_cases known : [] ∈ t.rows.map Declaration.heading
  · exact iff_of_true (lastHeard_of_mem known) (.inr (List.mem_map.mp known))
  -- Otherwise it is the heading of the last row, and that is not the empty one.
  rw [lastHeard_of_not_mem known]
  rcases List.eq_nil_or_concat' t.rows with none | ⟨front, d, parts⟩
  · rw [none]
    exact iff_of_true rfl (.inl rfl)
  · have row : d ∈ t.rows := parts ▸ List.mem_concat_self
    have last : (t.rows.map Declaration.heading).getLastD [] = d.heading := by
      rw [parts, List.map_append, List.getLastD_eq_getLast?]
      exact congrArg (Option.getD · []) List.getLast?_concat
    rw [last, plain d row]
    refine iff_of_false (fun same => ?_) ?_
    · exact known (List.mem_map.mpr ⟨d, row, Option.some.inj same⟩)
    · exact not_or.mpr ⟨List.ne_nil_of_mem row, fun found => known (List.mem_map.mpr found)⟩

/-- What lines tell behind the opening lines of a table is found in the table that is read. -/
theorem Writable.found_of_read {lines : List Text} {inner : Option Text} {headings : List (Option Text)}
    {told : List (Option Text × Note.Kind × Text)} (writable : t.Writable)
    (tells : Tells (some []) lines inner headings told)
    (read : Table.read source (stripEnd (join "\n" (t.openingLines ++ lines)) ++ "\n") = .ok again) :
    again.rows.map (fun d => some d.heading) = headings ∧
      again.notes.map (fun n => n.under (some n.heading)) = told := by
  obtain ⟨r, run, rfl⟩ := exists_run_of_read
    (List.forall_mem_append.mpr ⟨writable.inline_openingLines, tells.inline⟩) read
  obtain ⟨more, opening, -, -⟩ := writable.run_openingLines source
  rw [Reader.run_append_of_ok opening] at run
  obtain ⟨-, -, rows, notes⟩ := tells.run _ r _ rfl rfl run
  exact ⟨by simpa [Reader.start] using rows, by simpa [Reader.start] using notes⟩

/-- Rows come back under what is heard of their headings, and notes too, those of a heading in order. -/
theorem exists_notes_of_read_write (read : read source text = .ok t)
    (again' : Table.read target (t.write []) = .ok again) :
    again.rows.map (fun d => some d.heading) = t.rows.map (fun d => heard (some []) d.heading) ∧
    ∃ grouped : List Note,
      again.notes.map (fun n => n.under (some n.heading)) =
        grouped.map (fun n => n.under (heard t.lastHeard n.heading)) ∧
      ∀ heading, grouped.filter (fun n => n.heading == heading) =
        t.notes.filter fun n => n.heading == heading := by
  have writable := writable_of_read read
  obtain ⟨rowOrder, noteOrder⟩ := ordered_of_read read
  obtain ⟨early, body, groups⟩ := exists_tells_bodyLines (fun n member => (writable.notes n member).1)
    writable.rows rowOrder
  have left : ∀ n ∈ (bodyLines t.notes t.rows).2, n ∈ t.notes ∧ n.heading ∉ t.rows.map Declaration.heading := by
    intro n member
    rw [bodyLines_snd] at member
    simpa using List.mem_filter.mp member
  have leftOrder : ((bodyLines t.notes t.rows).2.map Note.heading).Pairwise Settles := by
    rw [bodyLines_snd]
    exact noteOrder.sublist (List.filter_sublist.map _)
  obtain ⟨last, late, rest, others⟩ := exists_tells_leftoverLines
    (fun n member => writable.notes n (left n member).1) leftOrder
    (heard (some []) ((t.rows.map Declaration.heading).getLastD []))
  rw [write_eq] at again'
  obtain ⟨rows, notes⟩ := writable.found_of_read (body.append rest) again'
  rw [List.append_nil] at rows
  refine ⟨rows, early ++ late, ?_, fun heading => ?_⟩
  -- Notes among the rows are under no heading only if some row is, and notes behind the rows only if none is.
  · rw [notes, List.map_append]
    exact congrArg₂ (· ++ ·)
      (map_under_heard_congr fun n member empty => (lastHeard_of_mem (empty ▸ (groups.mem member).1)).symm)
      (map_under_heard_congr fun n member empty =>
        (lastHeard_of_not_mem (empty ▸ (left n (others.mem member).2).2)).symm)
  · rw [bodyLines_snd] at others
    exact groups.filter_append others heading

theorem exists_tells_rows (written : ∀ d ∈ rows, d.Writable ∧ Inline d.heading) (current : Text)
    (outer : Option Text) :
    ∃ inner headings, Tells outer (rowLines current [] rows).1 inner headings [] := by
  induction rows generalizing current outer with
  | nil => exact ⟨outer, [], Tells.nil outer⟩
  | cons d rows ih =>
    rw [List.forall_mem_cons] at written
    obtain ⟨⟨row, inline⟩, later⟩ := written
    rw [rowLines]
    split
    · obtain ⟨inner, headings, told⟩ := ih later current outer
      exact ⟨inner, _, (Tells.row row outer).append told⟩
    · have opens := (Tells.blank outer).append (Tells.headingLines inline outer)
      obtain ⟨inner, headings, told⟩ := ih later d.heading (heard outer d.heading)
      refine ⟨inner, [heard outer d.heading] ++ headings, ?_⟩
      simpa [noteLines, otherNotes] using opens.append ((Tells.row row _).append told)

theorem notes_of_read_write (writable : t.Writable) (silent : t.notes = [])
    (again' : Table.read target (t.write []) = .ok again) : again.notes = [] := by
  have body : ∃ inner headings, Tells (some []) (bodyLines [] t.rows).1 inner headings [] := by
    cases rows : t.rows with
    | nil => exact ⟨some [], [], Tells.nil _⟩
    | cons d rest =>
      have written := writable.rows
      rw [rows, List.forall_mem_cons] at written
      obtain ⟨⟨row, inline⟩, later⟩ := written
      obtain ⟨inner, headings, told⟩ := exists_tells_rows later d.heading (heard (some []) d.heading)
      exact ⟨inner, _, (Tells.headingLines inline (some [])).append ((Tells.row row _).append told)⟩
  obtain ⟨inner, headings, told⟩ := body
  have rest : leftoverLines (bodyLines [] t.rows).2 = [] := by simp [bodyLines_snd, leftoverLines]
  rw [write_eq, silent, rest, List.append_nil] at again'
  simpa using (writable.found_of_read told again').2

/-- The rows stand under the same headings, and so do the notes, those of each heading in order. -/
structure SameSections (t again : Table) : Prop where
  rows : again.rows.map Declaration.heading = t.rows.map Declaration.heading
  notes : ∀ heading, (again.notes.filter fun n => n.heading == heading).map (fun n => (n.kind, n.text)) =
    (t.notes.filter fun n => n.heading == heading).map fun n => (n.kind, n.text)

/-- No heading starts with a colon, and the notes under no heading have a place: some row is under no heading,
or there are no rows at all. -/
structure Sectioned (t : Table) : Prop where
  rows : ∀ d ∈ t.rows, d.heading.head? ≠ some ':'
  notes : ∀ n ∈ t.notes, n.heading.head? ≠ some ':'
  placed : ∀ n ∈ t.notes, n.heading = [] → t.rows = [] ∨ ∃ d ∈ t.rows, d.heading = []

theorem map_filter_notes (notes : List Note) (heading : Text) :
    (notes.filter fun n => n.heading == heading).map (fun n => (n.kind, n.text)) =
      ((notes.map fun n => n.under (some n.heading)).filter fun e => e.1 == some heading).map Prod.snd := by
  rw [List.filter_map, List.map_map]
  rfl

theorem count_heading (notes : List Note) (heading : Text) : (notes.map Note.heading).count heading =
    (notes.filter fun n => n.heading == heading).length := by
  rw [List.count_eq_countP, List.countP_map, List.countP_eq_length_filter]
  rfl

theorem perm_headings {left right : List Note} (same : ∀ heading,
    (left.filter fun n => n.heading == heading).length = (right.filter fun n => n.heading == heading).length) :
    (left.map Note.heading).Perm (right.map Note.heading) := by
  refine List.perm_iff_count.mpr fun heading => ?_
  rw [count_heading, count_heading, same heading]

theorem Sectioned.sameSections (sectioned : t.Sectioned) (read : read source text = .ok t)
    (again' : Table.read target (t.write []) = .ok again) : t.SameSections again := by
  obtain ⟨rows, grouped, notes, groups⟩ := exists_notes_of_read_write read again'
  have member : ∀ n ∈ grouped, n ∈ t.notes := by
    intro n member
    have found : n ∈ grouped.filter (fun m => m.heading == n.heading) :=
      List.mem_filter.mpr ⟨member, by simp⟩
    rw [groups n.heading] at found
    exact (List.mem_filter.mp found).1
  have outer : ∀ n ∈ t.notes, n.heading = [] → t.lastHeard = some [] := fun n member empty =>
    (lastHeard_eq_some_nil_iff fun d row => heard_start_of_plain (sectioned.rows d row)).mpr
      (sectioned.placed n member empty)
  have same : again.notes.map (fun n => n.under (some n.heading)) =
      grouped.map fun n => n.under (some n.heading) := by
    rw [notes, map_under_heard_congr fun n inside => outer n (member n inside)]
    exact List.map_congr_left fun n inside =>
      congrArg n.under (heard_start_of_plain (sectioned.notes n (member n inside)))
  refine ⟨?_, fun heading => ?_⟩
  · have plain : t.rows.map (fun d => heard (some []) d.heading) = t.rows.map fun d => some d.heading :=
      List.map_congr_left fun d row => heard_start_of_plain (sectioned.rows d row)
    rw [plain] at rows
    refine List.map_injective_iff.mpr (fun _ _ => Option.some.inj) ?_
    rw [List.map_map, List.map_map]
    exact rows
  · rw [← groups heading, map_filter_notes, map_filter_notes, same]

theorem SameSections.sectioned (same : t.SameSections again) (read : read source text = .ok t)
    (again' : Table.read target (t.write []) = .ok again) : t.Sectioned := by
  obtain ⟨rows, grouped, notes, groups⟩ := exists_notes_of_read_write read again'
  have plain : ∀ d ∈ t.rows, heard (some []) d.heading = some d.heading := by
    have told := congrArg (List.map some) same.rows
    rw [List.map_map, List.map_map] at told
    exact fun d row => List.map_inj_left.mp (rows.symm.trans told) d row
  have told : (again.notes.map Note.heading).map some = (grouped.map Note.heading).map (heard t.lastHeard) := by
    have headings := congrArg (List.map Prod.fst) notes
    rw [List.map_map, List.map_map] at headings
    rw [List.map_map, List.map_map]
    exact headings
  have perm : (again.notes.map Note.heading).Perm (t.notes.map Note.heading) :=
    perm_headings fun heading => by simpa using congrArg List.length (same.notes heading)
  have regrouped : (t.notes.map Note.heading).Perm (grouped.map Note.heading) :=
    perm_headings fun heading => congrArg List.length (groups heading).symm
  -- A note under no heading comes back as one, so that no heading is before it.
  have start : [] ∈ t.notes.map Note.heading → t.lastHeard = some [] := by
    intro member
    have found : some [] ∈ (again.notes.map Note.heading).map some :=
      List.mem_map_of_mem (perm.mem_iff.mpr member)
    rw [told] at found
    obtain ⟨heading, -, result⟩ := List.mem_map.mp found
    exact eq_some_nil_of_heard result
  refine ⟨fun d row => plain_of_heard (plain d row), fun n member => ?_, fun n member empty => ?_⟩
  · refine plain_of_perm told (perm.trans regrouped)
      (fun inside => start (regrouped.mem_iff.mpr inside)) _ ?_
    exact regrouped.mem_iff.mp (List.mem_map_of_mem member)
  · exact (lastHeard_eq_some_nil_iff plain).mp (start (List.mem_map.mpr ⟨n, member, empty⟩))

/-- The tables that keep their sections: a table that has been read is written as a text that is read again with
the same headings just when no heading starts with a colon and the notes under no heading have a place. -/
theorem exists_sameSections_iff (read : Table.read source text = .ok t) (target : Text) :
    (∃ again, Table.read target (t.write []) = .ok again ∧ t.SameSections again) ↔ t.Sectioned := by
  constructor
  · rintro ⟨again, again', same⟩
    exact same.sectioned read again'
  · intro sectioned
    obtain ⟨again, again', -, -⟩ :=
      (writable_of_read read).exists_read_write target sectioned.rows sectioned.notes
    exact ⟨again, again', sectioned.sameSections read again'⟩

theorem exists_sameSections_notes : ∃ t again,
    Table.read "t" "PROXY(A, void, f);\n// @todo: x\n// @section S\n// @skip\nPROXY(B, void, g);\n// @section N\n// @todo" =
      .ok t ∧ Table.read "u" (t.write []) = .ok again ∧ t.SameSections again := by
  obtain ⟨again, again', same⟩ := (@exists_sameSections_iff _ "t"
    "PROXY(A, void, f);\n// @todo: x\n// @section S\n// @skip\nPROXY(B, void, g);\n// @section N\n// @todo" rfl "u").mpr
      ⟨by decide, by decide, by decide⟩
  exact ⟨_, again, rfl, again', same⟩

/-- A section whose name is made of colons cannot be read again, and a note before the first section is read
again behind the rows of the last one. -/
theorem not_sameSections :
    (∃ t, Table.read "t" "// @section ::\nPROXY(A, void, f);\n" = .ok t ∧
      ∃ fault, Table.read "t" (t.write []) = .error fault) ∧
    ∃ t again, Table.read "t" "// @todo: x\n// @section S\nPROXY(A, void, f);\n" = .ok t ∧
      Table.read "t" (t.write []) = .ok again ∧ ¬ t.SameSections again := by
  refine ⟨⟨_, rfl, _, rfl⟩, _, _, rfl, rfl, fun same => ?_⟩
  have notes := same.notes []
  revert notes
  decide

end Table

end Forwarding
