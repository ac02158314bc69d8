import Forwarding.Proofs.Declaration
import Forwarding.Proofs.Table.Line
import Forwarding.Proofs.Table.Row

/-! Tables that can be written: their rows, aliases, includes and notes each fill a line that says
nothing else. Every table that has been read is one of them.
-/

set_option autoImplicit false

namespace Forwarding

open Text Spelling Checks

/-- An argument of a row as it is written. -/
structure Field (a : Text) : Prop where
  given : a ≠ []
  inline : Inline a
  plain : ¬ "//".toList <:+: a
  single : ¬ HasOuterComma a

namespace Declaration

/-- The arguments that a row is written with. An empty tag is not written. -/
def fields (d : Declaration) : List Text :=
  d.subject :: d.result :: d.method :: ((if d.tag = [] then [] else [d.tag]) ++ d.parameters)

def form (d : Declaration) : RowForm := if d.tag = [] then .plain else .overload

structure Writable (d : Declaration) : Prop where
  fields : ∀ a ∈ d.fields, Field a
  closed : ∀ a ∈ d.fields.dropLast, openAfter a = []
  paired : Paired '(' ')' (join ", " d.fields)

theorem write_eq (d : Declaration) : d.write = d.form.line d.fields := by
  cases tag : d.tag <;> simp [write, form, fields, tag, RowForm.line]

theorem spells_fields (d : Declaration) : d.Spells d.form d.fields := by
  cases tag : d.tag <;> simp [Spells, form, fields, tag]

theorem filter_given {types : List Text} (nonempty : [] ∉ given types) :
    types.filter (fun a => !a.isEmpty) = given types := by
  rw [given] at nonempty ⊢
  split at nonempty
  · next empty => simp [empty]
  · next other =>
    rw [if_neg other, List.filter_eq_self]
    intro a member
    have some : a ≠ [] := fun empty => nonempty (by rwa [← empty])
    simpa using some

theorem fields_of_ofArguments {form : RowForm} {pieces : List Text} {d : Declaration}
    (made : ofArguments form pieces = .ok d) : d.fields = pieces.filter fun a => !a.isEmpty := by
  unfold ofArguments at made
  split at made
  · obtain ⟨⟨subject, result, method, types⟩, rfl⟩ := make_eq_ok_iff.mp made
    simp [fields, subject, result, method, filter_given types]
  · next tag types =>
    obtain ⟨⟨subject, result, method, nonempty⟩, rfl⟩ := make_eq_ok_iff.mp made
    by_cases empty : tag = []
    · simp [fields, subject, result, method, filter_given nonempty, empty]
    · simp [fields, subject, result, method, filter_given nonempty, empty]
  · cases made

private theorem mem_dropLast_of_filter {p : Text → Bool} {pieces : List Text} {a : Text}
    (member : a ∈ (pieces.filter p).dropLast) : a ∈ pieces.dropLast := by
  rcases List.eq_nil_or_concat pieces with rfl | ⟨front, last, rfl⟩
  · cases member
  · rw [List.concat_eq_append] at member ⊢
    rw [List.dropLast_concat]
    rw [List.filter_append] at member
    cases kept : p last with
    | true =>
      rw [List.filter_cons_of_pos kept, List.filter_nil, List.dropLast_concat] at member
      exact (List.mem_filter.mp member).1
    | false =>
      rw [List.filter_cons_of_neg (by simp [kept]), List.filter_nil, List.append_nil] at member
      exact (List.mem_filter.mp (List.dropLast_subset _ member)).1

theorem writable_of_ofText {form : RowForm} {t : Text} {d : Declaration} (unbroken : Unbroken t)
    (plain : ¬ "//".toList <:+: t) (made : ofText form t = .ok d) : d.Writable := by
  rw [ofText] at made
  split at made
  · cases made
  next inside rest found =>
  dsimp only at made
  split at made
  case isFalse => cases made
  obtain ⟨parts, bound, equal⟩ := enclosed_iff.mp found
  have within : inside <:+: t := by
    have behind : afterParenthesis t <:+ t := (List.drop_suffix 1 _).trans (List.dropWhile_suffix _)
    rw [parts] at behind
    exact (List.infix_append' [] inside _).trans behind.isInfix
  have fields := fields_of_ofArguments made
  refine ⟨fun a member => ?_, fun a member => ?_, ?_⟩
  · rw [fields, List.mem_filter] at member
    obtain ⟨piece, stripped, single⟩ := of_mem_arguments member.1
    have here := piece.trans within
    exact ⟨by simpa using member.2, ⟨unbroken.of_infix here, stripped⟩,
      fun slashes => plain (slashes.trans here), single⟩
  · rw [fields] at member
    exact openAfter_of_mem_dropLast (mem_dropLast_of_filter member)
  · have pair : Paired '(' ')' inside := ⟨bound, equal⟩
    refine pair.of_filter ?_
    rw [filter_join (by decide), fields, List.flatten_filter_not_isEmpty]
    refine (filter_flatten_arguments (by decide) (fun c blank => ?_) inside).symm
    simp [ne_of_isBlank (d := '(') blank rfl, ne_of_isBlank (d := ')') blank rfl]

end Declaration

theorem Table.alias?_eq_none_iff {t : Table} {name : Text} :
    t.alias? name = none ↔ name ∉ t.aliases.map Alias.name := by
  simp [Table.alias?, List.find?_eq_none]

theorem Table.register_eq_ok_iff {t next : Table} {name type : Text} {origin : Option Text} :
    t.register name type origin = .ok next ↔ isIdentifier name = true ∧ name ∉ t.aliases.map Alias.name ∧
      next = { t with aliases := t.aliases ++ [⟨name, squeeze type, t.rows.length, origin⟩] } := by
  rw [← Table.alias?_eq_none_iff, Table.register]
  cases t.alias? name <;> cases isIdentifier name <;> simp [eq_comm]

/-- A table whose lines are read as they are written. -/
structure Table.Writable (t : Table) : Prop where
  rows : ∀ d ∈ t.rows, d.Writable ∧ Inline d.heading
  aliases : ∀ a ∈ t.aliases, a.Writable
  names : (t.aliases.map Alias.name).Nodup
  includes : ∀ header ∈ t.includes, Inline header ∧ Line.isHeader header = true
  distinct : t.includes.Nodup
  notes : ∀ n ∈ t.notes, Inline n.text ∧ Inline n.heading

namespace Table.Writable

variable {t : Table} (writable : t.Writable)
include writable

theorem declare {d : Declaration} (row : d.Writable) (heading : Inline d.heading) :
    (t.declare d).Writable :=
  { writable with rows := List.forall_mem_append.mpr ⟨writable.rows, by simpa using ⟨row, heading⟩⟩ }

theorem addNote {n : Note} (text : Inline n.text) (heading : Inline n.heading) :
    (t.addNote n).Writable :=
  { writable with notes := List.forall_mem_append.mpr ⟨writable.notes, by simpa using ⟨text, heading⟩⟩ }

theorem addInclude {header : Text} (inline : Inline header) (marked : Line.isHeader header = true) :
    (t.addInclude header).Writable := by
  rw [Table.addInclude]
  split
  · exact writable
  · next new =>
    refine { writable with
      includes := List.forall_mem_append.mpr ⟨writable.includes, by simpa using ⟨inline, marked⟩⟩
      distinct := List.nodup_append.mpr ⟨writable.distinct, by simp, ?_⟩ }
    rintro old member _ last rfl
    rw [List.mem_singleton] at last
    subst last
    exact new (by simpa using member)

theorem register {name type : Text} {origin : Option Text} {next : Table}
    (sound : (Line.defines name type).Sound) (added : t.register name type origin = .ok next) :
    next.Writable := by
  obtain ⟨named, new, rfl⟩ := Table.register_eq_ok_iff.mp added
  obtain ⟨word, ⟨c, member, solid⟩, plain⟩ := sound
  have core : isIdentifierCore name = true := by
    rwa [isIdentifier, dropNewline_of_word word] at named
  have written : Alias.Writable ⟨name, squeeze type, t.rows.length, origin⟩ := by
    refine ⟨⟨name_of_isIdentifierCore core, fun empty => ?_, (squeeze_squeeze type).1, fun slashes => ?_⟩, core⟩
    · rw [squeeze_eq_nil_iff.mp empty c member] at solid
      cases solid
    · exact plain ((pair_infix_squeeze (a := '/') rfl type).1 slashes)
  refine { writable with
    aliases := List.forall_mem_append.mpr ⟨writable.aliases, by simpa using written⟩
    names := ?_ }
  rw [List.map_append, List.nodup_append]
  refine ⟨writable.names, by simp, ?_⟩
  rintro old member _ last rfl
  rw [List.map_singleton, List.mem_singleton] at last
  subst last
  exact new member

end Table.Writable

/-- What holds of a reader at any time. -/
structure Reader.Sound (r : Reader) : Prop where
  table : r.table.Writable
  heading : Inline r.heading
  pending : ∀ p, r.pending = some p →
    Unbroken p.text ∧ ¬ "//".toList <:+: p.text ∧ Reader.isOpen p.text = true

namespace Reader

variable {r next : Reader}

theorem Sound.addRow {form : RowForm} {t : Text} {number : Nat} (sound : r.Sound) (unbroken : Unbroken t)
    (plain : ¬ "//".toList <:+: t) (added : r.addRow form t number = .ok next) : next.Sound := by
  rw [Reader.addRow] at added
  split at added
  · cases added
  · next d made =>
    cases added
    have row := Declaration.writable_of_ofText unbroken plain made
    exact ⟨sound.table.declare ⟨row.fields, row.closed, row.paired⟩ sound.heading, sound.heading, by simp⟩

theorem Sound.continued {raw : Text} {p : Pending} (sound : r.Sound) (unbroken : Unbroken raw)
    (waiting : r.pending = some p) : Unbroken (p.text ++ " " ++ Line.withoutComment (strip raw)) ∧
      ¬ ['/', '/'] <:+: p.text ++ " " ++ Line.withoutComment (strip raw) := by
  have before := sound.pending p waiting
  have more : Unbroken (Line.withoutComment (strip raw)) :=
    unbroken.of_infix ((Line.withoutComment_isPrefix _).isInfix.trans (strip_isInfix raw))
  refine ⟨(before.1.append (.cons rfl .nil)).append more, ?_⟩
  -- The blank between the parts keeps a slash on each side apart.
  rw [List.append_assoc]
  exact not_pair_append before.2.1 (not_pair_append (not_pair_of_not_mem (by decide))
    (Line.not_infix_withoutComment _) (.inl (by decide))) (.inr fun head => by cases head)

theorem Sound.step {number : Nat} {raw : Text} (sound : r.Sound) (unbroken : Unbroken raw)
    (read : r.step number raw = .ok next) : next.Sound := by
  have line := Line.sound_ofText unbroken
  rw [Reader.step] at read
  split at read
  · next p waiting =>
    obtain ⟨whole, plain⟩ := sound.continued unbroken waiting
    dsimp only at read
    split at read
    · next stays =>
      cases read
      exact ⟨sound.table, sound.heading, by rintro _ ⟨⟩; exact ⟨whole, plain, stays⟩⟩
    · exact sound.addRow whole plain read
  · next idle =>
    generalize Line.ofText raw = found at line read
    split at read
    · cases read; exact sound
    · cases read; exact sound
    · cases read; exact sound
    · cases read
    · cases read; exact { sound with heading := line }
    · cases read; exact { sound with table := sound.table.addNote line sound.heading }
    · cases read; exact { sound with table := sound.table.addInclude line.1 line.2 }
    · next name type =>
      cases added : r.table.register name type (some (r.place number)) with
      | error fault =>
        rw [added] at read
        cases read
      | ok t =>
        rw [added] at read
        cases read
        exact { sound with table := sound.table.register line added }
    · split at read
      · next stays =>
        cases read
        exact ⟨sound.table, sound.heading, by rintro _ ⟨⟩; exact ⟨line.1, line.2, stays⟩⟩
      · exact sound.addRow line.1 line.2 read
    · cases read

theorem Sound.run {number : Nat} {rows : List Text} (sound : r.Sound)
    (unbroken : ∀ row ∈ rows, Unbroken row) (read : r.run number rows = .ok next) : next.Sound := by
  induction rows generalizing r number with
  | nil => 
    cases read
    exact sound
  | cons row rows ih =>
    rw [List.forall_mem_cons] at unbroken
    obtain ⟨middle, first, rest⟩ := bind_eq_ok.mp read
    exact ih (sound.step unbroken.1 first) unbroken.2 rest

end Reader

theorem Reader.sound_start (source : Text) : (Reader.start source).Sound :=
  ⟨⟨by simp [Reader.start], by simp [Reader.start], by simp [Reader.start], by simp [Reader.start],
    by simp [Reader.start], by simp [Reader.start]⟩, .nil, by simp [Reader.start]⟩

theorem Table.writable_of_read {source text : Text} {t : Table} (read : Table.read source text = .ok t) :
    t.Writable := by
  obtain ⟨r, run, finish⟩ := bind_eq_ok.mp read
  have sound := (Reader.sound_start source).run (fun row => unbroken_of_mem_lines) run
  rw [Reader.finish] at finish
  split at finish
  · cases finish
  · cases finish
    exact sound.table

end Forwarding
