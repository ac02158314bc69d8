import Forwarding.Proofs.Table.Comment

/-! Rows over several lines.

A row may be broken behind its opening parenthesis, next to its commas and before its closing parenthesis; its
lines may be indented, and white space and a comment may stand behind each. A reader joins the lines until the
parentheses are closed: what it has joined, up to the line that is being written, are the parts of the row with
blanks around them (`Reads`). So it makes no difference how a row is laid out (`RowLayout.run_lines`).
-/

set_option autoImplicit false

namespace Forwarding

open Text Spelling Checks

namespace RowLayout

/-- White space within a line. -/
structure Space where
  text : Text
  blank : ∀ c ∈ text, isBlank c = true
  unbroken : Unbroken text

/-- What stands at the end of a line, or is all of it: white space, and perhaps a comment behind it. -/
structure Trail where
  space : Space
  comment : Option Text
  unbroken : ∀ c ∈ comment, Unbroken c

def Trail.text (trail : Trail) : Text :=
  trail.space.text ++ match trail.comment with
    | none => []
    | some comment => "//" ++ comment

/-- A comment does not touch a slash before it, as that would be the first one of its own. -/
def Trail.Apart (trail : Trail) (t : Text) : Prop :=
  trail.comment = none ∨ trail.space.text ≠ [] ∨ t.getLast? ≠ some '/'

/-- What may stand between two parts of a row: white space, or the end of a line, with blank lines and lines of
comments behind it, and the indentation of the next one. -/
inductive Gap where
  | within (space : Space)
  | broken (trail : Trail) (between : List Trail) (indent : Space)

def Gap.Apart (t : Text) : Gap → Prop
  | .within _ => True
  | .broken trail _ _ => trail.Apart t

/-- An argument that can be written in a row: on one line and stripped, without a comment, with its brackets nested
and its commas inside them. -/
structure Legal (a : Text) : Prop where
  inline : Inline a
  plain : ¬ "//".toList <:+: a
  nested : Nested a
  single : ¬ HasOuterComma a

instance (a : Text) : Decidable (Legal a) :=
  decidable_of_iff (Inline a ∧ occurs "//".toList a = false ∧ closesAll [] a = true ∧ isComposite a = false) <| by
    rw [closesAll_iff, ← Bool.not_eq_true, ← Bool.not_eq_true, occurs_iff, isComposite_iff]
    exact ⟨fun ⟨inline, plain, nested, single⟩ => ⟨inline, plain, nested, single⟩,
      fun legal => ⟨legal.inline, legal.plain, legal.nested, legal.single⟩⟩

/-- An argument with the gaps around it. -/
structure Piece where
  before : Gap
  argument : Text
  behind : Gap
  legal : Legal argument
  apart : behind.Apart argument

/-- The lines that are finished, and the one that is being written. -/
structure Page where
  done : List Text
  line : Text

def Page.put (page : Page) (t : Text) : Page := { page with line := page.line ++ t }

def Gap.write (page : Page) : Gap → Page
  | .within space => page.put space.text
  | .broken trail between indent =>
    { done := page.done ++ (page.line ++ trail.text) :: between.map Trail.text, line := indent.text }

def Piece.write (page : Page) (p : Piece) : Page := p.behind.write ((p.before.write page).put p.argument)

end RowLayout

open RowLayout in
/-- A row as it may be written: the word and the opening parenthesis on one line, the closing parenthesis and the
semicolon on one line, and gaps around the arguments. -/
structure RowLayout (form : RowForm) where
  indent : Space
  opening : Space
  first : Piece
  rest : List Piece
  closing : Space
  trail : Trail

namespace RowLayout

variable {form : RowForm}

def arguments (layout : RowLayout form) : List Text := layout.first.argument :: layout.rest.map Piece.argument

def opened (layout : RowLayout form) : Page where
  done := []
  line := layout.indent.text ++ form.word ++ layout.opening.text ++ "("

def filled (layout : RowLayout form) : Page :=
  layout.rest.foldl (fun page p => p.write (page.put ",")) (layout.first.write layout.opened)

def page (layout : RowLayout form) : Page := ((layout.filled.put ")").put layout.closing.text).put ";"

def lines (layout : RowLayout form) : List Text := layout.page.done ++ [layout.page.line ++ layout.trail.text]

end RowLayout

/-! ### Lines without what stands at their end -/

namespace RowLayout

variable {t : Text} {trail : Trail}

/-- What stands at the end of a line is not read. -/
theorem withoutComment_trail (plain : ¬ "//".toList <:+: t) (apart : trail.Apart t) :
    Line.withoutComment (strip (t ++ trail.text)) = strip t := by
  have alone : Line.withoutComment (strip t) = strip t :=
    Line.withoutComment_eq_self fun inside => plain (inside.trans (strip_isInfix t))
  unfold Trail.text
  cases comment : trail.comment with
  | none =>
    have pad := strip_pad [] t trail.space.text (by simp) trail.space.blank
    rw [List.nil_append] at pad
    rw [List.append_nil, pad, alone]
  | some c =>
    have touch : trail.space.text ≠ [] ∨ t.getLast? ≠ some '/' :=
      apart.resolve_left (by rw [comment]; exact Option.some_ne_none c)
    have cut := Line.withoutComment_append trail.space.blank touch c
    rw [alone] at cut
    exact cut

theorem withoutComment_trail_alone (trail : Trail) : Line.withoutComment (strip trail.text) = [] := by
  have nothing := @withoutComment_trail [] trail (by decide) (.inr (.inr (by decide)))
  rwa [List.nil_append] at nothing

theorem Trail.unbroken_text (trail : Trail) : Unbroken trail.text := by
  unfold Trail.text
  split
  · exact trail.space.unbroken.append .nil
  · next comment found => exact trail.space.unbroken.append ((Unbroken.of_all rfl).append (trail.unbroken comment found))

theorem Space.not_mem (space : Space) {c : Char} (solid : isBlank c = false) : c ∉ space.text := fun member => by
  rw [space.blank c member] at solid
  cases solid

theorem Space.getLast?_ne (space : Space) {c : Char} (solid : isBlank c = false) : space.text.getLast? ≠ some c :=
  fun last => space.not_mem solid (List.mem_of_getLast? last)

end RowLayout

/-! ### Parts of a row -/

namespace Spelling

variable {parts : List Text} {t : Text}

theorem paired_of_padded (padded : Padded parts t) (paired : ∀ part ∈ parts, Paired '(' ')' part) :
    Paired '(' ')' t := by
  have solid : ∀ {blanks : Text}, Blank blanks → Paired '(' ')' blanks := fun {blanks} blank =>
    .plain (fun member => absurd (blank _ member) (by decide)) fun member => absurd (blank _ member) (by decide)
  induction padded with
  | nil blank => exact solid blank
  | cons blank _ ih =>
    rw [List.forall_mem_cons] at paired
    exact (solid blank).append (paired.1.append (ih paired.2))

/-- Arguments with commas between them, as parts. -/
def commas (first : Text) (rest : List Text) : List Text := first :: rest.flatMap fun a => [[','], a]

theorem mem_commas {first part : Text} {rest : List Text} (member : part ∈ commas first rest) :
    part ∈ first :: rest ∨ part = [','] := by
  simp only [commas, List.mem_cons, List.mem_flatMap, List.not_mem_nil, or_false] at member ⊢
  rcases member with rfl | ⟨a, inside, rfl | rfl⟩
  · exact .inl (.inl rfl)
  · exact .inr rfl
  · exact .inl (.inr inside)

/-- Arguments are read back from their parts. -/
theorem arguments_of_padded {first : Text} {rest : List Text}
    (each : ∀ a ∈ first :: rest, RowLayout.Legal a)
    (padded : Padded (commas first rest) t) : arguments t = first :: rest := by
  induction rest generalizing first t with
  | nil =>
    obtain ⟨left, right, rfl, before, last⟩ := padded.exists_cons
    cases last with
    | nil behind =>
      have legal := each first List.mem_cons_self
      rw [arguments_of_single fun composite => legal.single (hasOuterComma_of_pad before behind composite),
        strip_pad left first right before behind, legal.inline.stripped]
  | cons second rest ih =>
    rw [List.forall_mem_cons] at each
    obtain ⟨left, behind, rfl, before, more⟩ := padded.exists_cons
    obtain ⟨right, last, rfl, blank, inner⟩ := more.exists_cons
    have legal := each.1
    have closed : openAfter (left ++ (first ++ right)) = [] := by
      have blanks : ∀ {b : Text}, Blank b → ∀ brackets, b.foldl nest brackets = brackets := fun {b} blank =>
        (Nested.of_plain fun c member => isBracket_of_isBlank (blank c member)).foldl_nest
      rw [openAfter, List.foldl_append, List.foldl_append, blanks before, legal.nested.foldl_nest, blanks blank]
    have parts : left ++ (first ++ (right ++ ([','] ++ last))) = (left ++ (first ++ right)) ++ ',' :: last := by
      simp
    rw [parts, arguments_append_comma closed, ih each.2 inner,
      arguments_of_single fun composite => legal.single (hasOuterComma_of_pad before blank composite),
      strip_pad left first right before blank, legal.inline.stripped, List.singleton_append]

end Spelling

namespace Declaration

variable {form : RowForm} {first : Text} {rest : List Text} {t : Text}

/-- What a complete row declares is told by its parts. -/
theorem ofText_of_padded (each : ∀ a ∈ first :: rest, RowLayout.Legal a)
    (padded : Padded (form.word :: ['('] :: (commas first rest ++ [[')'], [';']])) t) :
    ofText form t = ofArguments form (first :: rest) := by
  obtain ⟨indent, _, rfl, start, more⟩ := padded.exists_cons
  obtain ⟨gap, _, rfl, blank, more⟩ := more.exists_cons
  obtain ⟨inside, _, rfl, inner, more⟩ := more.exists_append
  obtain ⟨behind, _, rfl, blank', more⟩ := more.exists_cons
  obtain ⟨between, last, rfl, blank'', ending⟩ := more.exists_cons
  cases ending with
  | nil ending =>
    have front : ∀ c ∈ indent ++ (form.word ++ gap), (c != '(') = true := by
      have word : ∀ c ∈ form.word, (c != '(') = true := by cases form <;> decide
      have solid : ∀ {blanks : Text}, Blank blanks → ∀ c ∈ blanks, (c != '(') = true := fun {blanks} blank c member =>
        bne_iff_ne.mpr (ne_of_isBlank (blank c member) rfl)
      exact List.forall_mem_append.mpr ⟨solid start, List.forall_mem_append.mpr ⟨word, solid blank⟩⟩
    have opens : afterParenthesis (indent ++ (form.word ++ (gap ++ (['('] ++
        (inside ++ (behind ++ ([')'] ++ (between ++ ([';'] ++ last))))))))) =
        (inside ++ behind) ++ ')' :: (between ++ ([';'] ++ last)) := by
      have whole : indent ++ (form.word ++ (gap ++ (['('] ++
          (inside ++ (behind ++ ([')'] ++ (between ++ ([';'] ++ last)))))))) =
          (indent ++ (form.word ++ gap)) ++ '(' :: ((inside ++ behind) ++ ')' :: (between ++ ([';'] ++ last))) := by
        simp
      rw [whole, afterParenthesis, List.dropWhile_append_of_pos front]
      rfl
    have paired : Paired '(' ')' (inside ++ behind) := by
      refine paired_of_padded (inner.append_blank blank') fun part member => ?_
      rcases mem_commas member with argument | rfl
      · exact (each part argument).nested.paired
      · exact .plain (by decide) (by decide)
    have closes : enclosed 1 ((inside ++ behind) ++ ')' :: (between ++ ([';'] ++ last))) =
        some (inside ++ behind, between ++ ([';'] ++ last)) :=
      enclosed_iff.mpr ⟨rfl, paired.bound, paired.equal⟩
    have mark : strip (between ++ ([';'] ++ last)) = [';'] := strip_pad between [';'] last blank'' ending
    rw [ofText, opens, closes]
    simp only [mark, arguments_of_padded each (inner.append_blank blank')]
    rfl

end Declaration

/-! ### Reading line by line -/

open RowLayout

namespace Line

variable {form : RowForm}

/-- A row is told by its word and the opening parenthesis. -/
theorem ofStatement_row {gap : Text} (blank : Blank gap) (rest : Text) :
    ofStatement (form.word ++ (gap ++ ('(' :: rest))) = .row form (form.word ++ (gap ++ ('(' :: rest))) := by
  have opens : opensRow form (form.word ++ (gap ++ ('(' :: rest))) = true := by
    have start : stripStart (gap ++ ('(' :: rest)) = '(' :: rest := List.dropWhile_append_of_pos blank
    simp [opensRow, after?_append, start]
  cases form with
  | overload =>
    have none : alias? (RowForm.overload.word ++ (gap ++ ('(' :: rest))) = none := rfl
    unfold ofStatement
    rw [none, opens]
    rfl
  | plain =>
    have none : alias? (RowForm.plain.word ++ (gap ++ ('(' :: rest))) = none := rfl
    -- What follows the word is a blank or the parenthesis, and not the rest of the longer word.
    have shorter : opensRow .overload (RowForm.plain.word ++ (gap ++ ('(' :: rest))) = false := by
      cases gap with
      | nil => rfl
      | cons c gap =>
        have other : ('_' == c) = false := beq_false_of_ne (ne_of_isBlank (blank c List.mem_cons_self) rfl).symm
        have further : RowForm.overload.word.isPrefixOf (RowForm.plain.word ++ (c :: gap ++ ('(' :: rest))) =
            ('_' == c && "OVERLOAD".toList.isPrefixOf (gap ++ ('(' :: rest))) := rfl
        have absent : after? RowForm.overload.word (RowForm.plain.word ++ (c :: gap ++ ('(' :: rest))) = Option.none := by
          rw [after?, further, other]
          rfl
        unfold opensRow
        rw [absent]
    unfold ofStatement
    rw [none, shorter, opens]
    rfl

variable {parts : List Text} {line : Text} {trail : Trail}

theorem ofText_trail (padded : Padded (form.word :: ['('] :: parts) line)
    (stripped : ∀ part ∈ form.word :: ['('] :: parts, strip part = part) (plain : ¬ "//".toList <:+: line)
    (apart : trail.Apart line) : ofText (line ++ trail.text) = .row form (strip line) := by
  have told := withoutComment_trail plain apart
  obtain ⟨indent, _, cut, before, more⟩ := (padded.strip stripped).exists_cons
  obtain ⟨gap, rest, rfl, blank, -⟩ := more.exists_cons
  have flush : indent = [] := by
    cases indent with
    | nil => rfl
    | cons c indent =>
      have solid := head?_strip (t := line) (c := c) (by rw [cut]; rfl)
      rw [before c List.mem_cons_self] at solid
      cases solid
  rw [flush, List.nil_append] at cut
  have first : (strip line).head? = some 'P' := by
    rw [cut]
    cases form <;> rfl
  have given : withoutComment (strip (line ++ trail.text)) ≠ [] := by
    rw [told]
    intro none
    rw [none] at first
    cases first
  rw [ofText_eq_ofStatement given (by rw [told, first]; decide), told, cut]
  exact ofStatement_row blank rest

end Line

namespace Reader

variable {r : Reader} {form : RowForm} {number : Nat} {parts : List Text} {s t raw : Text}

def within (r : Reader) (form : RowForm) (number : Nat) (t : Text) : Reader :=
  { r with pending := some ⟨form, t, number⟩ }

theorem addRow_within (r : Reader) (form : RowForm) (number : Nat) (s t : Text) :
    (r.within form number s).addRow form t number = r.addRow form t number := by
  unfold addRow
  cases Declaration.ofText form t <;> rfl

theorem step_within (r : Reader) (form : RowForm) (number place : Nat) (s raw : Text) :
    (r.within form number s).step place raw =
      if isOpen (s ++ " " ++ Line.withoutComment (strip raw)) then
        .ok (r.within form number (s ++ " " ++ Line.withoutComment (strip raw)))
      else r.addRow form (s ++ " " ++ Line.withoutComment (strip raw)) number := by
  rw [← addRow_within r form number s]
  rfl

theorem step_row (idle : r.pending = none) (row : Line.ofText raw = .row form t) : r.step number raw =
    if isOpen t then .ok (r.within form number t) else r.addRow form t number := by
  unfold step
  simp only [idle, row]
  rfl

/-- The parentheses of a text are those of its parts. -/
theorem isOpen_of_padded (padded : Padded parts t) :
    isOpen t = decide (parts.flatten.count ')' < parts.flatten.count '(') := by
  unfold isOpen
  rw [padded.count rfl, padded.count rfl]

theorem blank_space : Blank " ".toList := by
  unfold Blank
  decide

/-- Blank lines and lines of comments go by inside a row. -/
theorem exists_run_between (between : List Trail) (place : Nat) (padded : Padded parts s)
    (opened : parts.flatten.count ')' < parts.flatten.count '(') :
    ∃ t, Padded parts t ∧ (r.within form number s).run place (between.map Trail.text) = .ok (r.within form number t) := by
  induction between generalizing s place with
  | nil => exact ⟨s, padded, rfl⟩
  | cons trail between ih =>
    have longer : Padded parts (s ++ " ".toList ++ []) := by
      rw [List.append_nil]
      exact padded.append_blank blank_space
    obtain ⟨t, rest, run⟩ := ih (place + 1) longer
    refine ⟨t, rest, ?_⟩
    have stays : isOpen (s ++ " ".toList ++ []) = true := by
      rw [isOpen_of_padded longer, decide_eq_true opened]
    rw [List.map_cons, Reader.run, step_within, withoutComment_trail_alone, stays]
    exact run

end Reader

/-! ### Writing and reading a row -/

/-- The beginning of a row whose first parenthesis is still open, in parts. -/
structure Begun (form : RowForm) (parts : List Text) : Prop where
  starts : ∃ more, parts = form.word :: ['('] :: more
  stripped : ∀ part ∈ parts, strip part = part
  opened : parts.flatten.count '(' = parts.flatten.count ')' + 1

theorem Begun.word (form : RowForm) : Begun form [form.word, ['(']] where
  starts := ⟨[], rfl⟩
  stripped := by cases form <;> decide
  opened := by cases form <;> rfl

theorem Begun.concat {form : RowForm} {parts : List Text} (begun : Begun form parts) (part : Text)
    (stripped : strip part = part) (nested : Nested part) : Begun form (parts ++ [part]) where
  starts := by
    obtain ⟨more, rfl⟩ := begun.starts
    exact ⟨more ++ [part], rfl⟩
  stripped := List.forall_mem_append.mpr ⟨begun.stripped, by simpa using stripped⟩
  opened := by
    have opened := begun.opened
    have equal := nested.paired.equal
    simp only [List.flatten_append, List.flatten_cons, List.flatten_nil, List.append_nil, List.count_append]
    omega

/-- What a reader makes of a page: the lines that are done have been joined to the first parts, and the line that
is being written has the others. -/
inductive Reads (r : Reader) (form : RowForm) (number : Nat) : List Text → Page → Prop where
  | first {parts : List Text} {line : Text} : Padded parts line → ¬ "//".toList <:+: line →
      Reads r form number parts ⟨[], line⟩
  | later {parts more done : List Text} {t line : Text} : Padded parts t →
      r.run number done = .ok (r.within form number t) → Padded more line → ¬ "//".toList <:+: line →
      Reads r form number (parts ++ more) ⟨done, line⟩

namespace Reads

variable {r : Reader} {form : RowForm} {number : Nat} {parts : List Text} {page : Page}

theorem put_blank {blanks : Text} (reads : Reads r form number parts page) (blank : Blank blanks) :
    Reads r form number parts (page.put blanks) := by
  have slash : '/' ∉ blanks := fun member => absurd (blank '/' member) (by decide)
  have plain : ∀ {line : Text}, ¬ "//".toList <:+: line → ¬ "//".toList <:+: line ++ blanks := fun {line} plain =>
    not_pair_append plain (not_pair_of_not_mem slash) (.inr fun first => slash (List.mem_of_head? first))
  cases reads with
  | first padded slashes => exact .first (padded.append_blank blank) (plain slashes)
  | later done run padded slashes => exact .later done run (padded.append_blank blank) (plain slashes)

theorem put (reads : Reads r form number parts page) (part : Text) (plain : ¬ "//".toList <:+: part)
    (apart : page.line.getLast? ≠ some '/' ∨ part.head? ≠ some '/') :
    Reads r form number (parts ++ [part]) (page.put part) := by
  cases reads with
  | first padded slashes => exact .first (padded.append (.single part)) (not_pair_append slashes plain apart)
  | @later early late done t line joined run padded slashes =>
    rw [List.append_assoc]
    exact .later joined run (padded.append (.single part)) (not_pair_append slashes plain apart)

/-- The line that is being written ends, and the row goes on. -/
theorem turn {trail : Trail} (reads : Reads r form number parts page) (begun : Begun form parts)
    (idle : r.pending = none) (apart : trail.Apart page.line) (between : List Trail) (indent : Space) :
    Reads r form number parts ((Gap.broken trail between indent).write page) := by
  have opened : parts.flatten.count ')' < parts.flatten.count '(' := by
    rw [begun.opened]
    exact Nat.lt_succ_self _
  have margin : Padded [] indent.text := .nil indent.blank
  have clean : ¬ "//".toList <:+: indent.text := not_pair_of_not_mem (indent.not_mem rfl)
  cases reads with
  | @first parts line padded slashes =>
    obtain ⟨more, rfl⟩ := begun.starts
    have joined := padded.strip begun.stripped
    have row := Line.ofText_trail padded begun.stripped slashes apart
    have step : r.step number (line ++ trail.text) = .ok (r.within form number (strip line)) := by
      rw [Reader.step_row idle row, Reader.isOpen_of_padded joined, decide_eq_true opened]
      rfl
    obtain ⟨t, whole, run⟩ := Reader.exists_run_between between (number + 1) joined opened
    have lines : r.run number ((line ++ trail.text) :: between.map Trail.text) = .ok (r.within form number t) := by
      rw [Reader.run, step]
      exact run
    have later := Reads.later whole lines margin clean
    rwa [List.append_nil] at later
  | @later early late done s line joined read padded slashes =>
    have stripped := (List.forall_mem_append.mp begun.stripped).2
    have longer : Padded (early ++ late) (s ++ " ".toList ++ strip line) :=
      (joined.append_blank Reader.blank_space).append (padded.strip stripped)
    have step : (r.within form number s).step (number + done.length) (line ++ trail.text) =
        .ok (r.within form number (s ++ " ".toList ++ strip line)) := by
      rw [Reader.step_within, withoutComment_trail slashes apart, Reader.isOpen_of_padded longer,
        decide_eq_true opened]
      rfl
    obtain ⟨t, whole, run⟩ := Reader.exists_run_between between (number + done.length + 1) longer opened
    have lines : r.run number (done ++ (line ++ trail.text) :: between.map Trail.text) =
        .ok (r.within form number t) := by
      rw [Reader.run_append_of_ok read, Reader.run, step]
      exact run
    have later := Reads.later whole lines margin clean
    rwa [List.append_nil] at later

theorem gap {g : Gap} (reads : Reads r form number parts page) (begun : Begun form parts) (idle : r.pending = none)
    (apart : g.Apart page.line) : Reads r form number parts (g.write page) := by
  cases g with
  | within space => exact reads.put_blank space.blank
  | broken trail between indent => exact reads.turn begun idle apart between indent

end Reads

namespace RowLayout

variable {page : Page}

theorem Gap.apart_of_getLast?_ne {t : Text} (last : t.getLast? ≠ some '/') (g : Gap) : g.Apart t := by
  cases g with
  | within space => trivial
  | broken trail between indent => exact .inr (.inr last)

theorem Gap.getLast?_write (last : page.line.getLast? ≠ some '/') (g : Gap) :
    (g.write page).line.getLast? ≠ some '/' := by
  cases g with
  | broken trail between indent => exact indent.getLast?_ne rfl
  | within space =>
    intro found
    change (page.line ++ space.text).getLast? = some '/' at found
    rw [List.getLast?_append] at found
    cases ends : space.text.getLast? with
    | none =>
      rw [ends, Option.none_or] at found
      exact last found
    | some d =>
      rw [ends, Option.some_or] at found
      exact space.getLast?_ne rfl (ends.trans found)

/-- The gap behind an argument does not make a slash of the argument one of a comment. -/
theorem Piece.apart_put (last : page.line.getLast? ≠ some '/') (p : Piece) :
    p.behind.Apart (page.put p.argument).line := by
  have apart := p.apart
  cases behind : p.behind with
  | within space => trivial
  | broken trail between indent =>
    rw [behind] at apart
    refine apart.imp id (Or.imp id fun other => ?_)
    change (page.line ++ p.argument).getLast? ≠ some '/'
    rw [List.getLast?_append]
    cases ends : p.argument.getLast? with
    | none =>
      rw [Option.none_or]
      exact last
    | some d =>
      rw [Option.some_or, ← ends]
      exact other

end RowLayout

namespace Reads

variable {r : Reader} {form : RowForm} {number : Nat} {parts : List Text} {page : Page}

theorem piece (reads : Reads r form number parts page) (begun : Begun form parts) (idle : r.pending = none)
    (last : page.line.getLast? ≠ some '/') (p : Piece) :
    Reads r form number (parts ++ [p.argument]) (p.write page) := by
  have last' := p.before.getLast?_write last
  have before := reads.gap begun idle (p.before.apart_of_getLast?_ne last)
  have argument := before.put p.argument p.legal.plain (.inl last')
  exact argument.gap (begun.concat p.argument p.legal.inline.stripped p.legal.nested) idle (p.apart_put last')

theorem pieces (reads : Reads r form number parts page) (begun : Begun form parts) (idle : r.pending = none)
    (rest : List Piece) :
    Reads r form number (parts ++ (rest.map Piece.argument).flatMap fun a => [[','], a])
        (rest.foldl (fun page p => p.write (page.put ",")) page) ∧
      Begun form (parts ++ (rest.map Piece.argument).flatMap fun a => [[','], a]) := by
  induction rest generalizing parts page with
  | nil =>
    rw [List.map_nil, List.flatMap_nil, List.append_nil]
    exact ⟨reads, begun⟩
  | cons p rest ih =>
    have comma := reads.put "," (by decide) (.inr (by decide))
    have begun' := begun.concat "," (by decide) (.of_plain (by decide))
    have last : (page.put ",".toList).line.getLast? ≠ some '/' := by
      change (page.line ++ [',']).getLast? ≠ some '/'
      rw [List.getLast?_concat]
      decide
    have next := ih (comma.piece begun' idle last p) (begun'.concat p.argument p.legal.inline.stripped p.legal.nested)
    simpa using next

/-- The last line of a row makes it complete. -/
theorem finish {trail : Trail} (reads : Reads r form number parts page) (idle : r.pending = none)
    (starts : ∃ more, parts = form.word :: ['('] :: more) (stripped : ∀ part ∈ parts, strip part = part)
    (closed : parts.flatten.count '(' = parts.flatten.count ')') (apart : trail.Apart page.line) :
    ∃ t, Padded parts t ∧ r.run number (page.done ++ [page.line ++ trail.text]) = r.addRow form t number := by
  have shut : decide (parts.flatten.count ')' < parts.flatten.count '(') = false := by
    rw [closed]
    exact decide_eq_false (Nat.lt_irrefl _)
  cases reads with
  | @first parts line padded slashes =>
    obtain ⟨more, rfl⟩ := starts
    have joined := padded.strip stripped
    have row := Line.ofText_trail padded stripped slashes apart
    refine ⟨strip line, joined, ?_⟩
    rw [List.nil_append, Reader.run_single, Reader.step_row idle row, Reader.isOpen_of_padded joined, shut]
    rfl
  | @later early late done s line joined read padded slashes =>
    have whole := (joined.append_blank Reader.blank_space).append (padded.strip (List.forall_mem_append.mp stripped).2)
    refine ⟨_, whole, ?_⟩
    rw [Reader.run_append_of_ok read, Reader.run_single, Reader.step_within, withoutComment_trail slashes apart]
    have shut' := Reader.isOpen_of_padded whole
    rw [shut] at shut'
    rw [show Reader.isOpen _ = false from shut']
    rfl

end Reads

/-! ### The text of a row -/

namespace RowLayout

/-- No line ends inside another one. -/
structure Page.Cut (page : Page) : Prop where
  done : ∀ line ∈ page.done, Unbroken line
  line : Unbroken page.line

namespace Page.Cut

variable {page : Page} (cut : page.Cut)
include cut

theorem put {t : Text} (unbroken : Unbroken t) : (page.put t).Cut := ⟨cut.done, cut.line.append unbroken⟩

theorem gap (g : Gap) : (g.write page).Cut := by
  cases g with
  | within space => exact cut.put space.unbroken
  | broken trail between indent =>
    refine ⟨List.forall_mem_append.mpr ⟨cut.done, List.forall_mem_cons.mpr ⟨?_, ?_⟩⟩, indent.unbroken⟩
    · exact cut.line.append trail.unbroken_text
    · exact List.forall_mem_map.mpr fun trail _ => trail.unbroken_text

theorem piece (p : Piece) : (p.write page).Cut := ((cut.gap p.before).put p.legal.inline.unbroken).gap p.behind

theorem pieces (rest : List Piece) : (rest.foldl (fun page p => p.write (page.put ",")) page).Cut := by
  induction rest generalizing page with
  | nil => exact cut
  | cons p rest ih => exact ih ((cut.put (.of_all rfl)).piece p)

end Page.Cut

theorem lines_ofLines {form : RowForm} (layout : RowLayout form) : Text.lines (ofLines layout.lines) = layout.lines := by
  have word : Unbroken form.word := by cases form <;> exact .of_all rfl
  have opened : layout.opened.Cut :=
    ⟨by simp [opened], ((layout.indent.unbroken.append word).append layout.opening.unbroken).append (.of_all rfl)⟩
  have filled : layout.filled.Cut := (opened.piece layout.first).pieces layout.rest
  have cut : layout.page.Cut := ((filled.put (.of_all rfl)).put layout.closing.unbroken).put (.of_all rfl)
  refine Text.lines_ofLines (List.forall_mem_append.mpr ⟨cut.done, ?_⟩)
  rintro line member
  rw [List.mem_singleton.mp member]
  exact cut.line.append layout.trail.unbroken_text

end RowLayout

/-! ### Reading a row -/

namespace RowLayout

variable {form : RowForm} (layout : RowLayout form)

theorem legal : ∀ a ∈ layout.arguments, Legal a := by
  intro a member
  rcases List.mem_cons.mp member with rfl | later
  · exact layout.first.legal
  · obtain ⟨p, -, rfl⟩ := List.mem_map.mp later
    exact p.legal

/-- The parts up to the last argument, which leave the first parenthesis open. -/
def openParts : List Text :=
  form.word :: ['('] :: commas layout.first.argument (layout.rest.map Piece.argument)

def parts : List Text := layout.openParts ++ [[')'], [';']]

variable {r : Reader}

theorem reads_opened (r : Reader) (number : Nat) : Reads r form number [form.word, ['(']] layout.opened := by
  have word : ¬ "//".toList <:+: form.word := by cases form <;> exact not_pair_of_not_mem (by decide)
  have start : form.word.head? ≠ some '/' := by cases form <;> decide
  have indent : Reads r form number [] ⟨[], layout.indent.text⟩ :=
    .first (.nil layout.indent.blank) (not_pair_of_not_mem (layout.indent.not_mem rfl))
  exact ((indent.put form.word word (.inr start)).put_blank layout.opening.blank).put "(" (by decide)
    (.inr (by decide))

theorem reads_filled (idle : r.pending = none) (number : Nat) :
    Reads r form number layout.openParts layout.filled ∧ Begun form layout.openParts := by
  have last : layout.opened.line.getLast? ≠ some '/' := by
    change (layout.indent.text ++ form.word ++ layout.opening.text ++ ['(']).getLast? ≠ some '/'
    rw [List.getLast?_concat]
    decide
  have legal := layout.first.legal
  have first := (layout.reads_opened r number).piece (.word form) idle last layout.first
  exact first.pieces ((Begun.word form).concat layout.first.argument legal.inline.stripped legal.nested) idle
    layout.rest

theorem reads_page (idle : r.pending = none) (number : Nat) : Reads r form number layout.parts layout.page := by
  have closed := ((layout.reads_filled idle number).1.put ")" (by decide) (.inr (by decide))).put_blank
    layout.closing.blank
  have whole := closed.put ";" (by decide) (.inr (by decide))
  rw [List.append_assoc] at whole
  exact whole

theorem getLast?_page : layout.page.line.getLast? = some ';' := by
  unfold page Page.put
  exact List.getLast?_concat

/-- Reading the lines of a row comes to completing it, and the parts of what has been joined are those of the row. -/
theorem exists_run_lines (idle : r.pending = none) (number : Nat) :
    ∃ t, Padded layout.parts t ∧ r.run number layout.lines = r.addRow form t number := by
  have begun := (layout.reads_filled idle number).2
  have stripped : ∀ part ∈ layout.parts, strip part = part := by
    unfold parts
    exact List.forall_mem_append.mpr ⟨begun.stripped, by decide⟩
  -- The last parts close the one parenthesis that the others leave open.
  have balanced : layout.parts.flatten.count '(' = layout.parts.flatten.count ')' := by
    rw [parts, List.flatten_append, List.count_append, List.count_append]
    exact begun.opened
  refine (layout.reads_page idle number).finish idle ⟨_, rfl⟩ stripped balanced (.inr (.inr ?_))
  rw [layout.getLast?_page]
  decide

theorem ofText_line : Declaration.ofText form (form.line layout.arguments) =
    Declaration.ofArguments form layout.arguments := by
  have nested : ∀ a ∈ layout.arguments, Nested a := fun a member => (layout.legal a member).nested
  have given : layout.arguments ≠ [] := List.cons_ne_nil _ _
  rw [Declaration.ofText_line (Nested.paired_join nested),
    arguments_join given fun a member => (nested a (List.dropLast_subset _ member)).openAfter,
    flatMap_arguments fun a member => ⟨(layout.legal a member).inline.stripped, (layout.legal a member).single⟩]

theorem step_line (idle : r.pending = none) (number : Nat) :
    r.step number (form.line layout.arguments) = r.addRow form (form.line layout.arguments) number :=
  Reader.step_line idle (Line.not_infix_line form fun a member => (layout.legal a member).plain)
    (Nested.paired_join fun a member => (layout.legal a member).nested) number

/-- A row is read in the same way however it is laid out: as its line is read where the row begins, which depends on
the arguments only, and with the place of the line where it begins. -/
theorem run_lines :
    (∀ (r : Reader) number, r.pending = none →
      r.run number layout.lines = r.step number (form.line layout.arguments)) ∧
    (∀ (r : Reader) number, r.pending = none →
      (∀ d, Declaration.ofArguments form layout.arguments = .ok d → r.run number layout.lines = .ok { r with
        table := r.table.declare { d with heading := r.heading, origin := some (r.place number) } }) ∧
      ∀ cause, Declaration.ofArguments form layout.arguments = .error cause →
        r.run number layout.lines = .error (r.fault cause number)) ∧
    (∀ source text, Text.lines text = layout.lines →
      Table.read source text = Table.read source (form.line layout.arguments)) := by
  have added : ∀ (r : Reader) number, r.pending = none →
      r.run number layout.lines = r.addRow form (form.line layout.arguments) number := by
    intro r number idle
    obtain ⟨t, padded, run⟩ := layout.exists_run_lines idle number
    have same : Declaration.ofText form t = Declaration.ofText form (form.line layout.arguments) := by
      rw [layout.ofText_line]
      exact Declaration.ofText_of_padded layout.legal padded
    rw [run, Reader.addRow, Reader.addRow, same]
  refine ⟨?_, ?_, ?_⟩
  · intro r number idle
    rw [added r number idle, layout.step_line idle number]
  · intro r number idle
    rw [added r number idle, Reader.addRow, layout.ofText_line]
    constructor
    · intro d made
      rw [made, ← idle]
    · intro cause made
      rw [made]
  · intro source text cut
    have unbroken := Line.unbroken_line form fun a member => (layout.legal a member).inline.unbroken
    have given : form.line layout.arguments ≠ [] := by cases form <;> exact List.cons_ne_nil _ _
    have idle : (Reader.start source).pending = none := rfl
    rw [Table.read, Table.read, cut, lines_of_unbroken unbroken given, Reader.run_single, added _ 1 idle,
      layout.step_line idle 1]

def Space.none : Space := ⟨[], by decide, by decide⟩

def Space.one : Space := ⟨" ", by decide, by decide⟩

/-- A row over five lines, with an empty line and a comment that opens a parenthesis between them. -/
def spread : RowLayout .plain where
  indent := .one
  opening := .one
  first :=
    { before := .broken ⟨.none, some " the class", by decide⟩
        [⟨.none, Option.none, by decide⟩, ⟨.one, some " (its result", by decide⟩] .one
      argument := "A"
      behind := .broken ⟨.one, some "", by decide⟩ [] .none
      legal := by decide
      apart := .inr (.inl (by decide)) }
  rest := [
    { before := .within .one, argument := "void", behind := .within .none, legal := by decide, apart := trivial },
    { before := .broken ⟨.none, Option.none, by decide⟩ [] .one, argument := "f", behind := .within .none
      legal := by decide, apart := trivial },
    { before := .within .one, argument := "std::function<void(int, int)>"
      behind := .broken ⟨.one, Option.none, by decide⟩ [] .none, legal := by decide, apart := .inl rfl }]
  closing := .one
  trail := ⟨.one, some " done", by decide⟩

/-- The text of that row, with different line breaks. -/
def spreadText : Text :=
  " PROXY (// the class\n\n // (its result\r\n A //\n, void,\r f, std::function<void(int, int)> \n) ; // done\n"

theorem run_lines_spread : Text.lines spreadText = spread.lines ∧
    Table.read "t" spreadText = Table.read "t" "PROXY(A, void, f, std::function<void(int, int)>);" ∧
    (Reader.start "t").pending = none ∧
    (Reader.start "t").run 7 spread.lines =
      (Reader.start "t").step 7 "PROXY(A, void, f, std::function<void(int, int)>);" ∧
    (Reader.start "t").run 7 spread.lines = .ok { Reader.start "t" with
      table := { sources := ["t"], rows := [{ subject := "A", result := "void", method := "f"
                                              parameters := ["std::function<void(int, int)>"], origin := some "t:7" }] } } := by
  obtain ⟨step, result, text⟩ := spread.run_lines
  refine ⟨by decide +kernel, text "t" spreadText (by decide +kernel), rfl, step _ 7 rfl, ?_⟩
  exact (result (Reader.start "t") 7 rfl).1 { subject := "A", result := "void", method := "f"
                                              parameters := ["std::function<void(int, int)>"] } rfl

end RowLayout

end Forwarding
