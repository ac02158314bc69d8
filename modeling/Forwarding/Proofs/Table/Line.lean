import Forwarding.Proofs.Text.Join
import Forwarding.Proofs.Text.Name
import Forwarding.Table.Line
import Forwarding.Table.Writer

/-! Lines of a table: what is read of a line that was written, and what can be read at all.

Rows are left out here; they may go on over several lines.
-/

set_option autoImplicit false

namespace Forwarding

open Text

namespace Text

theorem after?_append (word rest : Text) : after? word (word ++ rest) = some rest := by
  simp [after?, List.isPrefixOf_iff_prefix]

theorem after?_eq_some {word t rest : Text} (found : after? word t = some rest) : t = word ++ rest := by
  rw [after?] at found
  split at found
  · next starts =>
    obtain ⟨behind, rfl⟩ := List.isPrefixOf_iff_prefix.mp starts
    simpa using found
  · cases found

theorem stripStart_of_head {t : Text} (solid : ∀ c, t.head? = some c → isBlank c = false) :
    stripStart t = t := by
  cases t with
  | nil => rfl
  | cons c t => simp [stripStart, solid c rfl]

end Text

namespace Line

section
variable {raw t : Text}

theorem ofText_of_hash (stripped : strip raw = '#' :: t) : ofText raw =
    match header? ('#' :: t) with
    | some header => .includes header
    | none => .ignored ('#' :: t) := by
  rw [ofText, stripped]
  rfl

private theorem ofText_of_slashes (stripped : strip raw = '/' :: '/' :: t) :
    ofText raw = ofComment ('/' :: '/' :: t) := by
  rw [ofText, stripped]
  rfl

private theorem ofText_of_u (stripped : strip raw = 'u' :: t) (plain : ¬ "//".toList <:+: 'u' :: t)
    {name type : Text} (found : alias? ('u' :: t) = some (name, type)) : ofText raw = .defines name type := by
  rw [ofText, stripped]
  simp only [withoutComment_eq_self plain, found]
  rfl

private theorem ofText_of_u_of_none (stripped : strip raw = 'u' :: t) (plain : ¬ "//".toList <:+: 'u' :: t)
    (none : alias? ('u' :: t) = none) : ofText raw = .unrecognized ('u' :: t) := by
  rw [ofText, stripped]
  simp only [withoutComment_eq_self plain, none]
  rfl

private theorem directive?_append (name rest : Text) (apart : rest.head?.any isWordChar = false) :
    directive? name (name ++ rest) = some (strip (match stripStart rest with
      | ':' :: rest => rest
      | rest => rest)) := by
  simp only [directive?, after?_append, Option.bind_eq_bind, Option.bind_some, apart,
    Bool.false_eq_true, if_false]
  rfl

end

/-! What was written is read. -/

theorem inline_includes {header : Text} (inline : Inline header) (marked : isHeader header = true) :
    Inline ("#include " ++ header) := by
  refine .append (.of_all rfl) (fun c first => by cases first; rfl) ?_ inline
  rintro rfl
  cases marked

theorem ofText_includes {header : Text} (inline : Inline header) (marked : isHeader header = true) :
    ofText ("#include " ++ header) = .includes header := by
  have line := (inline_includes inline marked).stripped
  have rest : after? "include" ("include".toList ++ ' ' :: header) = some (' ' :: header) :=
    after?_append _ _
  have found : header? ('#' :: ("include".toList ++ ' ' :: header)) = some header := by
    have start : stripStart (('#' :: ("include".toList ++ ' ' :: header)).drop 1) =
      "include".toList ++ ' ' :: header := rfl
    have behind : afterBlanks? (' ' :: header) = some header :=
      congrArg some (stripStart_of_head fun c => inline.head)
    simp only [header?, start, rest, behind, Option.bind_eq_bind, Option.bind_some, marked, if_true]
  rw [ofText_of_hash (t := "include".toList ++ ' ' :: header) line, found]

theorem inline_heading {heading : Text} (inline : Inline heading) (named : heading ≠ []) :
    Inline ("// @section " ++ heading) := 
  .append (.of_all rfl) (fun c first => by cases first; rfl) named inline

/-- The name that a reader takes from the line of a heading: a colon before it is skipped. -/
def spoken : Text → Text
  | ':' :: rest => strip rest
  | t => t

theorem spoken_of_plain {heading : Text} (plain : heading.head? ≠ some ':') : spoken heading = heading := by
  unfold spoken
  split
  · exact absurd rfl plain
  · rfl

theorem ofText_section {heading : Text} (inline : Inline heading) (named : heading ≠ []) :
    ofText ("// @section " ++ heading) = .heading (spoken heading) := by
  have line := (inline_heading inline named).stripped
  have found : directive? "section" ("section".toList ++ ' ' :: heading) = some (spoken heading) := by
    rw [directive?_append _ _ rfl, show stripStart (' ' :: heading) = heading from
      stripStart_of_head fun c => inline.head]
    unfold spoken
    split
    · rfl
    · rw [inline.stripped]
  rw [ofText_of_slashes (t := " @section ".toList ++ heading) line]
  have start : stripStart (('/' :: '/' :: (" @section ".toList ++ heading)).drop 2) =
    '@' :: ("section".toList ++ ' ' :: heading) := rfl
  simp only [ofComment, start, found]

theorem ofText_heading {heading : Text} (inline : Inline heading) (named : heading ≠ [])
    (plain : heading.head? ≠ some ':') : ofText ("// @section " ++ heading) = .heading heading := by
  rw [ofText_section inline named, spoken_of_plain plain]

/-- What stands behind the name of a note. -/
private def noteEnd (text : Text) : Text := if text.isEmpty then [] else ": " ++ text

private theorem directive?_noteEnd {text : Text} (inline : Inline text) (name : Text) :
    directive? name (name ++ noteEnd text) = some text := by
  rw [noteEnd]
  split
  · next empty =>
    rw [List.isEmpty_iff] at empty
    rw [directive?_append _ _ rfl, empty]
    rfl
  · refine (directive?_append name (':' :: ' ' :: text) rfl).trans ?_
    exact congrArg some ((strip_cons_blank (by decide) text).trans inline.stripped)

theorem inline_note {n : Note} (inline : Inline n.text) : Inline n.write := by
  have word : Unbroken ("// @".toList ++ n.kind.word) := by
    cases n.kind <;> exact .of_all rfl
  rw [Note.write]
  split
  · cases n.kind <;> exact ⟨.of_all rfl, rfl⟩
  · next given =>
    rw [← List.append_assoc]
    refine .append (word.append (.of_all rfl)) (fun c first => ?_) (by simpa using given) inline
    cases n.kind <;> cases first <;> rfl

theorem ofText_note {n : Note} (inline : Inline n.text) : ofText n.write = .note n.kind n.text := by
  have line := (inline_note inline).stripped
  obtain ⟨kind, text, heading, origin⟩ := n
  have found := fun name => directive?_noteEnd inline name
  cases kind with
  | skip =>
    have none : directive? "section" ("skip".toList ++ noteEnd text) = none := rfl
    rw [ofText_of_slashes (t := " @skip".toList ++ noteEnd text) line]
    have start : stripStart (('/' :: '/' :: (" @skip".toList ++ noteEnd text)).drop 2) =
      '@' :: ("skip".toList ++ noteEnd text) := rfl
    simp only [ofComment, start, none, found]
  | todo =>
    have none : directive? "section" ("todo".toList ++ noteEnd text) = none := rfl
    have other : directive? "skip" ("todo".toList ++ noteEnd text) = .none := rfl
    rw [ofText_of_slashes (t := " @todo".toList ++ noteEnd text) line]
    have start : stripStart (('/' :: '/' :: (" @todo".toList ++ noteEnd text)).drop 2) =
      '@' :: ("todo".toList ++ noteEnd text) := rfl
    simp only [ofComment, start, none, other, found]

theorem underlying_concat {t : Text} (given : t ≠ []) (stripped : strip t = t) :
    underlying (t ++ [';']) = t := by
  have whole : stripEnd t = t := dropEnd_eq_self fun c last => getLast?_strip (by rwa [stripped])
  rw [underlying, List.getLast?_concat, if_pos (by decide), List.dropLast_concat, whole]
  simp [given]

/-- What cannot begin an identifier is not read as the name of an alias. -/
theorem alias?_of_not_start {c : Char} (start : isIdentifierStart c = false) (solid : isBlank c = false) (rest : Text) :
    alias? ("using".toList ++ ' ' :: c :: rest) = none := by
  have behind : afterBlanks? (' ' :: c :: rest) = some (c :: rest) :=
    congrArg some (stripStart_of_head fun d head => by cases head; exact solid : stripStart (c :: rest) = _)
  rw [alias?, after?_append]
  simp [behind, start]

theorem alias?_using {name type : Text} (named : isIdentifierCore name = true) (given : type ≠ [])
    (solid : ∀ c, type.head? = some c → isBlank c = false) :
    alias? ("using".toList ++ ' ' :: (name ++ ' ' :: '=' :: ' ' :: type)) = some (name, underlying type) := by
  cases name with
  | nil => cases named
  | cons first name =>
    simp only [isIdentifierCore, Bool.and_eq_true, List.all_eq_true] at named
    have word : ∀ c ∈ name, isWordChar c = true :=
      fun c member => isWordChar_of_isIdentifierRest (named.2 c member)
    have firstSolid : isBlank first = false := by
      cases kind : isBlank first with
      | false => rfl
      | true => simp [isIdentifierStart_of_isBlank kind] at named
    have behind : afterBlanks? (' ' :: first :: (name ++ ' ' :: '=' :: ' ' :: type)) =
        some (first :: (name ++ ' ' :: '=' :: ' ' :: type)) :=
      congrArg some ((stripStart_of_head fun c head => by cases head; exact firstSolid : stripStart
        (first :: (name ++ ' ' :: '=' :: ' ' :: type)) = _))
    -- The blank behind the name ends it.
    have token : (name ++ ' ' :: '=' :: ' ' :: type).takeWhile isWordChar = name := by
      rw [List.takeWhile_append_of_pos word]
      exact List.append_nil name
    have left : (name ++ ' ' :: '=' :: ' ' :: type).dropWhile isWordChar = ' ' :: '=' :: ' ' :: type :=
      List.dropWhile_append_of_pos word
    have sign : stripStart (' ' :: '=' :: ' ' :: type) = '=' :: ' ' :: type := rfl
    have start : stripStart (' ' :: type) = type := stripStart_of_head solid
    rw [alias?, after?_append]
    simp only [Option.bind_eq_bind, Option.bind_some, List.cons_append, behind, named.1, token, left, sign,
      start]
    simp [given]

end Line

theorem Alias.definition_eq (a : Alias) : a.definition =
    "using".toList ++ ' ' :: (a.name ++ ' ' :: '=' :: ' ' :: (a.underlying ++ [';'])) := by
  have word : "using ".toList = "using".toList ++ [' '] := rfl
  have sign : " = ".toList = [' ', '=', ' '] := rfl
  have mark : ";".toList = [';'] := rfl
  have parts : a.definition =
    "using ".toList ++ a.name ++ " = ".toList ++ a.underlying ++ ";".toList := rfl
  rw [parts, word, sign, mark, List.append_assoc, List.append_assoc, List.append_assoc,
    List.append_assoc]
  rfl

namespace Line

/-- What is true of a line that has been read, by what it says. -/
def Sound : Line → Prop
  | .heading name => Inline name
  | .note _ text => Inline text
  | .includes header => Inline header ∧ isHeader header = true
  | .defines name type => (∀ c ∈ name, isWordChar c = true) ∧ (∃ c ∈ type, isBlank c = false) ∧
      ¬ "//".toList <:+: type
  | .row _ text => Unbroken text ∧ ¬ "//".toList <:+: text
  | _ => True

variable {t : Text}

theorem stripStart_suffix (t : Text) : stripStart t <:+ t := List.dropWhile_suffix _

private theorem after?_suffix {word rest : Text} (found : after? word t = some rest) : rest <:+ t :=
  ⟨word, (after?_eq_some found).symm⟩

private theorem inline_of_directive? {name text : Text} (unbroken : Unbroken t)
    (found : directive? name t = some text) : Inline text := by
  simp only [directive?, Option.bind_eq_bind, Option.bind_eq_some_iff] at found
  obtain ⟨rest, named, found⟩ := found
  split at found
  · cases found
  have behind := (stripStart_suffix rest).trans (after?_suffix named)
  cases found
  refine .of_strip (unbroken.of_infix (List.IsSuffix.isInfix ?_))
  split
  · next more same =>
    rw [same] at behind
    exact (List.suffix_cons ':' more).trans behind
  · exact behind

private theorem sound_ofComment (unbroken : Unbroken t) : (ofComment t).Sound := by
  have behind := (stripStart_suffix (t.drop 2)).trans (List.drop_suffix 2 t)
  rw [ofComment]
  split
  · next rest same =>
    rw [same] at behind
    have rest := unbroken.of_infix ((List.suffix_cons '@' rest).trans behind).isInfix
    split
    · next found => exact inline_of_directive? rest found
    · next found => exact inline_of_directive? rest found
    · next found => exact inline_of_directive? rest found
    · trivial
  · trivial

private theorem head?_stripStart {c : Char} (first : (stripStart t).head? = some c) : isBlank c = false := by
  have solid := List.head?_dropWhile_not isBlank t
  rw [show t.dropWhile isBlank = stripStart t from rfl, first] at solid
  simpa using solid

private theorem afterBlanks?_eq_some {rest : Text} (found : afterBlanks? t = some rest) :
    rest = stripStart t := by
  rw [afterBlanks?] at found
  split at found
  · exact (Option.some.inj found).symm
  · cases found

private theorem sound_of_header? {header : Text} (inline : Inline t) (found : header? t = some header) :
    Inline header ∧ isHeader header = true := by
  simp only [header?, Option.bind_eq_bind, Option.bind_eq_some_iff] at found
  obtain ⟨rest, named, more, blank, found⟩ := found
  split at found
  · next marked =>
    cases found
    cases afterBlanks?_eq_some blank
    have behind : stripStart rest <:+ t := (stripStart_suffix rest).trans
      ((after?_suffix named).trans ((stripStart_suffix _).trans (List.drop_suffix 1 t)))
    refine ⟨⟨inline.unbroken.of_infix behind.isInfix, strip_eq_self (fun c => head?_stripStart) ?_⟩, marked⟩
    intro c last
    obtain ⟨front, parts⟩ := behind
    refine inline.last (c := c) ?_
    rw [← parts, List.getLast?_append, last]
    rfl
  · cases found

/-- The type of an alias starts where the text behind the sign does. -/
private theorem underlying_isPrefix (t : Text) : underlying t <+: t := by
  rw [underlying]
  split
  · dsimp only
    split
    · exact List.prefix_rfl
    · exact (stripEnd_isPrefix _).trans (List.dropLast_prefix t)
  · exact List.prefix_rfl

private theorem underlying_ne_nil (given : t ≠ []) : underlying t ≠ [] := by
  rw [underlying]
  split
  · dsimp only
    split
    · exact given
    · next core => simpa using core
  · exact given

private theorem sound_of_alias? {name type : Text} (plain : ¬ "//".toList <:+: t)
    (found : alias? t = some (name, type)) : (defines name type).Sound := by
  simp only [alias?, Option.bind_eq_bind, Option.bind_eq_some_iff] at found
  obtain ⟨rest, named, more, blank, found⟩ := found
  have start := afterBlanks?_eq_some blank
  split at found
  · cases found
  next c tail =>
  split at found
  · cases found
  next first =>
  split at found
  case h_2 => cases found
  next behind sign =>
  split at found
  · cases found
  next given =>
  cases found
  have word : isWordChar c = true :=
    isWordChar_of_isIdentifierRest (isIdentifierRest_of_isIdentifierStart (by simpa using first))
  -- The type is a part of the line behind the sign, with something in it that is not blank.
  refine ⟨List.forall_mem_cons.mpr ⟨word, List.all_eq_true.mp List.all_takeWhile⟩, ?_, fun slashes => plain ?_⟩
  · obtain ⟨more, parts⟩ := underlying_isPrefix (stripStart behind)
    cases type : underlying (stripStart behind) with
    | nil => exact absurd type (underlying_ne_nil (by simpa using given))
    | cons d type' =>
      refine ⟨d, List.mem_cons_self, head?_stripStart (t := behind) ?_⟩
      rw [← parts, type]
      rfl
  · have inside : '=' :: behind <:+ t := by
      rw [← sign]
      refine (stripStart_suffix _).trans ((List.dropWhile_suffix _).trans ((List.suffix_cons c tail).trans ?_))
      rw [start]
      exact (stripStart_suffix rest).trans (after?_suffix named)
    exact (slashes.trans (underlying_isPrefix _).isInfix).trans
      ((stripStart_suffix _).trans ((List.suffix_cons '=' behind).trans inside)).isInfix

theorem sound_ofText {raw : Text} (unbroken : Unbroken raw) : (ofText raw).Sound := by
  have inline := Inline.of_strip unbroken
  have core := inline.unbroken.of_infix (withoutComment_isPrefix (strip raw)).isInfix
  have plain := not_infix_withoutComment (strip raw)
  rw [ofText]
  split
  · trivial
  split
  · exact sound_ofComment inline.unbroken
  split
  · split
    · next found => exact sound_of_header? inline found
    · trivial
  dsimp only
  split
  · next found => exact sound_of_alias? plain found
  split
  · exact ⟨core, plain⟩
  split
  · exact ⟨core, plain⟩
  · trivial

end Line

/-- An alias whose definition is a line without a comment. -/
structure Alias.Definable (a : Alias) : Prop where
  name : Name a.name
  given : a.underlying ≠ []
  squeezed : squeeze a.underlying = a.underlying
  plain : ¬ "//".toList <:+: a.underlying

namespace Alias.Definable

variable {a : Alias} (definable : a.Definable)
include definable

theorem inline : Inline a.definition := by
  have name : Unbroken a.name := .of_solid definable.name.solid
  have type := unbroken_of_squeezed definable.squeezed
  have word : Unbroken "using".toList := .of_all rfl
  have front : Unbroken ("using".toList ++ ' ' :: (a.name ++ ' ' :: '=' :: ' ' :: a.underlying)) :=
    word.append (.cons rfl (name.append (.cons rfl (.cons rfl (.cons rfl type)))))
  have line : Inline (("using".toList ++ ' ' :: (a.name ++ ' ' :: '=' :: ' ' :: a.underlying)) ++ [';']) := by
    refine .append front (fun c first => ?_) (by decide) ⟨.cons rfl .nil, rfl⟩
    cases first
    rfl
  rw [a.definition_eq]
  simpa only [List.append_assoc, List.cons_append] using line

theorem no_comment : ¬ ['/', '/'] <:+: a.definition := by
  have name : '/' ∉ a.name := fun member => by
    have rest := definable.name.rest _ member
    revert rest
    decide
  have type : ¬ ['/', '/'] <:+: a.underlying ++ [';'] :=
    not_pair_append definable.plain (not_pair_of_not_mem (by decide)) (.inr (by decide))
  have front : ¬ ['/', '/'] <:+: "using".toList ++ ' ' :: (a.name ++ [' ', '=', ' ']) := by
    apply not_pair_of_not_mem
    simp only [List.mem_append, List.mem_cons, not_or]
    exact ⟨by decide, by decide, name, by decide⟩
  have parts : a.definition =
      ("using".toList ++ ' ' :: (a.name ++ [' ', '=', ' '])) ++ (a.underlying ++ [';']) := by
    rw [a.definition_eq, List.append_assoc, List.cons_append, List.append_assoc]
    rfl
  rw [parts]
  -- In front of the type there is a blank, so that no slash joins another one there.
  refine not_pair_append front type (.inl fun last => ?_)
  rw [List.getLast?_append, List.getLast?_cons, List.getLast?_append] at last
  cases last

theorem ofText_definition_of_digit (digit : isIdentifierCore a.name = false) :
    Line.ofText a.definition = .unrecognized a.definition := by
  obtain ⟨c, name, shape⟩ := List.exists_cons_of_ne_nil definable.name.given
  have start : isIdentifierStart c = false := by
    rw [shape, isIdentifierCore, List.all_eq_true.mpr fun d member =>
      definable.name.rest d (shape ▸ List.mem_cons_of_mem c member), Bool.and_true] at digit
    exact digit
  have solid : isBlank c = false := definable.name.solid c (shape ▸ List.mem_cons_self ..)
  have line := definable.inline.stripped
  have plain := definable.no_comment
  rw [a.definition_eq, shape] at plain line ⊢
  exact Line.ofText_of_u_of_none (t := "sing".toList ++ ' ' :: (c :: name ++ ' ' :: '=' :: ' ' :: (a.underlying ++ [';'])))
    line plain (Line.alias?_of_not_start start solid _)

end Alias.Definable

/-- An alias that can be written on a line and read again. -/
structure Alias.Writable (a : Alias) : Prop extends a.Definable where
  named : isIdentifierCore a.name = true

namespace Alias.Writable

variable {a : Alias} (writable : a.Writable)
include writable

theorem ofText_definition : Line.ofText a.definition = .defines a.name a.underlying := by
  have stripped : strip a.underlying = a.underlying := by
    rw [← writable.squeezed]
    exact strip_squeeze _
  have solid : ∀ c, (a.underlying ++ [';']).head? = some c → isBlank c = false := fun c first => by
    cases parts : a.underlying with
    | nil => exact absurd parts writable.given
    | cons d rest =>
      rw [parts] at first stripped
      cases first
      exact head?_strip (by rw [stripped]; rfl)
  have found := Line.alias?_using writable.named (List.append_ne_nil_of_right_ne_nil _ (by decide)) solid
  rw [Line.underlying_concat writable.given stripped] at found
  have line := writable.inline.stripped
  have plain := writable.no_comment
  rw [a.definition_eq] at plain line ⊢
  exact Line.ofText_of_u
    (t := "sing".toList ++ ' ' :: (a.name ++ ' ' :: '=' :: ' ' :: (a.underlying ++ [';']))) line plain found

end Alias.Writable

end Forwarding
