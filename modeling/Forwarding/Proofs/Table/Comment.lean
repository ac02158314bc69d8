import Forwarding.Proofs.Table.Roundtrip

/-! Comments behind the text of a line.

What follows `//` is taken off before a line is told by its words, and off every line of an open row. Only a
preprocessor line is read with its comment, so that an include is not the same with one: `read_commented_iff` says
that no other line notices.
-/

set_option autoImplicit false

namespace Forwarding

open Text Checks

theorem Text.stripStart_append {t : Text} (given : stripStart t ≠ []) (more : Text) :
    stripStart (t ++ more) = stripStart t ++ more := by
  unfold stripStart at given ⊢
  rw [List.dropWhile_append, if_neg (by simpa using given)]

namespace Line

def commented (raw comment : Text) : Text := raw ++ " // " ++ comment

/-- What a line says by its words, once its comment is taken off. -/
def ofStatement (t : Text) : Line :=
  match alias? t with
  | some (name, type) => .defines name type
  | none =>
    if opensRow .overload t then .row .overload t
    else if opensRow .plain t then .row .plain t
    else .unrecognized t

def included : Line → Option Text
  | .includes header => some header
  | _ => none

theorem included_eq_some_iff {l : Line} {header : Text} : l.included = some header ↔ l = .includes header := by
  cases l <;> simp [included]

variable {raw comment t : Text}

theorem withoutComment_commented (raw comment : Text) :
    withoutComment (strip (commented raw comment)) = withoutComment (strip raw) := by
  have parts : commented raw comment = raw ++ ([' '] ++ ("//".toList ++ (' ' :: comment))) := by
    simp [commented]
  rw [parts]
  exact withoutComment_append (by decide) (.inl (by decide)) _

theorem head?_withoutComment (given : withoutComment t ≠ []) : (withoutComment t).head? = t.head? := by
  obtain ⟨more, same⟩ := withoutComment_isPrefix t
  cases found : withoutComment t with
  | nil => exact absurd found given
  | cons c rest =>
    rw [found] at same
    rw [← same]
    rfl

/-- Where something is left without the comment, the comment plays no part unless the line starts with `#`. -/
theorem ofText_eq_ofStatement (given : withoutComment (strip raw) ≠ [])
    (plain : (withoutComment (strip raw)).head? ≠ some '#') :
    ofText raw = ofStatement (withoutComment (strip raw)) := by
  have hash : (strip raw).head? ≠ some '#' := by
    rwa [← head?_withoutComment given]
  rw [ne_eq, withoutComment_eq_nil_iff, not_or] at given
  unfold ofText
  exact (if_neg (by simpa using given.1)).trans
    ((if_neg (by simpa [List.isPrefixOf_iff_prefix] using given.2)).trans (if_neg (by simpa using hash)))

theorem included_ofStatement (t : Text) : (ofStatement t).included = none := by
  unfold ofStatement
  split
  · rfl
  · split
    · rfl
    · split <;> rfl

theorem ofText_hash (starts : (strip raw).head? = some '#') :
    ((ofText raw).included = header? (strip raw)) ∧
      ((ofText raw).included = none → ofText raw = .ignored (strip raw)) := by
  cases stripped : strip raw with
  | nil =>
    rw [stripped] at starts
    cases starts
  | cons c t =>
    rw [stripped] at starts
    cases starts
    rw [ofText_of_hash stripped]
    cases header? ('#' :: t) with
    | none => exact ⟨rfl, fun _ => rfl⟩
    | some header => exact ⟨rfl, fun none => nomatch none⟩

/-- What stands behind an include becomes part of its header, which must still be closed at its end. -/
theorem header?_append {header : Text} (found : header? t = some header) (more : Text) :
    header? (t ++ more) = if isHeader (header ++ more) then some (header ++ more) else none := by
  simp only [header?, Option.bind_eq_bind, Option.bind_eq_some_iff] at found
  obtain ⟨rest, named, after, blank, found⟩ := found
  split at found
  case isFalse => cases found
  next marked =>
  cases found
  have word := after?_eq_some named
  have given : t ≠ [] := by
    rintro rfl
    cases word
  have behind : (t ++ more).drop 1 = t.drop 1 ++ more := by
    cases t with
    | nil => exact absurd rfl given
    | cons c t => rfl
  have start : stripStart ((t ++ more).drop 1) = "include".toList ++ (rest ++ more) := by
    rw [behind, stripStart_append (by rw [word]; exact List.cons_ne_nil _ _), word, List.append_assoc]
  -- The header is what is left behind the blanks; with more behind the line, more behind the header is left.
  unfold afterBlanks? at blank
  split at blank
  case isFalse => cases blank
  next starts =>
  cases blank
  have kept : stripStart rest ≠ [] := by
    intro none
    rw [none] at marked
    cases marked
  have starts' : (rest ++ more).head?.any isBlank = true := by
    cases rest with
    | nil => cases starts
    | cons c rest => exact starts
  unfold header?
  rw [start, after?_append]
  simp only [Option.bind_eq_bind, Option.bind_some, afterBlanks?, starts', if_true, stripStart_append kept]

section
variable (given : withoutComment (strip raw) ≠ [])
include given

theorem head?_strip_commented (comment : Text) : (strip (commented raw comment)).head? = (strip raw).head? := by
  have same := withoutComment_commented raw comment
  rw [← head?_withoutComment given, ← head?_withoutComment (by rwa [same]), same]

theorem ofText_commented (plain : (strip raw).head? ≠ some '#') (comment : Text) :
    ofText (commented raw comment) = ofText raw := by
  have same := withoutComment_commented raw comment
  rw [← head?_withoutComment given] at plain
  rw [ofText_eq_ofStatement given plain, ofText_eq_ofStatement (by rwa [same]) (by rwa [same]), same]

theorem head?_of_included {header : Text} (found : (ofText raw).included = some header) :
    (strip raw).head? = some '#' := by
  by_cases hash : (strip raw).head? = some '#'
  · exact hash
  · rw [← head?_withoutComment given] at hash
    rw [ofText_eq_ofStatement given hash, included_ofStatement] at found
    cases found

theorem included_commented_ne {header : Text} (found : (ofText raw).included = some header) (comment : Text) :
    (ofText (commented raw comment)).included ≠ some header := by
  have starts := head?_of_included given found
  have solid : strip raw ≠ [] := by
    intro none
    rw [none] at starts
    cases starts
  have marks : strip (" // ".toList ++ comment) ≠ [] := by
    intro none
    have slash : '/' ∈ strip (" // ".toList ++ comment) := mem_strip (by simp) rfl
    rw [none] at slash
    cases slash
  obtain ⟨more, some, parts⟩ := exists_strip_append solid marks
  have whole : strip (commented raw comment) = strip raw ++ more := by
    rw [← parts, commented, List.append_assoc]
  have starts' := starts
  rw [← head?_strip_commented given comment] at starts'
  rw [(ofText_hash starts).1] at found
  rw [(ofText_hash starts').1, whole, header?_append found]
  split
  · intro same
    exact some (List.append_right_eq_self.mp (Option.some.inj same))
  · exact fun same => nomatch same

end

end Line

theorem Text.Unbroken.commented {raw comment : Text} (line : Unbroken raw) (behind : Unbroken comment) :
    Unbroken (Line.commented raw comment) := (line.append (.of_all rfl)).append behind

theorem Text.IsLine.commented {before raw after comment : Text} (here : IsLine before raw after)
    (behind : Unbroken comment) : IsLine before (Line.commented raw comment) after where
  unbroken := here.unbroken.commented behind
  given := by
    rw [Line.commented, List.append_assoc]
    exact List.append_ne_nil_of_left_ne_nil here.given _
  begins := here.begins
  ends := here.ends

namespace Reader

variable {r : Reader} {raw comment : Text} {number : Nat}

/-- A line says the same with a comment behind it, if it is read in an open row or no include is involved. -/
theorem step_commented (given : Line.withoutComment (strip raw) ≠ [])
    (quiet : r.pending = none →
      (Line.ofText raw).included = none ∧ (Line.ofText (Line.commented raw comment)).included = none) :
    r.step number (Line.commented raw comment) = r.step number raw := by
  cases waiting : r.pending with
  | some p =>
    unfold step
    simp only [waiting, Line.withoutComment_commented]
  | none =>
    obtain ⟨first, second⟩ := quiet waiting
    by_cases hash : (strip raw).head? = some '#'
    · have hash' : (strip (Line.commented raw comment)).head? = some '#' := by
        rwa [Line.head?_strip_commented given]
      unfold step
      simp only [waiting, (Line.ofText_hash hash).2 first, (Line.ofText_hash hash').2 second]
    · unfold step
      simp only [waiting, Line.ofText_commented given hash]

end Reader

namespace Table

variable {source before raw other after comment : Text}

theorem read_of_isLine (here : IsLine before raw after) : read source (before ++ raw ++ after) = (do
    let r ← (Reader.start source).run 1 (lines before)
    let next ← r.step (1 + (lines before).length) raw
    (← next.run (1 + (lines before).length + 1) (lines after).tail).finish) := by
  unfold read
  rw [here.lines_eq, Reader.run_append]
  cases (Reader.start source).run 1 (lines before) with
  | error fault => rfl
  | ok r =>
    simp only [ok_bind, Reader.run]
    cases r.step (1 + (lines before).length) raw <;> rfl

/-- A line can be replaced by one that does the same wherever the lines before it lead. -/
theorem read_congr (here : IsLine before raw after) (there : IsLine before other after)
    (same : ∀ r, (Reader.start source).run 1 (lines before) = .ok r → ∀ number, r.step number other = r.step number raw) :
    read source (before ++ other ++ after) = read source (before ++ raw ++ after) := by
  rw [read_of_isLine here, read_of_isLine there]
  cases reached : (Reader.start source).run 1 (lines before) with
  | error fault => rfl
  | ok r => simp only [ok_bind, same r reached]

/-- A preprocessor line by itself is an include or an empty table. -/
theorem read_hash (unbroken : Unbroken raw) (starts : (strip raw).head? = some '#') (source : Text) :
    read source raw = .ok { sources := [source], includes := (Line.ofText raw).included.toList } := by
  have given : raw ≠ [] := by
    rintro rfl
    cases starts
  unfold read
  rw [lines_of_unbroken unbroken given]
  cases kind : (Line.ofText raw).included with
  | none =>
    have line := (Line.ofText_hash starts).2 kind
    simp only [Reader.run, Reader.step, Reader.start, line]
    rfl
  | some header =>
    have line := Line.included_eq_some_iff.mp kind
    simp only [Reader.run, Reader.step, Reader.start, line]
    rfl

/-- The line alone tells: with and without the comment, the table has to have the same includes. -/
theorem included_eq_none_of_read (line : Unbroken raw) (behind : Unbroken comment)
    (told : Line.withoutComment (strip raw) ≠ []) (same : read source (Line.commented raw comment) = read source raw) :
    (Line.ofText raw).included = none ∧ (Line.ofText (Line.commented raw comment)).included = none := by
  by_cases hash : (strip raw).head? = some '#'
  · have hash' : (strip (Line.commented raw comment)).head? = some '#' := by
      rwa [Line.head?_strip_commented told]
    rw [read_hash line hash, read_hash (line.commented behind) hash'] at same
    -- Both lines alone make tables that differ in their includes at most.
    have equal : (Line.ofText (Line.commented raw comment)).included = (Line.ofText raw).included := by
      injection same with tables
      injection tables with _ _ includes
      simpa using congrArg List.head? includes
    cases found : (Line.ofText raw).included with
    | none => exact ⟨rfl, by rw [equal, found]⟩
    | some header => exact absurd (equal.trans found) (Line.included_commented_ne told found comment)
  · have none : (Line.ofText raw).included = none := by
      cases found : (Line.ofText raw).included with
      | none => rfl
      | some header => exact absurd (Line.head?_of_included told found) hash
    exact ⟨none, by rw [Line.ofText_commented told hash, none]⟩

/-- A comment behind a line that is neither blank nor a comment itself changes nothing where a row is open. Elsewhere
it changes nothing just when the line is no include, with the comment or without: so it may stand behind an alias, a
row and a line that is refused, but an include with one is lost, or includes something else. -/
theorem read_commented_iff (line : Unbroken raw) (behind : Unbroken comment) (given : strip raw ≠ [])
    (plain : ¬ "//".toList <+: strip raw) :
    (∀ source before after, IsLine before raw after →
      (∀ r, (Reader.start source).run 1 (lines before) = .ok r → r.pending ≠ none) →
        read source (before ++ Line.commented raw comment ++ after) = read source (before ++ raw ++ after)) ∧
    ((∀ source before after, IsLine before raw after →
        read source (before ++ Line.commented raw comment ++ after) = read source (before ++ raw ++ after)) ↔
      (Line.ofText raw).included = none ∧ (Line.ofText (Line.commented raw comment)).included = none) := by
  have told : Line.withoutComment (strip raw) ≠ [] := by
    rw [ne_eq, Line.withoutComment_eq_nil_iff, not_or]
    exact ⟨given, plain⟩
  refine ⟨?_, ?_, ?_⟩
  · intro source before after here busy
    refine read_congr here (here.commented behind) fun r reached number => ?_
    exact Reader.step_commented told fun idle => absurd idle (busy r reached)
  · intro same
    have nonempty : raw ≠ [] := by
      rintro rfl
      exact given rfl
    -- One text is enough: the one that consists of this line.
    have alone := same [] [] [] ⟨line, nonempty, by simp, by simp⟩
    rw [List.append_nil, List.append_nil] at alone
    exact included_eq_none_of_read line behind told alone
  · intro quiet source before after here
    exact read_congr here (here.commented behind) fun r _ number => Reader.step_commented told fun _ => quiet

/-- A comment behind the line of a row, wherever the line stands: it may look like a line of its own. -/
theorem read_commented_iff_row : Unbroken "PROXY(A, int, f);" ∧ Unbroken "#include <a>" ∧
    ∀ source before after, IsLine before "PROXY(A, int, f);" after →
      read source (before ++ "PROXY(A, int, f); // #include <a>" ++ after) =
        read source (before ++ "PROXY(A, int, f);" ++ after) :=
  ⟨by decide, by decide, ((@read_commented_iff "PROXY(A, int, f);" "#include <a>" (by decide) (by decide) (by decide)
    (by decide)).2.mpr ⟨by decide, by decide⟩)⟩

/-- An include is lost with a comment behind it. -/
theorem read_include_commented :
    read "t" "#include <actors.hpp>" = .ok { includes := ["<actors.hpp>"], sources := ["t"] } ∧
      read "t" (Line.commented "#include <actors.hpp>" "the actors") = .ok { sources := ["t"] } :=
  ⟨rfl, rfl⟩

end Table

end Forwarding
