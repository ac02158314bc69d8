import Forwarding.Text.Basic

/-! Cutting a text into lines, and the uniform line end that written files have.

`lines` ends a line at any line break and does not start another one after the last break, so it
never leaves a break inside a line; `pieces` knows line feeds only, and takes back what `ofLines` does, up to
an empty piece at the end. `unixNewlines` turns the carriage returns of a text into line
feeds and touches nothing else. Both read from the end, and a carriage return adds nothing where a
line feed follows it.
-/

set_option autoImplicit false

namespace Forwarding.Text

def consLine (c : Char) : List Text → List Text
  | [] => [[c]]
  | line :: more => (c :: line) :: more

/-- Reads one more character before a text; the flag says whether that text starts with a line
feed. -/
def linesStep (c : Char) : Bool × List Text → Bool × List Text
  | (feed, found) =>
    (c == '\n',
      if c == '\r' && feed then found
      else if isLineBreak c then [] :: found
      else consLine c found)

def lines (t : Text) : List Text := (t.foldr linesStep (false, [])).2

def ofLines (lines : List Text) : Text := lines.flatMap (· ++ ['\n'])

/-- The pieces between line feeds; behind the last one there may be an empty piece. -/
def pieces (t : Text) : List Text :=
  t.foldr (fun c found => if c == '\n' then [] :: found else consLine c found) [[]]

def unixStep (c : Char) : Bool × Text → Bool × Text
  | (feed, done) =>
    (c == '\n', if c == '\r' then (if feed then done else '\n' :: done) else c :: done)

/-- Every carriage return, with the line feed after it if there is one, as one line feed. -/
def unixNewlines (t : Text) : Text := (t.foldr unixStep (false, [])).2

theorem unixStep_fst (t : Text) :
    (t.foldr unixStep (false, [])).1 = (t.head? == some '\n') := by
  cases t <;> simp [unixStep]

@[simp] theorem unixNewlines_nil : unixNewlines [] = [] := rfl

theorem unixNewlines_cons (c : Char) (t : Text) :
    unixNewlines (c :: t) =
      if c = '\r' then (if t.head? = some '\n' then unixNewlines t else '\n' :: unixNewlines t)
      else c :: unixNewlines t := by
  have first := unixStep_fst t
  simp only [unixNewlines, List.foldr_cons, unixStep, first, beq_iff_eq]

theorem not_mem_unixNewlines (t : Text) : '\r' ∉ unixNewlines t := by
  induction t with
  | nil => simp
  | cons c t ih =>
    rw [unixNewlines_cons]
    split
    · split <;> simp [ih]
    · next h => simp [ih, Ne.symm h]

theorem unixNewlines_of_not_mem {t : Text} (h : '\r' ∉ t) : unixNewlines t = t := by
  induction t with
  | nil => rfl
  | cons c t ih =>
    simp only [List.mem_cons, not_or] at h
    rw [unixNewlines_cons, if_neg (Ne.symm h.1), ih h.2]

/-- A text whose line ends are uniform already stays as it is. -/
theorem unixNewlines_unixNewlines (t : Text) : unixNewlines (unixNewlines t) = unixNewlines t :=
  unixNewlines_of_not_mem (not_mem_unixNewlines t)

end Forwarding.Text
