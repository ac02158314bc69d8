/-! Texts as lists of characters, and first their white space and line breaks.

`isBlank` is the `White_Space` property together with the four information separators
U+001C to U+001F; zero-width characters are not blank. A line break is always blank.
-/

set_option autoImplicit false

namespace Forwarding.Text

def isBlank (c : Char) : Bool :=
  let n := c.toNat
  (9 ≤ n && n ≤ 13) || (28 ≤ n && n ≤ 32) || n == 0x85 || n == 0xA0 || n == 0x1680 ||
    (0x2000 ≤ n && n ≤ 0x200A) || n == 0x2028 || n == 0x2029 || n == 0x202F || n == 0x205F ||
    n == 0x3000

/-- A character that ends a line; a carriage return before a line feed ends it only once. -/
def isLineBreak (c : Char) : Bool :=
  let n := c.toNat
  (10 ≤ n && n ≤ 13) || (28 ≤ n && n ≤ 30) || n == 0x85 || n == 0x2028 || n == 0x2029

theorem isBlank_of_isWhitespace {c : Char} (h : c.isWhitespace = true) : isBlank c = true := by
  simp only [Char.isWhitespace, Bool.or_eq_true, decide_eq_true_eq] at h
  rcases h with ((rfl | rfl) | rfl) | rfl <;> decide

theorem isBlank_of_isLineBreak {c : Char} (h : isLineBreak c = true) : isBlank c = true := by
  simp only [isLineBreak, isBlank, Bool.or_eq_true, Bool.and_eq_true, decide_eq_true_eq,
    beq_iff_eq] at h ⊢
  omega

end Forwarding.Text

/-! ### Texts

The operations that every other module uses.

`runs` cuts a text into the maximal stretches of characters of a class; words and identifiers are
both stretches. `strip` removes blanks at the two ends, `squeeze` also makes every inner stretch of
blanks a single space.
-/

namespace Forwarding

/-- A text is its list of characters, so that every function on it is a recursion on data. -/
abbrev Text := List Char

instance : Coe String Text := ⟨String.toList⟩

namespace Text

def dropEnd (p : Char → Bool) (t : Text) : Text := (t.reverse.dropWhile p).reverse

def stripStart (t : Text) : Text := t.dropWhile isBlank

def stripEnd (t : Text) : Text := dropEnd isBlank t

def strip (t : Text) : Text := stripEnd (stripStart t)

/-- What continues the stretch being read, if any, and the stretches after it. A stretch starts with
a character in `first` and goes on while characters are in `rest`. -/
def runsFrom (first rest : Char → Bool) : Bool → Text → Text × List Text
  | _, [] => ([], [])
  | inside, c :: t =>
    if inside && rest c then
      let (run, more) := runsFrom first rest true t
      (c :: run, more)
    else if first c then
      let (run, more) := runsFrom first rest true t
      ([], (c :: run) :: more)
    else ([], (runsFrom first rest false t).2)

/-- The stretches that start in `first` and go on in `rest`, from left to right. -/
def runs (first rest : Char → Bool) (t : Text) : List Text := (runsFrom first rest false t).2

def words (t : Text) : List Text := runs (fun c => !isBlank c) (fun c => !isBlank c) t

def join (separator : Text) (pieces : List Text) : Text := separator.intercalate pieces

def squeeze (t : Text) : Text := join [' '] (words t)

def occurs (part : Text) : Text → Bool
  | [] => part.isEmpty
  | c :: t => part.isPrefixOf (c :: t) || occurs part t

def after? (word t : Text) : Option Text :=
  if word.isPrefixOf t then some (t.drop word.length) else none

def before (mark : Text) : Text → Text
  | [] => []
  | c :: t => if mark.isPrefixOf (c :: t) then [] else c :: before mark t

/-- Replacement from the left; the counter says how many characters of an occurrence are left. -/
def replaceFrom (old new : Text) : Nat → Text → Text
  | _, [] => []
  | n + 1, _ :: t => replaceFrom old new n t
  | 0, c :: t =>
    if old.isPrefixOf (c :: t) then new ++ replaceFrom old new (old.length - 1) t
    else c :: replaceFrom old new 0 t

/-- Every occurrence of `old`, found from the left and without overlap, replaced by `new`. The empty
text occurs before each character and at the end. -/
def replace (old new t : Text) : Text :=
  if old.isEmpty then t.flatMap (fun c => new ++ [c]) ++ new else replaceFrom old new 0 t

/-- The text inside the parenthesis that has been opened `depth` times, and the text after it. -/
def enclosed : Nat → Text → Option (Text × Text)
  | _, [] => none
  | depth, c :: t =>
    if c == ')' && depth == 1 then some ([], t)
    else
      let depth := if c == '(' then depth + 1 else if c == ')' then depth - 1 else depth
      (enclosed depth t).map fun (inside, rest) => (c :: inside, rest)

def decimal (n : Nat) : Text := Nat.toDigits 10 n

def le : Text → Text → Bool
  | [], _ => true
  | _ :: _, [] => false
  | a :: s, b :: t => a.toNat < b.toNat || (a == b && le s t)

end Text

end Forwarding
