import Forwarding.Text.Alphanumeric
import Forwarding.Text.Basic
import Forwarding.Text.Letter.Table

/-! Case and classes of characters of Unicode text.

A letter can become several letters in another case. A capital sigma becomes the form for the end of a
word where a cased letter stands before it and none behind it, characters that do not end a word left
out.
-/

set_option autoImplicit false

namespace Forwarding.Text

namespace Letter

def isInRow (code first last step : Nat) : Bool :=
  first ≤ code && code ≤ last && (code - first) % step == 0

def isIn (rows : List (List (Nat × Nat × Nat))) (c : Char) : Bool :=
  rows.any fun block => block.any fun (first, last, step) => isInRow c.toNat first last step

/-- How far the letter is that stands for another one, if it is in a table. -/
def moved? (rows : List (List (Nat × Nat × Nat × Int))) (c : Char) : Option Char :=
  rows.findSome? fun block => block.findSome? fun (first, last, step, distance) =>
    if isInRow c.toNat first last step then
      some (Char.ofNat ((c.toNat : Int) + distance).toNat)
    else none

def several? (rows : List (List (Nat × List Nat))) (c : Char) : Option Text :=
  rows.findSome? fun block => (block.lookup c.toNat).map fun codes => codes.map Char.ofNat

def isAscii (c : Char) : Bool := c.toNat < 128

def isUpper (c : Char) : Bool := if isAscii c then c.isUpper else isIn upperRows c

def isLower (c : Char) : Bool := if isAscii c then c.isLower else isIn lowerRows c

def isHead (c : Char) : Bool := !isAscii c && isIn headRows c

def isCased (c : Char) : Bool := isUpper c || isLower c || isHead c

def isNumeral (c : Char) : Bool :=
  if isAscii c then c.isDigit else isIn numeralRows c || isIn numeralLetterRows c

def isDigit (c : Char) : Bool := isDecimalDigit c || (!isAscii c && isIn digitRows c)

def isAlphanumeric (c : Char) : Bool := isWordChar c && c != '_'

def isAlphabetic (c : Char) : Bool :=
  if isAscii c then c.isAlpha else isAlphanumeric c && !isIn numeralRows c

def upper (c : Char) : Text :=
  if isAscii c then [c.toUpper]
  else (several? raisedToSeveral c).getD [(moved? raised c).getD c]

def lower (c : Char) : Text :=
  if isAscii c then [c.toLower]
  else if c.toNat == 0x130 then ['i', Char.ofNat 0x307]
  else [(moved? lowered c).getD c]

def head (c : Char) : Text :=
  if isAscii c then [c.toUpper]
  else
    match several? headedToSeveral c, moved? headed c with
    | some t, _ => t
    | none, some d => [d]
    | none, none => upper c

def fold (c : Char) : Text :=
  if isAscii c then [c.toLower]
  else
    match several? foldedToSeveral c, moved? folded c with
    | some t, _ => t
    | none, some d => [d]
    | none, none => lower c

def isSigma (c : Char) : Bool := c.toNat == 0x3A3

/-- Whether a cased letter comes first when the characters that do not end a word are left out. -/
def meetsCased (t : Text) : Bool :=
  ((t.dropWhile (isIn ignorableRows)).head?.map isCased).getD false

/-- The lower case of a letter between others; those before it come in backward order. -/
def lowerBetween (before : Text) (c : Char) (after : Text) : Text :=
  if isSigma c then
    [Char.ofNat (if meetsCased before && !meetsCased after then 0x3C2 else 0x3C3)]
  else lower c

end Letter

def upperCase (t : Text) : Text := t.flatMap Letter.upper

/-- The lower case of what follows some characters, which come in backward order. -/
def lowerAfter (before : Text) : Text → Text
  | [] => []
  | c :: rest => Letter.lowerBetween before c rest ++ lowerAfter (c :: before) rest

def lowerCase (t : Text) : Text := lowerAfter [] t

def withoutCase (t : Text) : Text := t.flatMap Letter.fold

/-- The text with its first letter as at the start of a word and all others in lower case. -/
def capitalized : Text → Text
  | [] => []
  | c :: rest => Letter.head c ++ lowerAfter [c] rest

/-- Every word of a text capitalised; the flag says whether a cased letter comes before. -/
def titleAfter (isInside : Bool) (before : Text) : Text → Text
  | [] => []
  | c :: rest =>
    (if isInside then Letter.lowerBetween before c rest else Letter.head c) ++
      titleAfter (Letter.isCased c) (c :: before) rest

def titleCase (t : Text) : Text := titleAfter false [] t

def swappedAfter (before : Text) : Text → Text
  | [] => []
  | c :: rest =>
    (if Letter.isUpper c then Letter.lowerBetween before c rest
      else if Letter.isLower c then Letter.upper c else [c]) ++
      swappedAfter (c :: before) rest

def swappedCase (t : Text) : Text := swappedAfter [] t

def isAllCase (right wrong : Char → Bool) (t : Text) : Bool :=
  t.any right && !t.any wrong

def isUpperCase (t : Text) : Bool :=
  isAllCase Letter.isUpper (fun c => Letter.isLower c || Letter.isHead c) t

def isLowerCase (t : Text) : Bool :=
  isAllCase Letter.isLower (fun c => Letter.isUpper c || Letter.isHead c) t

/-- Whether capitals and only they stand at the start of words, behind a letter or not. -/
def headsFit (isInside : Bool) : Text → Bool
  | [] => true
  | c :: rest =>
    if Letter.isUpper c || Letter.isHead c then !isInside && headsFit true rest
    else if Letter.isLower c then isInside && headsFit true rest
    else headsFit false rest

def isTitleCase (t : Text) : Bool := t.any Letter.isCased && headsFit false t

end Forwarding.Text
