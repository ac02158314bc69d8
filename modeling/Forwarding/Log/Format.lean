import Forwarding.Rounding
import Forwarding.Text.Alphanumeric
import Forwarding.Text.Basic
import Forwarding.Text.Letter
import Forwarding.Text.Quoted

/-! Log formats: how an entry of the log becomes a line of text, with its level and with numbers.

A level says how much an entry matters.

Levels are numbers, and some have names. A name that is none stands for the ordinary level; two names
that look like levels are bound to a text and to a dictionary and not to a number.
-/

set_option autoImplicit false

namespace Forwarding

open Text

namespace Level

def critical : Int := 50
def error : Int := 40
def warning : Int := 30
def info : Int := 20
def debug : Int := 10
def unset : Int := 0

/-- The name under which a level is shown; one between the named levels is shown by its number. -/
def shown (level : Int) : Text :=
  if level == critical then "CRITICAL"
  else if level == error then "ERROR"
  else if level == warning then "WARNING"
  else if level == info then "INFO"
  else if level == debug then "DEBUG"
  else if level == unset then "NOTSET"
  else "Level " ++ (toString level).toList

/-- What the name of a level is bound to. -/
inductive Setting where
  | number (level : Int)
  | text (value : Text)
  /-- Something that is neither, as it is shown. -/
  | other (shown : Text)
  deriving Repr, DecidableEq

def shownStyles : Text :=
  "\x7b'%': (<class 'logging.PercentStyle'>, '%(levelname)s:%(name)s:%(message)s'), " ++
    "'\x7b': (<class 'logging.StrFormatStyle'>, '\x7blevelname\x7d:\x7bname\x7d:\x7bmessage\x7d'), " ++
    "'$': (<class 'logging.StringTemplateStyle'>, '$\x7blevelname\x7d:$\x7bname\x7d:$\x7bmessage\x7d')\x7d"

def names : List (Text × Setting) :=
  [("CRITICAL", .number critical), ("FATAL", .number critical), ("ERROR", .number error),
    ("WARNING", .number warning), ("WARN", .number warning), ("INFO", .number info),
    ("DEBUG", .number debug), ("NOTSET", .number unset),
    ("BASIC_FORMAT", .text "%(levelname)s:%(name)s:%(message)s"), ("_STYLES", .other shownStyles)]

def ofName (name : Text) : Setting := (names.lookup (upperCase name)).getD (.number info)

/-- A level as it is asked for. -/
inductive Given where
  | nothing
  | number (level : Int)
  | named (name : Text)
  deriving Repr, DecidableEq

def Given.setting : Given → Setting
  | .nothing => .number info
  | .number level => .number level
  | .named name => ofName name

/-- The level that a command line asks for: a name counts most, then how often it wants to hear more,
then how often less. -/
def ofOptions (name : Option Text) (verbose quiet : Nat) : Setting :=
  match name with
  | some (c :: rest) => ofName (c :: rest)
  | _ =>
    .number <|
      if verbose ≥ 1 then debug
      else if quiet ≥ 2 then error
      else if quiet == 1 then warning
      else info

end Level

end Forwarding

/-! Whole numbers written with decimals.

A number is written with all its digits before the point, or with one digit before the point and an
exponent, or in the shorter of these two ways. The precision says how many digits follow the point,
or in the third way how many digits there are at most. A point is written only if digits follow it,
unless it is asked for.
-/

namespace Forwarding.Decimals

open Text

def fraction (keepsPoint : Bool) (digits : Text) : Text :=
  if digits.isEmpty && !keepsPoint then [] else '.' :: digits

def fixed (keepsPoint : Bool) (precision n : Nat) : Text :=
  decimal n ++ fraction keepsPoint (List.replicate precision '0')

/-- The digits of a number rounded to some significant digits, with zeros to fill them up, and the
exponent of the first one. -/
def significant (count n : Nat) : Text × Nat :=
  if n == 0 then (List.replicate count '0', 0)
  else
    let length := (decimal n).length
    let rounded := decimal (Rounding.nearest n (10 ^ (length - count)))
    let shown := rounded.take count
    (shown ++ List.replicate (count - shown.length) '0',
      length - 1 + (rounded.length - min length count))

/-- An exponent has a sign and at least two digits. -/
def exponent (mark : Char) (e : Nat) : Text :=
  mark :: '+' :: ((if e < 10 then ['0'] else []) ++ decimal e)

def scientific (mark : Char) (keepsPoint : Bool) (precision n : Nat) : Text :=
  let (digits, e) := significant (precision + 1) n
  digits.take 1 ++ fraction keepsPoint (digits.drop 1) ++ exponent mark e

/-- Without an exponent if the precision has room for all digits before the point, and without zeros
at the end unless the point is asked for. -/
def shorter (mark : Char) (keepsPoint : Bool) (precision n : Nat) : Text :=
  let count := max precision 1
  let (digits, e) := significant count n
  let trimmed := fun (t : Text) => if keepsPoint then t else dropEnd (· == '0') t
  if e < count then
    digits.take (e + 1) ++ fraction keepsPoint (trimmed (digits.drop (e + 1)))
  else digits.take 1 ++ fraction keepsPoint (trimmed (digits.drop 1)) ++ exponent mark e

end Forwarding.Decimals

/-! ### Formats

A format is text with directives in it. A directive starts with a percent sign and the name of a field
in parentheses; flags, a width, a precision and a letter for the conversion follow. A format is
accepted if something in it looks like a directive. An entry that an accepted format cannot be
applied to is lost.
-/

namespace Forwarding

open Text

namespace LogFormat

/-- The format that is used when none is given. -/
def ordinary : Text := "%(levelname)s: %(message)s"

def isFlag (c : Char) : Bool := "#0+ -".toList.contains c

def conversions : List Char := "diouxefgcrsa%".toList

/-- Whether a character passes for the letter of a conversion: in either case, and also as one of the
letters outside ASCII that differ from an ASCII letter in nothing but case. -/
def looksLikeConversion (c : Char) : Bool :=
  conversions.contains c.toLower || c == 'ı' || c == 'İ' || c == 'ſ'

/-- The text after a width or a precision, which is a star or some digits, if there is one. -/
def afterNumber (t : Text) : Text :=
  match t with
  | '*' :: rest => rest
  | t => t.dropWhile isDecimalDigit

def afterPrecision (t : Text) : Text :=
  match t with
  | '.' :: rest => if (afterNumber rest).length < rest.length then afterNumber rest else t
  | t => t

/-- Whether something that looks like a directive starts here, behind the percent sign. -/
def looksLikeDirective (t : Text) : Bool :=
  match t with
  | '(' :: rest =>
    match rest.dropWhile isWordChar with
    | ')' :: after =>
      (rest.head?.any isWordChar) &&
        (afterPrecision (afterNumber (after.dropWhile isFlag))).head?.any looksLikeConversion
    | _ => false
  | _ => false

def isValid : Text → Bool
  | [] => false
  | c :: t => (c == '%' && looksLikeDirective t) || isValid t

/-- A directive in its parts. -/
structure Directive where
  field : Text
  flags : List Char
  width : Option Nat
  precision : Option Nat
  conversion : Char
  deriving Repr, DecidableEq

def numeral (digits : Text) : Nat :=
  digits.foldl (fun value c => value * 10 + (c.toNat - '0'.toNat)) 0

/-- The largest width or precision. -/
def numberLimit : Nat := 2 ^ 31 - 1

/-- A number at the start of a text, if there is one, and the text after it. A number over the limit
is refused. -/
def takeNumber? (t : Text) : Option (Option Nat × Text) :=
  let digits := t.takeWhile Char.isDigit
  let number := numeral digits
  if numberLimit < number then none
  else some (if digits.isEmpty then none else some number, t.dropWhile Char.isDigit)

/-- Reads a directive behind its percent sign and the parenthesis. -/
def Directive.read (t : Text) : Option (Directive × Text) := do
  let (field, t) ← enclosed 1 t
  let flags := t.takeWhile isFlag
  let (width, t) ← takeNumber? (t.dropWhile isFlag)
  let (precision, t) ← match t with
    | '.' :: t => (takeNumber? t).map fun (number, t) => (some (number.getD 0), t)
    | t => some (none, t)
  let t :=
    match t with
    | c :: rest => if c == 'h' || c == 'l' || c == 'L' then rest else t
    | [] => []
  match t with
  | conversion :: rest => some ({ field, flags, width, precision, conversion }, rest)
  | [] => none

/-- What a format consists of. -/
inductive Piece where
  | literal (c : Char)
  | directive (d : Directive)
  deriving Repr, DecidableEq

/-- The pieces of a format, if every percent sign starts a directive or is written twice. -/
def pieces (t : Text) : Option (List Piece) :=
  match t with
  | [] => some []
  | '%' :: '%' :: rest => (pieces rest).map (.literal '%' :: ·)
  | '%' :: '(' :: rest =>
    match Directive.read rest with
    | none => none
    | some (d, after) =>
      if after.length ≤ rest.length then (pieces after).map (.directive d :: ·) else none
  | c :: rest => if c == '%' then none else (pieces rest).map (.literal c :: ·)
termination_by t.length

/-- The value of a field. -/
inductive Value where
  | text (value : Text)
  | number (value : Int)
  deriving Repr, DecidableEq

namespace Directive

variable (d : Directive)

def has (flag : Char) : Bool := d.flags.contains flag

/-- Only the first characters, as many as the precision says. -/
def cut (t : Text) : Text :=
  match d.precision with
  | none => t
  | some n => t.take n

/-- Pads a converted value to the width. The sign and the mark of the base stay in front of zeros. -/
def pad (zeros : Bool) (front digits : Text) : Text :=
  let missing := d.width.getD 0 - (front.length + digits.length)
  if d.has '-' then front ++ digits ++ List.replicate missing ' '
  else if zeros then front ++ List.replicate missing '0' ++ digits
  else List.replicate missing ' ' ++ front ++ digits

def sign (n : Int) : Text :=
  if n < 0 then ['-'] else if d.has '+' then ['+'] else if d.has ' ' then [' '] else []

def padNumber (n : Int) (base digits : Text) : Text :=
  d.pad (d.has '0') (d.sign n ++ if d.has '#' then base else []) digits

/-- Digits with zeros before them, as many as the precision says in all. -/
def extended (digits : Text) : Text :=
  List.replicate (d.precision.getD 0 - digits.length) '0' ++ digits

def plainAscii (t : Text) : Text := t.flatMap fun c =>
  if c.toNat < 0x80 then [c]
  else if c.toNat < 0x100 then "\\x" ++ hexadecimal 2 c.toNat
  else if c.toNat < 0x10000 then "\\u" ++ hexadecimal 4 c.toNat
  else "\\U" ++ hexadecimal 8 c.toNat

def asText (v : Value) : Text :=
  match v with
  | .number n => (toString n).toList
  | .text t =>
    if d.conversion == 's' then t
    else if d.conversion == 'r' then quoted t
    else plainAscii (quoted t)

/-- One character: a text of length one, or the character with some code point. -/
def asChar (v : Value) : Option Text :=
  match v with
  | .text [c] => some [c]
  | .text _ => none
  | .number n => if 0 ≤ n && n.toNat.isValidChar then some [Char.ofNat n.toNat] else none

/-- A number with decimals, unless it is too large to have them. -/
def withDecimals (n : Int) (write : Bool → Nat → Nat → Text) : Option Text :=
  (Rounding.toFloating? n.natAbs).map fun value =>
    d.padNumber n [] (write (d.has '#') (d.precision.getD 6) value)

def apply (v : Value) : Option Text :=
  let c := d.conversion
  if c == 's' || c == 'r' || c == 'a' then some (d.pad false [] (d.cut (d.asText v)))
  else if c == 'c' then (asChar v).map (d.pad false [])
  else match v with
    | .text _ => none
    | .number n =>
      if c == 'd' || c == 'i' || c == 'u' then
        some (d.padNumber n [] (d.extended (decimal n.natAbs)))
      else if c == 'o' then some (d.padNumber n "0o" (d.extended (Nat.toDigits 8 n.natAbs)))
      else if c == 'x' then some (d.padNumber n "0x" (d.extended (Nat.toDigits 16 n.natAbs)))
      else if c == 'X' then
        some (d.padNumber n "0X" (d.extended ((Nat.toDigits 16 n.natAbs).map Char.toUpper)))
      else if c == 'f' || c == 'F' then d.withDecimals n Decimals.fixed
      else if c == 'e' then d.withDecimals n (Decimals.scientific 'e')
      else if c == 'E' then d.withDecimals n (Decimals.scientific 'E')
      else if c == 'g' then d.withDecimals n (Decimals.shorter 'e')
      else if c == 'G' then d.withDecimals n (Decimals.shorter 'E')
      else none

end Directive

/-- The fields of an entry: the name of where it comes from, its level and its message. -/
def fields (name : Text) (level : Int) (message : Text) : List (Text × Value) :=
  [("name", .text name), ("levelname", .text (Level.shown level)), ("levelno", .number level),
    ("message", .text message)]

def Piece.apply (values : List (Text × Value)) : Piece → Option Text
  | .literal c => some [c]
  | .directive d => (values.lookup d.field).bind d.apply

def apply (format name : Text) (level : Int) (message : Text) : Option Text := do
  return ((← (← pieces format).mapM (Piece.apply (fields name level message))).flatten)

end LogFormat

end Forwarding
