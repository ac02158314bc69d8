import Forwarding.Text.Quoted

/-! Documents: nested records, lists and values, and their text.

The text is indented by two spaces a level and holds only ASCII: every other character, and a
control, is escaped by its UTF-16 units in four hexadecimal digits.
-/

set_option autoImplicit false

namespace Forwarding

open Text

inductive Document where
  | null
  | bool (value : Bool)
  | number (value : Nat)
  /-- A number of ten-thousandths. -/
  | decimals (tenThousandths : Nat)
  | text (value : Text)
  | list (items : List Document)
  | record (fields : List (Text × Document))
  deriving Repr

namespace Document

def ofOption : Option Text → Document
  | none => null
  | some t => text t

def texts (ts : List Text) : Document := list (ts.map text)

def units (c : Char) : List Nat :=
  let n := c.toNat
  if n < 0x10000 then [n]
  else [0xD800 + (n - 0x10000) / 0x400, 0xDC00 + (n - 0x10000) % 0x400]

/-- A character inside double quotes. -/
def escaped (c : Char) : Text :=
  if c == '"' then "\\\""
  else if c == '\\' then "\\\\"
  else if c == '\n' then "\\n"
  else if c == '\r' then "\\r"
  else if c == '\t' then "\\t"
  else if c == '\x08' then "\\b"
  else if c == '\x0c' then "\\f"
  else if 32 ≤ c.toNat && c.toNat < 127 then [c]
  else (units c).flatMap fun unit => "\\u" ++ hexadecimal 4 unit

def quote (t : Text) : Text := '"' :: t.flatMap escaped ++ ['"']

/-- The fewest digits after the point, but at least one. -/
def decimalText (tenThousandths : Nat) : Text :=
  let digits := decimal (10000 + tenThousandths % 10000)
  let fraction := dropEnd (· == '0') (digits.drop 1)
  decimal (tenThousandths / 10000) ++ "." ++ (if fraction.isEmpty then "0" else fraction : Text)

def indent (depth : Nat) : Text := '\n' :: List.replicate (2 * depth) ' '

/-- Written items between brackets, each on a line of its own. -/
def enclose (opening closing : Char) (depth : Nat) (items : List Text) : Text :=
  if items.isEmpty then [opening, closing]
  else opening :: join "," (items.map fun item => indent (depth + 1) ++ item) ++ indent depth ++
    [closing]

mutual

def write (depth : Nat) : Document → Text
  | null => "null"
  | bool true => "true"
  | bool false => "false"
  | number n => decimal n
  | decimals n => decimalText n
  | text t => quote t
  | list items => enclose '[' ']' depth (writeItems (depth + 1) items)
  | record fields => enclose '\x7b' '\x7d' depth (writeFields (depth + 1) fields)

def writeItems (depth : Nat) : List Document → List Text
  | [] => []
  | item :: rest => write depth item :: writeItems depth rest

def writeFields (depth : Nat) : List (Text × Document) → List Text
  | [] => []
  | (name, value) :: rest =>
    (quote name ++ ": " ++ write depth value) :: writeFields depth rest

end

end Document

end Forwarding
