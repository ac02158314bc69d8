import Forwarding.Text.CharacterName
import Forwarding.Text.Pattern
import Forwarding.Text.Quoted

/-! How regular expressions are spelled.

A spelling is read from left to right. What is wrong with it is told together with its place.
-/

set_option autoImplicit false

namespace Forwarding.Text

namespace Pattern

/-- What is wrong with the spelling of a pattern, and where. -/
structure Mistake where
  words : Text
  place : Option Nat := none
  /-- Whether a number is too large. -/
  isTooLarge : Bool := false
  deriving Repr, DecidableEq

/-- Switches that change what the parts of a pattern mean. -/
structure Mode where
  ignoresCase : Bool := false
  isByLine : Bool := false
  dotIsAll : Bool := false
  isVerbose : Bool := false
  isAscii : Bool := false
  /-- Whether characters stand for bytes; then none is named by its code in two bytes or more. -/
  isBytes : Bool := false
  deriving Repr, DecidableEq

def Mode.casing (m : Mode) : Casing :=
  if !m.ignoresCase then .exact else if m.isAscii then .ascii else .ignored

/-- How far a spelling has been read. -/
structure Reader where
  rest : Text
  place : Nat := 0
  mode : Mode := {}
  /-- The switches for the whole pattern that it names itself. -/
  switches : Text := []
  /-- How many groups have been opened. -/
  opened : Nat := 0
  names : List (Text × Nat) := []
  /-- The widths of the groups that have been closed. -/
  closed : List (Nat × Nat × Nat) := []
  /-- The groups that choices have named by their number before they were there, and where. -/
  awaited : List (Nat × Nat) := []
  /-- Whether some look back has no fixed width. -/
  isVague : Bool := false
  /-- The first group that is opened behind the start of a look back. -/
  lookBack : Option Nat := none

abbrev Read := StateT Reader (Except Mistake)

namespace Read

def failAt {α : Type} (words : Text) (place : Nat) : Read α := throw ⟨words, some place, false⟩

def fail {α : Type} (words : Text) (back : Nat) : Read α := do
  failAt words ((← get).place - back)

/-- The next token: a character, or a backslash with a character. -/
def next : Read Text := do
  match (← get).rest with
  | '\\' :: c :: _ => return ['\\', c]
  | c :: _ => return [c]
  | [] => return []

def checkLast : Read Unit := do
  if (← get).rest == ['\\'] then fail "bad escape (end of pattern)" 0

/-- Takes the next token; nothing is left to take at the end. -/
def take : Read Text := do
  let token ← next
  modify fun r => { r with rest := r.rest.drop token.length, place := r.place + token.length }
  checkLast
  return token

def accept (c : Char) : Read Bool := do
  if (← next) == [c] then
    let _ ← take
    return true
  else return false

def takeWhile (test : Char → Bool) : Nat → Read Text
  | 0 => return []
  | count + 1 => do
    match ← next with
    | [c] =>
      if test c then
        let _ ← take
        return c :: (← takeWhile test count)
      else return []
    | _ => return []

def isOctal (c : Char) : Bool := '0' ≤ c && c ≤ '7'

def isHexadecimal (c : Char) : Bool :=
  c.isDigit || ('a' ≤ c && c ≤ 'f') || ('A' ≤ c && c ≤ 'F')

def number (base : Nat) (digits : Text) : Nat :=
  digits.foldl (fun total c =>
    total * base + (if c.isDigit then c.toNat - '0'.toNat
      else if c.isLower then c.toNat - 'a'.toNat + 10 else c.toNat - 'A'.toNat + 10)) 0

def nameUntil (last : Char) (what : Text) : Nat → Text → Read Text
  | 0, name => return name
  | fuel + 1, name => do
    match ← take with
    | [] =>
      if name.isEmpty then fail ("missing " ++ what) 0
      else fail ("missing " ++ last :: ", unterminated name".toList) name.length
    | token =>
      if token == [last] then
        if name.isEmpty then fail ("missing " ++ what) 1 else return name
      else nameUntil last what fuel (name ++ token)

def takeName (last : Char) (what : Text) : Read Text := do
  nameUntil last what ((← get).rest.length + 1) []

/-- Whether a text is a name: a letter or an underscore, and then letters, digits and underscores. -/
def isName (t : Text) : Bool :=
  match t with
  | [] => false
  | c :: rest => isWordChar c && !isDecimalDigit c && rest.all isWordChar

def checkName (name : Text) : Read Unit := do
  if !isName name then fail ("bad character in group name " ++ quoted name) (name.length + 1)

def escapes : List (Char × Char) :=
  [('a', '\x07'), ('f', '\x0c'), ('n', '\n'), ('r', '\r'), ('t', '\t'), ('v', '\x0b'), ('\\', '\\')]

def kinds : List (Char × Kind) := [('d', .digit), ('s', .blank), ('w', .word)]

def kind? (c : Char) (m : Mode) : Option Item :=
  match kinds.lookup c, kinds.lookup c.toLower with
  | some k, _ => some (.kind k m.isAscii false)
  | none, some k => some (.kind k m.isAscii true)
  | none, none => none

/-- The character that an escape by its code stands for, if the escape is of that form. -/
def coded? (c : Char) : Read (Option Char) := do
  let hexadecimal (count : Nat) : Read (Option Char) := do
    let digits ← takeWhile isHexadecimal count
    if digits.length != count then
      fail ("incomplete escape \\" ++ c :: digits) (digits.length + 2)
    else
      let code := number 16 digits
      if code < 0x110000 then return some (Char.ofNat code)
      else fail ("bad escape \\" ++ c :: digits) (digits.length + 2)
  match c, (← get).mode.isBytes with
  | 'x', _ => hexadecimal 2
  | 'u', false => hexadecimal 4
  | 'U', false => hexadecimal 8
  | 'N', false => do
    if !(← accept '\x7b') then fail "missing \x7b" 0
    else
      let name ← takeName '\x7d' "character name"
      match CharacterName.code? name with
      | some code => return some (Char.ofNat code)
      | none => fail ("undefined character name " ++ quoted name) (name.length + 4)
  | _, _ => return none

def isAsciiLetter (c : Char) : Bool := c.isAlpha

def octal (digits : Text) : Read Char := do
  let code := number 8 digits
  if code > 0o377 then
    fail ("octal escape value \\" ++ digits ++ " outside of range 0-0o377") (digits.length + 1)
  else return Char.ofNat code

def setEscape (c : Char) : Read (Char ⊕ Item) := do
  match kind? c (← get).mode, escapes.lookup c with
  | some item, _ => return .inr item
  | none, some d => return .inl d
  | none, none =>
    if c == 'b' then return .inl '\x08'
    else
      match ← coded? c with
      | some d => return .inl d
      | none =>
        if isOctal c then return .inl (← octal (c :: (← takeWhile isOctal 2)))
        else if c.isAlphanum then fail ("bad escape \\" ++ [c]) 2
        else return .inl c

def isClosed (number : Nat) : Read Bool := do
  return (← get).closed.any fun row => row.1 == number

/-- A look back refers to no group that stands in it, for its width has to be known. -/
def checkLookBack (number : Nat) : Read Unit := do
  match (← get).lookBack with
  | none => return ()
  | some first =>
    if !(← isClosed number) then fail "cannot refer to an open group" 0
    if first ≤ number then
      fail "cannot refer to group defined in the same lookbehind subpattern" 0

def reference (number back : Nat) : Read Pattern := do
  if !(← isClosed number) then fail "cannot refer to an open group" back
  checkLookBack number
  return again number (← get).mode.casing

def escape (c : Char) : Read Pattern := do
  let m := (← get).mode
  match kind? c m, escapes.lookup c with
  | some item, _ => return set false .exact [item]
  | none, some d => return char d m.casing
  | none, none =>
    match c with
    | 'A' => return edge .textStart
    | 'Z' => return edge .textEnd
    | 'b' => return edge (.boundary m.isAscii false)
    | 'B' => return edge (.boundary m.isAscii true)
    | '0' => return char (← octal ('0' :: (← takeWhile isOctal 2))) m.casing
    | _ =>
      match ← coded? c with
      | some d => return char d m.casing
      | none =>
        if c.isDigit then do
          let second ← takeWhile Char.isDigit 1
          let third ← if isOctal c && second.all isOctal && second != [] then
              match ← next with
              | [d] => if isOctal d then takeWhile isOctal 1 else pure []
              | _ => pure []
            else pure []
          if third != [] then return char (← octal (c :: second ++ third)) m.casing
          else
            let n := number 10 (c :: second)
            if (← get).opened < n then
              fail ("invalid group reference " ++ decimal n) (second.length + 1)
            else reference n (second.length + 2)
        else if isAsciiLetter c then fail ("bad escape \\" ++ [c]) 2
        else return char c m.casing

def setItems (start : Nat) : Nat → List Item → Read (List Item)
  | 0, items => return items
  | fuel + 1, items => do
    let token ← take
    let unclosed : Read (List Item) := failAt "unterminated character set" start
    let readOne (token : Text) : Read (Char ⊕ Item) :=
      match token with
      | ['\\', c] => setEscape c
      | c :: _ => return .inl c
      | [] => return .inl ' '
    let single : Char ⊕ Item → Item
      | .inl c => .range c c
      | .inr item => item
    if token.isEmpty then unclosed
    else if token == [']'] && !items.isEmpty then return items
    else
      let low ← readOne token
      if ← accept '-' then
        let that ← take
        if that.isEmpty then unclosed
        else if that == [']'] then return items ++ [single low, .range '-' '-']
        else
          let high ← readOne that
          let wrong : Read (List Item) := do
            fail ("bad character range " ++ token ++ '-' :: that) (token.length + 1 + that.length)
          match low, high with
          | .inl low, .inl high =>
            if low ≤ high then setItems start fuel (items ++ [.range low high]) else wrong
          | _, _ => wrong
      else setItems start fuel (items ++ [single low])
/-- The largest number of repetitions that can be written. -/
def limit : Nat := 4294967295

/-- The bounds of a repetition that a mark begins, or nothing if it is an ordinary character. -/
def bounds (c : Char) : Read (Option (Nat × Option Nat)) := do
  match c with
  | '*' => return some (0, none)
  | '+' => return some (1, none)
  | '?' => return some (0, some 1)
  | _ => do
    let here ← get
    if (← next) == ['\x7d'] then return none
    else
      let count := here.rest.length
      let low ← takeWhile Char.isDigit count
      let high ← if ← accept ',' then takeWhile Char.isDigit count else pure low
      if !(← accept '\x7d') then
        modify fun r => { r with rest := here.rest, place := here.place }
        return none
      else
        let tooLarge (digits : Text) : Bool := limit ≤ number 10 digits
        if tooLarge low || tooLarge high then
          throw ⟨"the repetition number is too large", none, true⟩
        else
          let least := number 10 low
          if high.isEmpty then return some (least, none)
          else if number 10 high < least then
            failAt "min repeat greater than max repeat" here.place
          else return some (least, some (number 10 high))

def repeatLast (bounds : Nat × Option Nat) (start : Nat) : List Pattern → Read (List Pattern)
  | [] | edge _ :: _ => failAt "nothing to repeat" start
  | times _ _ _ _ :: _ => failAt "multiple repeat" start
  | part :: parts => do
    let greed ← if ← accept '?' then pure Greed.fewest
      else if ← accept '+' then pure Greed.seized
      else pure Greed.most
    return times bounds.1 bounds.2 greed part :: parts

def joined (parts : List Pattern) : Pattern :=
  match parts with
  | [] => empty
  | last :: before => before.foldl (fun after part => seq part after) last

def groupNamed (name : Text) : Read Nat := do
  match (← get).names.lookup name with
  | some n => return n
  | none => fail ("unknown group name " ++ quoted name) (name.length + 1)

def openGroup (name : Option Text) : Read Nat := do
  let r ← get
  let n := r.opened + 1
  match name with
  | none => modify fun r => { r with opened := n }
  | some name =>
    match r.names.lookup name with
    | some earlier =>
      fail ("redefinition of group name " ++ quoted name ++ " as group " ++ decimal n ++
        "; was group " ++ decimal earlier) (name.length + 1)
    | none => modify fun r => { r with opened := n, names := r.names ++ [(name, n)] }
  return n

def closeGroup (n : Nat) (inside : Pattern) : Read Unit :=
  modify fun r => { r with closed := (n, widths limit r.closed inside) :: r.closed }

def switchOn (on : Bool) (c : Char) (m : Mode) : Mode :=
  match c with
  | 'i' => { m with ignoresCase := on }
  | 'm' => { m with isByLine := on }
  | 's' => { m with dotIsAll := on }
  | 'x' => { m with isVerbose := on }
  | 'a' => { m with isAscii := on }
  | 'u' => { m with isAscii := !on }
  | _ => m

def isExclusive (c : Char) : Bool := ['a', 'u', 'L'].contains c

def isSwitch (c : Char) : Bool := ['i', 'm', 's', 'x', 'a', 'u', 'L', 't'].contains c

def noSwitch {α : Type} (token instead : Text) : Read α :=
  match token with
  | [] => fail instead 0
  | c :: _ => fail (if c.isAlpha then "unknown flag" else instead) token.length

def switchesOff : Nat → Text → Text → Read Text
  | 0, _, off => return off
  | fuel + 1, on, off => do
    let token ← take
    match token with
    | [c] =>
      if c == ':' && !off.isEmpty then
        if off.contains 't' then fail "bad inline flags: cannot turn off global flag" 1
        else if off.any on.contains then fail "bad inline flags: flag turned on and off" 1
        else return off
      else if !isSwitch c then noSwitch token (if off.isEmpty then "missing flag" else "missing :")
      else if isExclusive c then
        fail "bad inline flags: cannot turn off flags 'a', 'u' and 'L'" 0
      else switchesOff fuel on (off ++ [c])
    | _ => noSwitch token (if off.isEmpty then "missing flag" else "missing :")

/-- Switches that are turned on, and those that are turned off before a colon. Nothing is turned off if the
switches are for the whole pattern. -/
def switches : Nat → Char → Text → Read (Text × Option Text)
  | 0, _, on => return (on, none)
  | fuel + 1, c, on => do
    if c == ')' then return (on, none)
    else if (c == ':' || c == '-') && on.contains 't' then
      fail "bad inline flags: cannot turn on global flag" 1
    else if c == ':' then return (on, some [])
    else if c == '-' then return (on, some (← switchesOff (fuel + 1) on []))
    else
      let isBytes := (← get).mode.isBytes
      if c == 'L' && !isBytes then
        fail "bad inline flags: cannot use 'L' flag with a str pattern" 0
      if c == 'u' && isBytes then
        fail "bad inline flags: cannot use 'u' flag with a bytes pattern" 0
      if isExclusive c && on.any (fun d => isExclusive d && d != c) then
        fail "bad inline flags: flags 'a', 'u' and 'L' are incompatible" 0
      let on := on ++ [c]
      match ← take with
      | [d] =>
        if d == ')' || d == ':' || d == '-' || isSwitch d then switches fuel d on
        else noSwitch [d] "missing -, : or )"
      | token => noSwitch token "missing -, : or )"

def changed (on off : Text) (m : Mode) : Mode :=
  off.foldl (fun m c => switchOn false c m) (on.foldl (fun m c => switchOn true c m) m)

def skipBlanks : Nat → Read Unit
  | 0 => return ()
  | fuel + 1 => do
    let r ← get
    if r.mode.isVerbose then
      match r.rest with
      | '#' :: rest =>
        let comment := rest.takeWhile (· != '\n')
        let count := min (comment.length + 2) r.rest.length
        modify fun r => { r with rest := r.rest.drop count, place := r.place + count }
        skipBlanks fuel
      | c :: rest =>
        if [' ', '\t', '\n', '\r', '\x0b', '\x0c'].contains c then
          modify fun r => { r with rest, place := r.place + 1 }
          skipBlanks fuel
      | [] => return ()

def close (start : Nat) : Read Unit := do
  if !(← accept ')') then failAt "missing ), unterminated subpattern" start

mutual

/-- Reads alternatives. The flag says whether they stand at the very beginning. -/
def alternatives : Nat → Bool → Read Pattern
  | 0, _ => return empty
  | fuel + 1, isFirst => do
    let p ← sequence fuel isFirst []
    if ← accept '|' then return alt p (← alternatives fuel false) else return p
termination_by structural fuel => fuel

def sequence : Nat → Bool → List Pattern → Read Pattern
  | 0, _, parts => return joined parts
  | fuel + 1, isFirst, parts => do
    skipBlanks fuel
    let token ← next
    let r ← get
    let m := r.mode
    if token.isEmpty || token == ['|'] || token == [')'] then return joined parts
    else
      let start := r.place
      let _ ← take
      match token with
      | ['\\', c] => do sequence fuel isFirst ((← escape c) :: parts)
      | ['['] => do
        let isNegated ← accept '^'
        let items ← setItems start fuel []
        sequence fuel isFirst (set isNegated m.casing items :: parts)
      | ['.'] => sequence fuel isFirst (any m.dotIsAll :: parts)
      | ['^'] =>
        sequence fuel isFirst (edge (if m.isByLine then .lineStart else .textStart) :: parts)
      | ['$'] => sequence fuel isFirst (edge (if m.isByLine then .lineFinish else .finish) :: parts)
      | ['('] => do
        match ← enclosed fuel start (isFirst && parts.isEmpty) with
        | some p => sequence fuel isFirst (p :: parts)
        | none => sequence fuel isFirst parts
      | [c] =>
        if c == '*' || c == '+' || c == '?' || c == '\x7b' then do
          match ← bounds c with
          | some found => sequence fuel isFirst (← repeatLast found start parts)
          | none => sequence fuel isFirst (char c m.casing :: parts)
        else sequence fuel isFirst (char c m.casing :: parts)
      | _ => return joined parts
termination_by structural fuel => fuel

/-- Reads what stands behind an opening bracket; it may be no part of the pattern. -/
def enclosed : Nat → Nat → Bool → Read (Option Pattern)
  | 0, _, _ => return none
  | fuel + 1, start, isFirst => do
    if !(← accept '?') then captured fuel start none
    else
      match ← take with
      | [] => fail "unexpected end of pattern" 0
      | ['P'] =>
        match ← take with
        | [] => fail "unexpected end of pattern" 0
        | ['<'] => do
          let name ← takeName '>' "group name"
          checkName name
          captured fuel start (some name)
        | ['='] => do
          let name ← takeName ')' "group name"
          checkName name
          let n ← groupNamed name
          return some (← reference n (name.length + 1))
        | token => fail ("unknown extension ?P" ++ token) (token.length + 2)
      | [':'] => do
        let p ← alternatives fuel false
        close start
        return some (seq p empty)
      | ['#'] => do
        comment start fuel
        return none
      | ['='] => look fuel start false
      | ['!'] => look fuel start true
      | ['<'] =>
        match ← take with
        | [] => fail "unexpected end of pattern" 0
        | ['='] => lookBack fuel start false
        | ['!'] => lookBack fuel start true
        | token => fail ("unknown extension ?<" ++ token) (token.length + 2)
      | ['('] => do
        let name ← takeName ')' "group name"
        let n ← if isName name then groupNamed name
          else if name.all Char.isDigit then
            let n := number 10 name
            if n == 0 then fail "bad group number" (name.length + 1)
            else if n ≥ limit / 2 then
              fail ("invalid group reference " ++ decimal n) (name.length + 1)
            else
              modify fun r => { r with awaited := r.awaited ++ [(n, r.place - (name.length + 1))] }
              pure n
          else fail ("bad character in group name " ++ quoted name) (name.length + 1)
        checkLookBack n
        let yes ← sequence fuel false []
        let no ← if ← accept '|' then
            let no ← sequence fuel false []
            if (← next) == ['|'] then fail "conditional backref with more than two branches" 0
            else pure no
          else pure empty
        close start
        return some (choice n yes no)
      | ['>'] => do
        let p ← alternatives fuel false
        close start
        return some (seized p)
      | [c] =>
        if !isSwitch c && c != '-' then fail ("unknown extension ?" ++ [c]) 2
        else do
          match ← switches (fuel + 2) c [] with
          | (on, none) =>
            if !isFirst then failAt "global flags not at the start of the expression" start
            else
              modify fun r => { r with
                mode := changed on [] r.mode, switches := r.switches ++ on }
              return none
          | (on, some off) => do
            let outer := (← get).mode
            modify fun r => { r with mode := changed on off r.mode }
            let p ← alternatives fuel false
            close start
            modify fun r => { r with mode := outer }
            return some (seq p empty)
      | token => fail ("unknown extension ?" ++ token) (token.length + 1)
termination_by structural fuel => fuel

def captured : Nat → Nat → Option Text → Read (Option Pattern)
  | 0, _, _ => return none
  | fuel + 1, start, name => do
    let n ← openGroup name
    let p ← alternatives fuel false
    close start
    closeGroup n p
    return some (group n p)
termination_by structural fuel => fuel

def look : Nat → Nat → Bool → Read (Option Pattern)
  | 0, _, _ => return none
  | fuel + 1, start, isNegated => do
    let p ← alternatives fuel false
    close start
    return some (ahead isNegated p)
termination_by structural fuel => fuel

def lookBack : Nat → Nat → Bool → Read (Option Pattern)
  | 0, _, _ => return none
  | fuel + 1, start, isNegated => do
    let outer := (← get).lookBack
    modify fun r => { r with lookBack := outer.or (some (r.opened + 1)) }
    let p ← alternatives fuel false
    close start
    modify fun r => { r with lookBack := outer }
    let (fewest, most) := widths limit (← get).closed p
    modify fun r => { r with isVague := r.isVague || fewest != most }
    return some (behind fewest isNegated p)
termination_by structural fuel => fuel

def comment : Nat → Nat → Read Unit
  | start, 0 => failAt "missing ), unterminated comment" start
  | start, fuel + 1 => do
    match ← take with
    | [] => failAt "missing ), unterminated comment" start
    | [')'] => return ()
    | _ => comment start fuel
termination_by structural _ fuel => fuel

end

def whole : Read Pattern := do
  checkLast
  let p ← alternatives (4 * (← get).rest.length + 8) true
  if (← next) == [')'] then fail "unbalanced parenthesis" 0
  let r ← get
  match r.awaited.find? fun row => r.opened < row.1 with
  | some (number, place) => failAt ("invalid group reference " ++ decimal number) place
  | none =>
    if r.isVague then throw ⟨"look-behind requires fixed-width pattern", none, false⟩
    else return p

end Read

/-- The pattern that a text spells, with what has been learned about its groups and switches. -/
def read (mode : Mode) (t : Text) : Except Mistake (Pattern × Reader) :=
  Read.whole.run { rest := t, mode }

def ofText (t : Text) : Option Pattern := ((read {} t).toOption).map (·.1)

end Pattern

end Forwarding.Text
