import Forwarding.Script.Machine.Codec
import Forwarding.Script.Machine.Item
import Forwarding.Script.Machine.Taking
import Forwarding.Text.Letter
import Forwarding.Text.NameCharacter
import Forwarding.Text.Parts

/-! The methods of texts. -/

set_option autoImplicit false

namespace Forwarding.Script.Act

open Text

def textTakings : List (Taking × List Text) := [
  (.nothing, words <|
    "capitalize casefold isalnum isalpha isascii isdecimal isdigit isidentifier islower isnumeric " ++
    "isprintable isspace istitle isupper lower swapcase title upper"),
  (.single, words "format_map join partition removeprefix removesuffix rpartition translate zfill"),
  (.between 0 1, words "lstrip rstrip strip"),
  (.between 1 2, words "center ljust rjust"),
  (.between 2 3, words "replace"),
  (.between 1 3, words "maketrans"),
  (.counted 1 3, words "count endswith find index rfind rindex startswith")]

/-- The part of a text that arguments for its first and last place mean; none if it begins behind the
end. -/
def span (arguments : List Value) (length : Nat) : Act (Option (Nat × Nat)) := do
  let clip (v : Value) (instead : Int) : Act Int := do
    match ← bound v with
    | none => return instead
    | some n => return max 0 (if n < 0 then n + length else n)
  let first ← clip (argument arguments 0) 0
  let last ← clip (argument arguments 1) length
  let last := min last length
  if last < first then return none else return some (first.toNat, last.toNat)

def partOf (t : Text) (place : Nat × Nat) : Text := (t.drop place.1).take (place.2 - place.1)

def givenName (v : Value) : Act Text := if v.isNothing then return "None" else kindName v

def textArgument (v : Value) (words : Text → Text) : Act Text := do
  match ← plain v with
  | .text t => return t
  | _ => typeError (words (← givenName v))

def memberName (v : Value) : Act Text := do
  match ← plain v with
  | .text t => return t
  | _ => typeError ("attribute name must be string, not '" ++ (← kindName v) ++ ['\x27'])

def found? (t part : Text) (arguments : List Value) (isLast : Bool) : Act (Option Nat) := do
  match ← span arguments t.length with
  | none => return none
  | some place =>
    let inside := partOf t place
    return (if isLast then lastPlace? part inside else firstPlace? part inside).map (· + place.1)

def bordered (t : Text) (name : String) (isStart : Bool) (arguments : List Value) : Act Bool := do
  let fits (inside part : Text) : Bool :=
    if isStart then part.isPrefixOf inside else part.isSuffixOf inside
  match ← span (arguments.drop 1) t.length with
  | place =>
    let inside := place.map (partOf t)
    let test (part : Text) : Bool := (inside.map fun inside => fits inside part).getD false
    match ← plain (argument arguments 0) with
    | .text part => return test part
    | .tuple parts =>
      parts.anyM fun part => do
        match ← plain part with
        | .text part => return test part
        | _ =>
          typeError ("tuple for " ++ name.toList ++ " must only contain str, not " ++ (← kindName part))
    | _ =>
      typeError (name.toList ++ " first arg must be str or a tuple of str, not " ++
        (← kindName (argument arguments 0)))

def limitOf (n : Int) (length : Nat) : Nat := if n < 0 then length + 1 else min n.toNat (length + 1)

def pieces (t : Text) (isLast : Bool) (separator limit : Value) : Act (List Text) := do
  let limit := limitOf (← index limit) t.length
  match ← plain separator with
  | .nothing =>
    return if isLast then cutWordsFromEnd isBlank limit t else cutWords isBlank limit t
  | .text mark =>
    if mark.isEmpty then valueError "empty separator"
    else return if isLast then cutFromEnd mark limit t else cut mark limit t
  | _ => typeError ("must be str or None, not " ++ (← kindName separator))

def fillOf (arguments : List Value) : Act Char := do
  match arguments[1]? with
  | none => return ' '
  | some v =>
    match ← plain v with
    | .text [c] => return c
    | .text _ => typeError "The fill character must be exactly one character long"
    | _ => typeError ("The fill character must be a unicode character, not " ++ (← kindName v))

/-- The text with other characters for some, as a collection by their numbers says. -/
def translated (table : Value) (t : Text) : Act Text := do
  let parts ← t.mapM fun c => do
    let found ← rescue "LookupError" (return some (← item table (.integer c.toNat))) fun _ => return none
    match found with
    | none => return [c]
    | some v =>
      match ← plain v with
      | .nothing => return []
      | .text t => return t
      | .integer n =>
        if 0 ≤ n && n < 0x110000 then return [Char.ofNat n.toNat]
        else valueError "character mapping must be in range(0x110000)"
      | _ => typeError "character mapping must return integer, None or str"
  return parts.flatten

def translation (arguments : List Value) : Act Value := do
  match arguments with
  | [one] => do
    match ← bodyOf one with
    | .dictionary d => do
      let entries ← d.toList.mapM fun e => do
        match ← plain e.key with
        | .integer n => return (Value.integer n, e.item)
        | .text [c] => return (.integer c.toNat, e.item)
        | .text _ => valueError "string keys in translate table must be of length 1"
        | _ => typeError "keys in translate table must be strings or integers"
      newDictionary (← dictionaryOf entries)
    | _ => typeError "if you give only one argument to maketrans it must be a dict"
  | first :: second :: rest => do
    let replaced ← textArgument second fun kind => "maketrans() argument 2 must be str, not " ++ kind
    match ← plain first with
    | .text old =>
      if old.length != replaced.length then
        valueError "the first two maketrans arguments must have equal length"
      else
        let gone ← match rest with
          | [] => pure []
          | v :: _ => textArgument v fun kind => "maketrans() argument 3 must be str, not " ++ kind
        let number (c : Char) : Value := .integer c.toNat
        newDictionary (← dictionaryOf ((old.zip replaced).map (fun (a, b) => (number a, number b)) ++
          gone.map fun c => (number c, .nothing)))
    | _ => typeError "first maketrans argument must be a string if there is a second argument"
  | [] => return .nothing

def joinedBy (separator : Text) (v : Value) : Act Text := do
  let items ← match ← readyItems? v with
    | some items => pure items
    | none => do
      let it ← rescue "TypeError" (iterator v) fun _ => typeError "can only join an iterable"
      rest it itemLimit #[]
  let texts ← items.zipIdx.mapM fun (item, place) => do
    match ← plain item with
    | .text t => return t
    | _ =>
      typeError ("sequence item " ++ decimal place ++ ": expected str instance, " ++ (← kindName item) ++
        " found")
  return join separator texts

def isName (t : Text) : Bool :=
  match t with
  | [] => false
  | c :: rest => isNameStart c && rest.all isNameRest

def zeroFilled (width : Int) (t : Text) : Text :=
  let zeros := List.replicate (width - t.length).toNat '0'
  match t with
  | c :: rest => if c == '+' || c == '-' then c :: zeros ++ rest else zeros ++ t
  | [] => zeros

def textMethod (t : Text) (name : Text) (arguments : List Value) (named : Named) : Act Value := do
  let full : Text := "str." ++ name
  let isNaming := ["encode", "expandtabs", "format", "rsplit", "split", "splitlines"].any fun (n : String) =>
    name == n.toList
  checkCall (takingIn textTakings name) isNaming full name arguments named
  let first := argument arguments 0
  let class_ (p : Char → Bool) : Value := .truth (!t.isEmpty && t.all p)
  let stripped (fromStart fromEnd : Bool) : Act Value := do
    let drop (p : Char → Bool) : Value :=
      let t := if fromStart then t.dropWhile p else t
      .text (if fromEnd then dropEnd p t else t)
    match ← plain first with
    | .nothing => return drop isBlank
    | .text chars => return drop chars.contains
    | _ => typeError (name ++ " arg must be None or str")
  let sought : Act Text := do
    match ← plain first with
    | .text t => return t
    | _ => typeError ("must be str, not " ++ (← kindName first))
  match String.ofList name with
  | "capitalize" => return .text (capitalized t)
  | "casefold" => return .text (withoutCase t)
  | "lower" => return .text (lowerCase t)
  | "upper" => return .text (upperCase t)
  | "title" => return .text (titleCase t)
  | "swapcase" => return .text (swappedCase t)
  | "isalnum" => return class_ fun c =>
      Letter.isAlphabetic c || isDecimalDigit c || Letter.isDigit c || Letter.isNumeral c
  | "isalpha" => return class_ Letter.isAlphabetic
  | "isascii" => return .truth (t.all Letter.isAscii)
  | "isdecimal" => return class_ isDecimalDigit
  | "isdigit" => return class_ Letter.isDigit
  | "isnumeric" => return class_ Letter.isNumeral
  | "isidentifier" => return .truth (isName t)
  | "isprintable" => return .truth (t.all isPrintable)
  | "isspace" => return class_ isBlank
  | "isupper" => return .truth (isUpperCase t)
  | "islower" => return .truth (isLowerCase t)
  | "istitle" => return .truth (isTitleCase t)
  | "strip" => stripped true true
  | "lstrip" => stripped true false
  | "rstrip" => stripped false true
  | "format" => return .text (← formatted t arguments named)
  | "format_map" => return .text (← formattedBy t first)
  | "join" => return .text (← joinedBy t first)
  | "partition" => do
    let mark ← sought
    if mark.isEmpty then valueError "empty separator"
    else
      match around? mark t with
      | some (before, behind) => return .tuple [.text before, .text mark, .text behind]
      | none => return .tuple [.text t, .text [], .text []]
  | "rpartition" => do
    let mark ← sought
    if mark.isEmpty then valueError "empty separator"
    else
      match aroundLast? mark t with
      | some (before, behind) => return .tuple [.text before, .text mark, .text behind]
      | none => return .tuple [.text [], .text [], .text t]
  | "removeprefix" => do
    let part ← textArgument first fun kind => "removeprefix() argument must be str, not " ++ kind
    return .text (if part.isPrefixOf t then t.drop part.length else t)
  | "removesuffix" => do
    let part ← textArgument first fun kind => "removesuffix() argument must be str, not " ++ kind
    return .text (if !part.isEmpty && part.isSuffixOf t then t.take (t.length - part.length) else t)
  | "translate" => return .text (← translated first t)
  | "maketrans" => translation arguments
  | "zfill" => return .text (zeroFilled (← index first) t)
  | "center" => do
    let width ← index first
    return .text (centered width.toNat (← fillOf arguments) t)
  | "ljust" => do
    let width ← index first
    let fill ← fillOf arguments
    return .text (t ++ List.replicate (width - t.length).toNat fill)
  | "rjust" => do
    let width ← index first
    let fill ← fillOf arguments
    return .text (List.replicate (width - t.length).toNat fill ++ t)
  | "replace" => do
    let part (place : Nat) : Act Text := textArgument (argument arguments place) fun kind =>
      "replace() argument " ++ decimal (place + 1) ++ " must be str, not " ++ kind
    let old ← part 0
    let new ← part 1
    let limit ← match arguments[2]? with
      | some v => index v
      | none => pure (-1)
    return .text (replaceSome old new (limitOf limit t.length) t)
  | "count" => do
    let part ← sought
    match ← span (arguments.drop 1) t.length with
    | some place => return .integer (occurrences part (partOf t place))
    | none => return .integer 0
  | "find" => return .integer ((← found? t (← sought) (arguments.drop 1) false).map Int.ofNat |>.getD (-1))
  | "rfind" => return .integer ((← found? t (← sought) (arguments.drop 1) true).map Int.ofNat |>.getD (-1))
  | "index" => do
    match ← found? t (← sought) (arguments.drop 1) false with
    | some place => return .integer place
    | none => valueError "substring not found"
  | "rindex" => do
    match ← found? t (← sought) (arguments.drop 1) true with
    | some place => return .integer place
    | none => valueError "substring not found"
  | "startswith" => return .truth (← bordered t "startswith" true arguments)
  | "endswith" => return .truth (← bordered t "endswith" false arguments)
  | "encode" => do
    let slots ← parametersOf "encode" (parametric 0 "encoding errors") arguments named
    let part (place : Nat) (word instead : String) : Act Text := do
      match slots.getD place none with
      | none => return instead.toList
      | some v => textArgument v fun kind =>
          "encode() argument '" ++ word.toList ++ "' must be str, not " ++ kind
    let encoding ← part 0 "encoding" "utf-8"
    return .bytes (← encoded t encoding (← part 1 "errors" "strict"))
  | "expandtabs" => do
    let slots ← parametersOf "expandtabs" (parametric 0 "tabsize") arguments named
    return .text (expandTabs (← index (slotOr slots 0 (.integer 8))).toNat 0 t)
  | "split" => do
    let slots ← parametersOf "split" (parametric 0 "sep maxsplit") arguments named
    let found ← pieces t false (slotOr slots 0 .nothing) (slotOr slots 1 (.integer (-1)))
    newList (Value.texts found)
  | "rsplit" => do
    let slots ← parametersOf "rsplit" (parametric 0 "sep maxsplit") arguments named
    let found ← pieces t true (slotOr slots 0 .nothing) (slotOr slots 1 (.integer (-1)))
    newList (Value.texts found)
  | "splitlines" => do
    let slots ← parametersOf "splitlines" (parametric 0 "keepends") arguments named
    let keeps ← index (slotOr slots 0 (.integer 0))
    newList (Value.texts (cutLines isLineBreak (keeps != 0) t))
  | _ => noAttribute (.text t) name

/-! The methods of bytes, which texts of ASCII letters share, and those that change an array of bytes. -/

def bytesTakings : List (Taking × List Text) := [
  (.nothing, words <|
    "capitalize clear copy isalnum isalpha isascii isdigit islower isspace istitle isupper lower " ++
    "reverse swapcase title upper"),
  (.single, words "append extend fromhex join partition remove removeprefix removesuffix rpartition zfill"),
  (.between 0 1, words "lstrip pop rstrip strip"),
  (.between 1 2, words "center ljust rjust"),
  (.between 2 2, words "insert maketrans"),
  (.between 2 3, words "replace"),
  (.counted 1 3, words "count endswith find index rfind rindex startswith")]

def isBlankByte (c : Char) : Bool := c == ' ' || ('\t' ≤ c && c ≤ '\r')

def isBreakByte (c : Char) : Bool := c == '\n' || c == '\r'

def notBytes {α : Type} (v : Value) : Act α := do
  typeError ("a bytes-like object is required, not '" ++ (← kindName v) ++ ['\x27'])

def bytesArgument (v : Value) : Act Text := do
  match ← bytes? v with
  | some t => return t
  | none => notBytes v

/-- What is sought among bytes: other bytes, or one by its number. -/
def soughtBytes (v : Value) : Act Text := do
  match ← bytes? v with
  | some t => return t
  | none => do
    match ← index? v with
    | some n =>
      if 0 ≤ n && n < 256 then return [Char.ofNat n.toNat] else valueError "byte must be in range(0, 256)"
    | none => typeError ("argument should be integer or bytes-like object, not '" ++ (← kindName v) ++
        ['\x27'])

def digitOf? (c : Char) : Option Nat :=
  if c.isDigit then some (c.toNat - '0'.toNat)
  else if 'a' ≤ c && c ≤ 'f' then some (c.toNat - 'a'.toNat + 10)
  else if 'A' ≤ c && c ≤ 'F' then some (c.toNat - 'A'.toNat + 10)
  else none

/-- The bytes that hexadecimal digits spell, two for each; blanks may stand between. -/
def ofHexadecimal (place : Nat) (found : Text) : Text → Act Text
  | [] => return found.reverse
  | [c] =>
    if isBlankByte c then return found.reverse
    else
      let place := if (digitOf? c).isSome then place + 1 else place
      valueError ("non-hexadecimal number found in fromhex() arg at position " ++ decimal place)
  | a :: b :: t =>
    if isBlankByte a then ofHexadecimal (place + 1) found (b :: t)
    else
      match digitOf? a, digitOf? b with
      | some m, some n => ofHexadecimal (place + 2) (Char.ofNat (m * 16 + n) :: found) t
      | some _, none =>
        valueError ("non-hexadecimal number found in fromhex() arg at position " ++ decimal (place + 1))
      | none, _ =>
        valueError ("non-hexadecimal number found in fromhex() arg at position " ++ decimal place)

def hexadecimalOf (t : Text) (mark : Option Char) (size : Int) : Text :=
  let digits := t.map fun c => hexadecimal 2 c.toNat
  match mark with
  | none => digits.flatten
  | some mark =>
    let group := size.natAbs
    if group == 0 then digits.flatten
    else
      let first := if 0 < size then digits.length % group else 0
      let pieces (k : Nat) : Bool := k != 0 && (k + group - first) % group == 0
      (digits.zipIdx.map fun (d, k) => if pieces k then mark :: d else d).flatten

def titledBytes : Bool → Text → Text
  | _, [] => []
  | isInside, c :: t => (if isInside then c.toLower else c.toUpper) :: titledBytes c.isAlpha t

def titledFits : Bool → Text → Bool
  | _, [] => true
  | isInside, c :: t =>
    if c.isUpper then !isInside && titledFits true t
    else if c.isLower then isInside && titledFits true t
    else titledFits false t

def foundBytes? (t : Text) (arguments : List Value) (isLast : Bool) : Act (Option Nat) := do
  found? t (← soughtBytes (argument arguments 0)) (arguments.drop 1) isLast

def borderedBytes (t : Text) (name : String) (isStart : Bool) (arguments : List Value) : Act Bool := do
  let place ← span (arguments.drop 1) t.length
  let fits (part : Text) : Bool :=
    match place.map (partOf t) with
    | some inside => if isStart then part.isPrefixOf inside else part.isSuffixOf inside
    | none => false
  match ← plain (argument arguments 0) with
  | .tuple parts => parts.anyM fun part => return fits (← bytesArgument part)
  | v => do
    match ← bytes? v with
    | some part => return fits part
    | none =>
      typeError (name.toList ++ " first arg must be bytes or a tuple of bytes, not " ++ (← kindName v))

/-- What a method that only reads bytes gives; `made` makes bytes of the same class. -/
def bytesMethod (owner : Value) (kind t : Text) (name : Text) (arguments : List Value) (named : Named) :
    Act Value := do
  let full : Text := kind ++ '.' :: name
  let isNaming := ["decode", "expandtabs", "hex", "rsplit", "split", "splitlines", "translate"].any
    fun (n : String) => name == n.toList
  checkCall (takingIn bytesTakings name) isNaming full name arguments named
  let made (t : Text) : Act Value :=
    if kind == "bytearray" then make "bytearray" (.bytes t) else return .bytes t
  let listed (ts : List Text) : Act Value := do newList (← ts.mapM made)
  let first := argument arguments 0
  let class_ (p : Char → Bool) : Value := .truth (!t.isEmpty && t.all p)
  let cased (right wrong : Char → Bool) : Value := .truth (t.any right && !t.any wrong)
  let stripped (fromStart fromEnd : Bool) : Act Value := do
    let p : Char → Bool ← if first.isNothing then pure isBlankByte else
      pure (← bytesArgument first).contains
    let t := if fromStart then t.dropWhile p else t
    made (if fromEnd then dropEnd p t else t)
  let fill : Act Char := do
    match arguments[1]? with
    | none => return ' '
    | some v =>
      match ← bytes? v with
      | some [c] => return c
      | _ => typeError (name ++ "() argument 2 must be a byte string of length 1, not " ++ (← kindName v))
  match String.ofList name with
  | "capitalize" =>
    match t with
    | c :: rest => made (c.toUpper :: rest.map Char.toLower)
    | [] => made []
  | "lower" => made (t.map Char.toLower)
  | "upper" => made (t.map Char.toUpper)
  | "title" => made (titledBytes false t)
  | "swapcase" => made (t.map fun c => if c.isUpper then c.toLower else c.toUpper)
  | "isalnum" => return class_ Char.isAlphanum
  | "isalpha" => return class_ Char.isAlpha
  | "isascii" => return .truth (t.all Letter.isAscii)
  | "isdigit" => return class_ Char.isDigit
  | "isspace" => return class_ isBlankByte
  | "isupper" => return cased Char.isUpper Char.isLower
  | "islower" => return cased Char.isLower Char.isUpper
  | "istitle" => return .truth (t.any Char.isAlpha && titledFits false t)
  | "strip" => stripped true true
  | "lstrip" => stripped true false
  | "rstrip" => stripped false true
  | "decode" => do
    let slots ← parametersOf "decode" (parametric 0 "encoding errors") arguments named
    let part (place : Nat) (word instead : String) : Act Text := do
      match slots.getD place none with
      | none => return instead.toList
      | some v => textArgument v fun kind =>
          "decode() argument '" ++ word.toList ++ "' must be str, not " ++ kind
    let encoding ← part 0 "encoding" "utf-8"
    return .text (← decoded t encoding (← part 1 "errors" "strict"))
  | "hex" => do
    let slots ← parametersOf "hex" (parametric 0 "sep bytes_per_sep") arguments named
    let mark ← match slots.getD 0 none with
      | none => pure none
      | some v =>
        match ← plain v with
        | .text [c] | .bytes [c] => pure (some c)
        | .text _ | .bytes _ => valueError "sep must be length 1."
        | _ => typeError "sep must be str or bytes."
    return .text (hexadecimalOf t mark (← index (slotOr slots 1 (.integer 1))))
  | "fromhex" => do
    match ← plain first with
    | .text t => made (← ofHexadecimal 0 [] t)
    | _ => typeError ("fromhex() argument must be str, not " ++ (← givenName first))
  | "join" => do
    let items ← match ← readyItems? first with
      | some items => pure items
      | none => do
        let it ← rescue "TypeError" (iterator first) fun _ => typeError "can only join an iterable"
        rest it itemLimit #[]
    let parts ← items.zipIdx.mapM fun (item, place) => do
      match ← bytes? item with
      | some t => return t
      | none =>
        typeError ("sequence item " ++ decimal place ++ ": expected a bytes-like object, " ++
          (← kindName item) ++ " found")
    made (join t parts)
  | "partition" => do
    let mark ← bytesArgument first
    if mark.isEmpty then valueError "empty separator"
    else
      let (before, middle, behind) := match around? mark t with
        | some (before, behind) => (before, mark, behind)
        | none => (t, [], [])
      return .tuple [← made before, ← made middle, ← made behind]
  | "rpartition" => do
    let mark ← bytesArgument first
    if mark.isEmpty then valueError "empty separator"
    else
      let (before, middle, behind) := match aroundLast? mark t with
        | some (before, behind) => (before, mark, behind)
        | none => ([], [], t)
      return .tuple [← made before, ← made middle, ← made behind]
  | "removeprefix" => do
    let part ← bytesArgument first
    made (if part.isPrefixOf t then t.drop part.length else t)
  | "removesuffix" => do
    let part ← bytesArgument first
    made (if !part.isEmpty && part.isSuffixOf t then t.take (t.length - part.length) else t)
  | "translate" => do
    let slots ← parametersOf "translate" (parametric 1 "table / delete") arguments named
    let gone ← match slots.getD 1 none with
      | some v => bytesArgument v
      | none => pure []
    let left := t.filter fun c => !gone.contains c
    match slotOr slots 0 .nothing with
    | .nothing => made left
    | v => do
      let table := (← bytesArgument v).toArray
      if table.size != 256 then valueError "translation table must be 256 characters long"
      else made (left.map fun c => table.getD c.toNat c)
  | "maketrans" => do
    let old ← bytesArgument first
    let new ← bytesArgument (argument arguments 1)
    if old.length != new.length then valueError "maketrans arguments must have same length"
    else
      let all := (List.range 256).map Char.ofNat
      return .bytes (all.map fun c => ((old.zip new).reverse.lookup c).getD c)
  | "zfill" => do made (zeroFilled (← index first) t)
  | "center" => do
    let width ← index first
    made (centered width.toNat (← fill) t)
  | "ljust" => do
    let width ← index first
    made (t ++ List.replicate (width - t.length).toNat (← fill))
  | "rjust" => do
    let width ← index first
    made (List.replicate (width - t.length).toNat (← fill) ++ t)
  | "replace" => do
    let old ← bytesArgument first
    let new ← bytesArgument (argument arguments 1)
    let limit ← match arguments[2]? with
      | some v => index v
      | none => pure (-1)
    made (replaceSome old new (limitOf limit t.length) t)
  | "count" => do
    let part ← soughtBytes first
    match ← span (arguments.drop 1) t.length with
    | some place => return .integer (occurrences part (partOf t place))
    | none => return .integer 0
  | "find" => return .integer ((← foundBytes? t arguments false).map Int.ofNat |>.getD (-1))
  | "rfind" => return .integer ((← foundBytes? t arguments true).map Int.ofNat |>.getD (-1))
  | "index" => do
    match ← foundBytes? t arguments false with
    | some place => return .integer place
    | none => valueError "subsection not found"
  | "rindex" => do
    match ← foundBytes? t arguments true with
    | some place => return .integer place
    | none => valueError "subsection not found"
  | "startswith" => return .truth (← borderedBytes t "startswith" true arguments)
  | "endswith" => return .truth (← borderedBytes t "endswith" false arguments)
  | "expandtabs" => do
    let slots ← parametersOf "expandtabs" (parametric 0 "tabsize") arguments named
    made (expandTabs (← index (slotOr slots 0 (.integer 8))).toNat 0 t)
  | "split" | "rsplit" => do
    let slots ← parametersOf name (parametric 0 "sep maxsplit") arguments named
    let isLast := name == "rsplit"
    let limit := limitOf (← index (slotOr slots 1 (.integer (-1)))) t.length
    match slotOr slots 0 .nothing with
    | .nothing =>
      listed (if isLast then cutWordsFromEnd isBlankByte limit t else cutWords isBlankByte limit t)
    | v => do
      let mark ← bytesArgument v
      if mark.isEmpty then valueError "empty separator"
      else listed (if isLast then cutFromEnd mark limit t else cut mark limit t)
  | "splitlines" => do
    let slots ← parametersOf "splitlines" (parametric 0 "keepends") arguments named
    listed (cutLines isBreakByte ((← index (slotOr slots 0 (.integer 0))) != 0) t)
  | _ => changing
where
  /-- The methods that change an array of bytes. -/
  changing : Act Value := do
    match owner with
    | .object place => do
      let first := argument arguments 0
      match String.ofList name with
      | "append" => do
        setBody place (.bytes (t ++ [← byteOf first]))
        return .nothing
      | "extend" => do
        let more ← match ← bytes? first with
          | some t => pure t
          | none => do (← itemsOf first).mapM byteOf
        setBody place (.bytes (t ++ more))
        return .nothing
      | "insert" => do
        let n ← index first
        let c ← byteOf (argument arguments 1)
        let at_ := (max 0 (min (if n < 0 then n + t.length else n) t.length)).toNat
        setBody place (.bytes (t.take at_ ++ c :: t.drop at_))
        return .nothing
      | "pop" => do
        let n ← match arguments with
          | [] => pure (-1)
          | v :: _ => index v
        if t.isEmpty then fail "IndexError" "pop from empty bytearray"
        else
          match placeOf n t.length with
          | none => fail "IndexError" "pop index out of range"
          | some at_ => do
            setBody place (.bytes (t.eraseIdx at_))
            return .integer ((t[at_]?).getD ' ').toNat
      | "remove" => do
        let c ← byteOf first
        if t.contains c then
          setBody place (.bytes (t.erase c))
          return .nothing
        else valueError "value not found in bytearray"
      | "reverse" => do
        setBody place (.bytes t.reverse)
        return .nothing
      | "clear" => do
        setBody place (.bytes [])
        return .nothing
      | "copy" => make "bytearray" (.bytes t)
      | _ => noAttribute owner name
    | _ => noAttribute owner name

end Forwarding.Script.Act
