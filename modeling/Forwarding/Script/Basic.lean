import Forwarding.Script.Function
import Forwarding.Script.Literal
import Forwarding.Script.Machine.Run
import Forwarding.Script.Tree
import Forwarding.Text.Identifier
import Forwarding.Text.Lines

/-! Modules of regular form: a document string, forwarding functions, and the list of their symbols.

Such a module need not be run to know what it defines. Each of its functions stands on three lines, which are read
from left to right: the names between the parentheses, the string that is its document, and the one call.
-/

set_option autoImplicit false

namespace Forwarding.Script

open Text

/-- Whether a text stands for itself between quotes. -/
def isLiteral (t : Text) : Bool := t.all fun c => c != '"' && c != '\\' && c != '\x00'

/-- Whether a script may give a value to a name. -/
def isName (t : Text) : Bool := isIdentifierCore t && !isKeyword t && t != "__debug__"

def tripleQuotes : Delimiter := ⟨'"', true⟩

/-- The name characters that a text starts with, and the text behind them. -/
def word (t : Text) : Text × Text := (t.takeWhile isIdentifierRest, t.dropWhile isIdentifierRest)

/-- Words with commas between them, and the text behind the parenthesis that closes them. -/
def closedWords? : Text → Option (List Text × Text)
  | [] => none
  | ')' :: rest => some ([[]], rest)
  | ',' :: ' ' :: rest => (closedWords? rest).map fun (words, rest) => ([] :: words, rest)
  | c :: rest =>
    match closedWords? rest with
    | some (first :: words, rest) => if isIdentifierRest c then some ((c :: first) :: words, rest) else none
    | _ => none

/-- The words in parentheses at the end of a line. There may be none. -/
def wordsInParentheses? (t : Text) (mark : Text) : Option (List Text) := do
  let (words, rest) ← closedWords? (← after? "(" t)
  if rest == mark then return if words == [[]] then [] else words
  none

namespace Function

/-- Whether the parts of a function define it: its names are names, its document is one string, and it passes on
nothing but its parameters. -/
def isRegular (f : Function) : Bool :=
  isName f.symbol && f.parameters.all isName && ("subject".toList :: f.parameters).Nodup &&
    isIdentifierCore f.method && isWritten f.document && f.passed.all f.parameters.contains

/-- The symbol and the parameters that the first line of a function gives. -/
def ofHead? (line : Text) : Option (Text × List Text) := do
  let (symbol, rest) := word (← after? "def " line)
  match ← wordsInParentheses? rest ":" with
  | subject :: parameters => if subject == "subject" then some (symbol, parameters) else none
  | [] => none

/-- The string that the second line consists of. -/
def ofDocument? (line : Text) : Option Text := do
  let (document, rest) ← closed? tripleQuotes (← after? ("    " ++ tripleQuotes.text) line)
  if rest.isEmpty then some document else none

/-- The method that an expression reaches from the subject, and the text behind it. -/
def reached? (t : Text) : Option (Text × Text) :=
  match after? "subject." t with
  | some rest =>
    let (method, rest) := word rest
    if isKeyword method then none else some (method, rest)
  | none => do
    let (method, rest) := word (← after? "getattr(subject, '" t)
    return (method, ← after? "')" rest)

/-- The method that the third line calls, and what is passed to it. -/
def ofBody? (line : Text) : Option (Text × List Text) := do
  let (method, rest) ← reached? (← after? "    return " line)
  return (method, ← wordsInParentheses? rest [])

/-- The function that three lines define. -/
def ofLines? (head document body : Text) : Option Function := do
  let (symbol, parameters) ← ofHead? head
  let document ← ofDocument? document
  let (method, passed) ← ofBody? body
  let f : Function := { symbol, parameters, document, method, passed }
  if f.isRegular then some f else none

end Function

/-- The functions that lines define, each behind two empty lines, and the lines behind them. -/
def functionsOf : List Text → List Function × List Text
  | [] :: [] :: head :: document :: body :: rest =>
    match Function.ofLines? head document body with
    | some f =>
      let (functions, last) := functionsOf rest
      (f :: functions, last)
    | none => ([], [] :: [] :: head :: document :: body :: rest)
  | lines => ([], lines)

/-- The words in quotes that lines list up to a bracket, behind which the text ends. -/
def itemsOf? : List Text → Option (List Text)
  | [] => none
  | line :: rest =>
    if line == "]" then if rest == [[]] then some [] else none
    else do
      let (symbol, mark) := word (← after? "    \"" line)
      if mark == "\"," then return symbol :: (← itemsOf? rest)
      none

/-- The symbols that the last lines of a module list. -/
def symbolsOf? : List Text → Option (List Text)
  | [] :: [] :: opening :: rest => if opening == "__all__ = [" then itemsOf? rest else none
  | _ => none

/-- A module of regular form. -/
structure Regular where
  document : List Text
  functions : List Function
  deriving Repr, DecidableEq

/-- The module of regular form with a text. -/
def Regular.ofText? (t : Text) : Option Regular :=
  match pieces t with
  | first :: rest =>
    let document := rest.takeWhile isLiteral
    match rest.drop document.length with
    | last :: rest =>
      let (functions, rest) := functionsOf rest
      if first == tripleQuotes.text && last == tripleQuotes.text &&
          symbolsOf? rest == some (functions.map (·.symbol)) then
        some { document, functions }
      else none
    | [] => none
  | [] => none

/-! Data that goes into scripts and comes out of them.

Data has no identity: it is turned into values, of which lists and dictionaries are objects that a script
can change, and read again when the script has come to its end.
-/

inductive Data where
  | nothing
  | truth (b : Bool)
  | integer (n : Int)
  | real (x : Float)
  | text (t : Text)
  | list (items : List Data)
  | dictionary (entries : List (Text × Data))
  deriving Repr, Inhabited

mutual

/-- The value of data. -/
def Data.kept : Data → Act Value
  | .nothing => return .nothing
  | .truth b => return .truth b
  | .integer n => return .integer n
  | .real x => return .real x
  | .text t => return .text t
  | .list items => do Act.newList (← Data.allKept items)
  | .dictionary entries => do Act.newDictionary (Dictionary.ofTexts (← Data.entriesKept entries))

def Data.allKept : List Data → Act (List Value)
  | [] => return []
  | d :: more => do
    let v ← d.kept
    return v :: (← Data.allKept more)

def Data.entriesKept : List (Text × Data) → Act (List (Text × Value))
  | [] => return []
  | (name, d) :: more => do
    let v ← d.kept
    return (name, v) :: (← Data.entriesKept more)

end

/-- The name of an entry whose key is no text. -/
def Data.nameOf : Value → Text
  | .text t => t
  | .nothing => "null"
  | .truth b => if b then "true" else "false"
  | .integer n => (toString n).toList
  | .real x => Floating.shown x
  | _ => []

/-- The data that a value stands for. The number bounds how deep values are kept in others. -/
def Data.ofValue : Nat → Value → Act Data
  | 0, _ => return .nothing
  | depth + 1, v => do
    match ← Act.plain v with
    | .truth b => return .truth b
    | .integer n => return .integer n
    | .real x => return .real x
    | .text t => return .text t
    | .tuple items => return .list (← items.mapM (ofValue depth))
    | inside => do
      match ← Act.bodyOf inside with
      | .list items => return .list (← items.toList.mapM (ofValue depth))
      | .dictionary d => do
        let entries ← d.toList.mapM fun e => do
          let key ← Act.plain e.key
          return (Data.nameOf key, ← ofValue depth e.item)
        return .dictionary entries
      | _ => return .nothing

end Forwarding.Script

/-! Loaded script modules: their names, what these stand for, and what calling them does.

The forwarding functions of a module of regular form are known without running anything. Whatever else a
module has is found by the machine that has run it.
-/

namespace Forwarding

open Text

/-- A loaded module: the forwarding functions that are known, and the machine as the module has left it. -/
structure Script where
  functions : List Script.Function := []
  state : Script.State

namespace Script

/-- The name of the list of symbols. -/
def listName : Text := "__all__"

/-- The names of every module. -/
def firstNames : List (Text × Value) :=
  [("__name__", .text "proxies"), ("__doc__", .nothing), ("__package__", .nothing),
    ("__loader__", .nothing), ("__spec__", .nothing), ("__file__", .text "<proxies>")]

/-- Where the machine keeps the names of the module, the module, and the names of the language. -/
def namesPlace : Nat := 1
def modulePlace : Nat := 2
def knownPlace : Nat := 3

/-- The names of the language with their values. -/
def knownNames : Dictionary :=
  let kinds : List Text := Kind.named ++ (Kind.aliases.map Prod.fst) ++
    ("BaseException".toList :: (Kind.errors.filter fun row => row.1 != "int".toList).flatMap Prod.snd)
  let names := words "__name__ __doc__ NotImplemented Ellipsis __debug__" ++ Kind.functions ++ kinds
  let found : List (Text × Value) :=
    names.filterMap fun name => (Kind.known? name).map fun v => (name, v)
  let constants : List (Text × Value) :=
    [("None", .nothing), ("True", .truth true), ("False", .truth false)]
  Dictionary.ofTexts (found ++ constants)

/-- A script without statements. -/
def emptyTemplate : Template := .mk "<module>" "<module>" 1 {} none [] .block []

/-- The objects of a machine before a module is run, which has some names already. -/
def firstObjects (names : Dictionary) : List Object := [
  ⟨.kind "scope", none, .scope #[] [] none⟩,
  ⟨.kind "dict", none, .dictionary names⟩,
  ⟨.kind "module", some namesPlace, .module⟩,
  ⟨.kind "dict", none, .dictionary knownNames⟩]

/-- The machine before a module is run. -/
def firstState (names : List (Text × Value)) : State :=
  let all := firstNames ++ [("__builtins__".toList, Value.object knownPlace)] ++ names
  { heap := (firstObjects (Dictionary.ofTexts all)).toArray
    frame := { code := [], scope := 0, shared := namesPlace, template := emptyTemplate, isBase := true } }

/-- A subject without methods. -/
def nobody : Subject := ⟨fun _ => false, fun method _ => .error (.noMethod method)⟩

/-- How deep the results of a module are looked into. -/
def dataDepth : Nat := 1000

/-- The class and the words of an error. -/
def describe (error : Value) : Act Raised := do
  let kind ← Act.kindName error
  let words ← Act.rescue "BaseException" (Act.printed error) fun _ => return []
  return .other kind words

/-- What an action on a machine gives, or the error that it ends with, and the machine afterwards. -/
def follow {α : Type} (s : State) (subject : Subject) (action : Act α) : Except Raised α × State :=
  let described : Act (Except Raised α) :=
    tryCatch (return .ok (← action)) fun halt =>
      match halt with
      | .raised error => return .error (← describe error)
      | .exhausted => return .error (.of "MemoryError" [])
  match (described.runWith subject).run s with
  | .ok outcome s => (outcome, s)
  | .error _ s => (.error (.of "MemoryError" []), s)

/-- The module with some functions, which are all of its symbols. -/
def ofRegular (m : Regular) : Script :=
  let document := join ['\n'] (([] :: m.document) ++ [[]])
  let functions : List (Text × Value) := m.functions.map fun f => (f.symbol, .forwarding f)
  let list := Act.newList (m.functions.map fun f => Value.text f.symbol)
  let (made, s) := follow (firstState []) nobody list
  let names : List (Text × Value) := [("__doc__".toList, .text document)] ++ functions ++ [(listName, made.toOption.getD .nothing)]
  let (_, s) := follow s nobody (Act.changeDictionary namesPlace fun d =>
    names.foldl (fun d entry => d.insertText entry.1 entry.2) d)
  { functions := (m.functions.filter fun f => f.symbol != listName).reverse, state := s }

/-- The forwarding function with a symbol, if it is known. -/
def function? (m : Script) (symbol : Text) : Option Function :=
  m.functions.find? fun f => f.symbol == symbol

/-- Keeps data in the machine of a module. -/
def keep (m : Script) (d : Data) : Value × Script :=
  let (kept, s) := follow m.state nobody d.kept
  (kept.toOption.getD .nothing, { m with state := s })

/-- The data that a value of a module stands for. -/
def dataOf (m : Script) (v : Value) : Data :=
  ((follow m.state nobody (Data.ofValue dataDepth v)).1.toOption).getD .nothing

/-- What calling a symbol of a module gives, the method calls on the way, and the module afterwards. -/
def run (m : Script) (symbol : Text) (subject : Subject) (arguments : List Value) :
    (Except Raised Value × List MethodCall) × Script :=
  match m.function? symbol with
  | some f => (f.call subject arguments, m)
  | none =>
    let (outcome, s) := follow { m.state with calls := [], given := none } subject do
      Act.call (← Act.readMember (.object modulePlace) symbol) (.subject :: arguments)
    ((outcome, s.calls.reverse), { m with state := s })

/-- What calling a symbol of a module gives, and the method calls on the way. -/
def call (m : Script) (symbol : Text) (subject : Subject) (arguments : List Value) :
    Except Raised Value × List MethodCall :=
  (m.run symbol subject arguments).1

/-- The document of what a symbol stands for. -/
def document (m : Script) (symbol : Text) : Except Raised Value :=
  match m.function? symbol with
  | some f => .ok (.text f.spoken)
  | none =>
    (follow m.state nobody do
      Act.readMember (← Act.readMember (.object modulePlace) symbol) "__doc__").1

/-- The symbols that a module lists, with the document of what each of them stands for. -/
def documents (m : Script) : Except Raised (List (Value × Value)) × Script :=
  let (outcome, s) := follow m.state nobody do
    (← Act.itemsOf (← Act.readMember (.object modulePlace) listName)).mapM fun symbol => do
      let v ← Act.callBuiltin "getattr" [.object modulePlace, symbol]
      return (symbol, ← Act.readMember v "__doc__")
  (outcome, { m with state := s })

/-- Runs the code of a module. -/
def ofTemplate (t : Template) : Except Raised Script :=
  let document := Value.ofOption (t.document.map .text)
  let (outcome, s) := follow (firstState [("__doc__", document)]) nobody do
    let frame := (← get).frame
    let _ ← Act.perform (.block { frame with code := t.code, template := t })
    Act.callBuiltin "len" [← Act.readMember (.object modulePlace) listName]
  outcome.map fun _ => { state := s }

end Script

end Forwarding
