import Forwarding.Script.Grammar.Expressions
import Forwarding.Script.Grammar.Faults
import Forwarding.Script.Grammar.Statements
import Forwarding.Script.Lexer
import Std.Data.HashMap

/-! The grammar of scripts, and putting words together by its rules. -/

set_option autoImplicit false

namespace Forwarding.Script

namespace Rule

def definition (r : Rule) : Definition :=
  open Grammar in
  (operators r <|> displays r <|> targets r <|> simpleStatements r <|> compoundStatements r <|>
    parameterLists r <|> patterns r <|> expressionFaults r <|> argumentFaults r <|>
    statementFaults r <|> blockFaults r <|> parameterFaults r <|> patternFaults r).getD ⟨[], []⟩

/-- Whether what a rule gives at a place is remembered, whatever is being looked for there. -/
def isRemembered (r : Rule) : Bool :=
  match r with
  | .simpleStatement | .block | .expression | .starExpression | .disjunction | .conjunction
  | .inversion | .factor | .awaited | .strings | .arguments | .starTarget | .itemTarget
  | .deleteTarget | .closedPattern | .starPattern | .namedExpressionFault
  | .bitwiseOr | .bitwiseXor | .bitwiseAnd | .shift | .addition | .multiplication | .primary
  | .targetPrimary | .dottedName | .dottedValue => true
  | _ => false

end Rule

end Forwarding.Script

/-! Putting the words of a script together by the rules of its grammar.

A script is read at first without the descriptions of faults. If it does not fit, it is read again with
them, and the first description that fits tells the fault; where none does, the fault is at the
furthest word that the first reading has seen. A place where the text cannot be cut into words takes
precedence, even if it is further on.
-/

namespace Forwarding.Script

open Text

/-- The words of a script and how strings are understood. -/
structure Source where
  tokens : Tokens
  /-- The tree of strings that follow each other; the line is that of the furthest word seen. -/
  strings : List Token → Nat → Except Fault Tree
  /-- How the reasons of faults are told. -/
  telling : Fault.Reason → Fault.Reason := id

/-- What is known while a script is read. -/
structure Reading where
  memory : Std.HashMap (Rule × Nat) (Option (Tree × Nat)) := {}
  /-- How many tokens have been looked at. -/
  seen : Nat := 0

/-- Why reading ends at once. -/
structure Stop where
  fault : Fault
  /-- Whether the text cannot be cut into words here. -/
  isLexical : Bool
  seen : Nat

abbrev Reader (α : Type) := StateT Reading (Except Stop) α

namespace Source

variable (s : Source)

def lineAt (seen : Nat) : Nat :=
  match s.tokens.tokens[seen - 1]? with
  | some token => token.line
  | none =>
    match s.tokens.interruption with
    | some interruption => interruption.fault.line
    | none => (s.tokens.tokens.back?.map (·.line)).getD 0

/-- The token at a place. Behind the last token there is nothing but the end. -/
def look (place : Nat) : Reader Token := do
  modify fun r => { r with seen := max r.seen (place + 1) }
  match s.tokens.tokens[place]? with
  | some token => return token
  | none =>
    match s.tokens.interruption with
    | none => return ⟨.finish, [], s.lineAt 0, 0⟩
    | some interruption =>
      let reason := interruption.fault.reason
      let told := if interruption.isDecisive then reason else s.telling reason
      throw ⟨⟨told, interruption.fault.line⟩, true, place + 1⟩

def stop {α : Type} (reason : Fault.Reason) (line : Nat) : Reader α := do
  throw ⟨⟨s.telling reason, line⟩, false, (← get).seen⟩

/-- Whether reading some items has come to their end. -/
inductive Step where
  | fits (parts : List Tree) (place : Nat)
  | differs (isCommitted : Bool)

def readToken (place : Nat) (isKept : Bool) (test : Token → Bool) :
    Reader (Option (List Tree × Nat)) := do
  let token ← s.look place
  return if test token then some (if isKept then [.leaf token] else [], place + 1) else none

/-- The tree for the parts of an alternative, none where a description of a fault does not apply. -/
def conclude (outcome : Outcome) (line : Nat) (parts : List Tree) : Reader (Option Tree) := do
  match outcome with
  | .node form => return some (.node form line parts)
  | .same => return some (.bundle parts)
  | .literal =>
    let seen := (← get).seen
    let tokens := (Tree.elementsOf parts).filterMap fun
      | .leaf token => some token
      | _ => none
    match s.strings tokens (s.lineAt seen) with
    | .ok tree => return some tree
    | .error fault => throw ⟨fault, false, seen⟩
  | .verdict judge =>
    match judge parts with
    | .acquitted => return none
    | .guilty reason line => s.stop reason (line.getD (s.lineAt (← get).seen))

mutual

/-- Reads by a rule from a place on. The first number bounds the depth. -/
def rule (explains : Bool) : Nat → Rule → Nat → Reader (Option (Tree × Nat))
  | 0, _, _ => s.stop (.mistake .other) 0
  | fuel + 1, r, place => do
    let memory := (← get).memory
    match if r.isRemembered then memory[(r, place)]? else none with
    | some known => return known
    | none =>
      let d := r.definition
      let explains := explains && r != .plainExpression
      let line := (← s.look place).line
      let found ← alternatives explains fuel d.alternatives place line
      let found ← match found, d.tails with
        | none, _ | _, [] => pure found
        | some (tree, next), tails => do pure (some (← grow explains fuel tails tails tree next line))
      if r.isRemembered then
        modify fun reading => { reading with memory := reading.memory.insert (r, place) found }
      return found

def alternatives (explains : Bool) :
    Nat → List Alternative → Nat → Nat → Reader (Option (Tree × Nat))
  | 0, _, _, _ => s.stop (.mistake .other) 0
  | _, [], _, _ => return none
  | fuel + 1, a :: more, place, line => do
    if a.isFault && !explains then alternatives explains fuel more place line
    else
      match ← items explains fuel a.items place false [] with
      | .fits parts next =>
        return (← s.conclude a.outcome line parts).map fun tree => (tree, next)
      | .differs true => return none
      | .differs false => alternatives explains fuel more place line

def grow (explains : Bool) :
    Nat → List Alternative → List Alternative → Tree → Nat → Nat → Reader (Tree × Nat)
  | 0, _, _, _, _, _ => s.stop (.mistake .other) 0
  | _, _, [], tree, place, _ => return (tree, place)
  | fuel + 1, all, a :: more, tree, place, line => do
    match ← items explains fuel a.items place false [] with
    | .fits parts next =>
      match ← s.conclude a.outcome line (tree :: parts) with
      | some larger => grow explains fuel all all larger next line
      | none => return (tree, place)
    | .differs _ => grow explains fuel all more tree place line

/-- Reads items one after the other; the parts so far are in reverse. -/
def items (explains : Bool) : Nat → List Item → Nat → Bool → List Tree → Reader Step
  | 0, _, _, _, _ => s.stop (.mistake .other) 0
  | _, [], place, _, parts => return .fits parts.reverse place
  | fuel + 1, .commit :: more, place, _, parts => items explains fuel more place true parts
  | fuel + 1, i :: more, place, isCommitted, parts => do
    match ← item explains fuel i place with
    | some (trees, next) => items explains fuel more next isCommitted (trees.reverse ++ parts)
    | none => return .differs isCommitted

/-- Reads an item: the trees that it makes, and the place behind it. -/
def item (explains : Bool) : Nat → Item → Nat → Reader (Option (List Tree × Nat))
  | 0, _, _ => s.stop (.mistake .other) 0
  | fuel + 1, i, place => do
    match i with
    | .word text => s.readToken place false fun token => token.isWord text
    | .kept text => s.readToken place true fun token => token.isWord text
    | .token kind =>
      s.readToken place (kind == .number || kind == .literal) fun token => token.kind == kind
    | .name => s.readToken place true Token.isFreeName
    | .softName =>
      s.readToken place true fun token =>
        token.kind == .name && softWords.any fun word => token.text.isPrefixOf word
    | .rule r => return (← rule explains fuel r place).map fun (tree, next) => ([tree], next)
    | .optional i =>
      match ← item explains fuel i place with
      | some (trees, next) => return some ([.group trees], next)
      | none => return some ([.group []], place)
    | .many i =>
      let (trees, next) ← repeated explains fuel i [] place []
      return some ([.group trees], next)
    | .several i =>
      match ← repeated explains fuel i [] place [] with
      | ([], _) => return none
      | (trees, next) => return some ([.group trees], next)
    | .separated separator i =>
      match ← item explains fuel i place with
      | none => return none
      | some (trees, next) =>
        let (more, next) ← repeated explains fuel i separator next []
        return some ([.group (trees ++ more)], next)
    | .sequence is =>
      match ← items explains fuel is place false [] with
      | .fits parts next => return some ([.bundle parts], next)
      | .differs _ => return none
    | .oneOf is => firstOf explains fuel is place
    | .ahead i => return (← item explains fuel i place).map fun _ => ([], place)
    | .notAhead i =>
      return if (← item explains fuel i place).isNone then some ([], place) else none
    | .commit => return some ([], place)
    | .required text =>
      let token ← s.look place
      if token.isWord text then return some ([], place + 1)
      else s.stop (.expected ('\x27' :: text ++ ['\x27'])) token.line
    | .insideBrackets =>
      let depth := (s.tokens.tokens[place - 1]?.map (·.depth)).getD 0
      return if depth == 0 then none else some ([], place)

def firstOf (explains : Bool) : Nat → List Item → Nat → Reader (Option (List Tree × Nat))
  | 0, _, _ => s.stop (.mistake .other) 0
  | _, [], _ => return none
  | fuel + 1, i :: more, place => do
    match ← item explains fuel i place with
    | some found => return some found
    | none => firstOf explains fuel more place

/-- Reads an item as often as it fits, each time behind a separator if there is one. -/
def repeated (explains : Bool) :
    Nat → Item → Text → Nat → List Tree → Reader (List Tree × Nat)
  | 0, _, _, _, _ => s.stop (.mistake .other) 0
  | fuel + 1, i, separator, place, trees => do
    let isSeparated ← if separator.isEmpty then pure true
      else do pure ((← s.look place).isWord separator)
    if !isSeparated then return (trees.reverse, place)
    else
      match ← item explains fuel i (if separator.isEmpty then place else place + 1) with
      | none => return (trees.reverse, place)
      | some (more, next) =>
        if next ≤ place then return (trees.reverse, place)
        else repeated explains fuel i separator next (more.reverse ++ trees)

end

/-- The fault of a text: where the text cannot be cut into words, that counts before what does not fit.
An open bracket counts if it is on a line before the furthest word seen. -/
def precedence (fault : Fault) (seen : Nat) : Fault :=
  match s.tokens.interruption with
  | none => fault
  | some interruption =>
    if interruption.isDecisive then interruption.fault
    else
      match interruption.opened with
      | (opening, line) :: _ =>
        if line < s.lineAt seen then ⟨s.telling (.neverClosed opening), line⟩ else fault
      | [] => fault

def Stop.settle (stop : Stop) : Fault :=
  if stop.isLexical then stop.fault else s.precedence stop.fault stop.seen

def tree (start : Rule) : Except Fault Tree :=
  let fuel := 200 * s.tokens.tokens.size + 4000
  match (s.rule false fuel start 0).run {} with
  | .error stop => .error (Stop.settle s stop)
  | .ok (some (tree, _), _) => .ok tree
  | .ok (none, reading) =>
    match (s.rule true fuel start 0).run { seen := reading.seen } with
    | .error stop => .error (Stop.settle s stop)
    | .ok (_, again) =>
      let line := s.lineAt reading.seen
      let kind : Option Token.Kind := s.tokens.tokens[reading.seen - 1]?.map (·.kind)
      match kind with
      | some .indent => .error ⟨s.telling (.mistake .unexpectedIndent), line⟩
      | some .dedent => .error ⟨s.telling (.mistake .unexpectedUnindent), line⟩
      | _ => .error (s.precedence ⟨s.telling (.mistake .other), line⟩ again.seen)

end Source

end Forwarding.Script
