import Forwarding.Script.Fault
import Forwarding.Text.Basic

/-! The words that a script is made of, and what it says, as trees. -/

set_option autoImplicit false

namespace Forwarding.Script

open Text

/-! ### Words of the language -/

def constantWords : List Text := words "None True False"

def expressionWords : List Text :=
  words "and or not in is if else lambda for async await yield from"

def statementWords : List Text :=
  words "as assert break class continue def del elif except finally global import nonlocal pass raise return" ++
    words "try while with"

def isKeyword (word : Text) : Bool :=
  constantWords.contains word || expressionWords.contains word || statementWords.contains word

def softWords : List Text := words "_ case match"

/-! ### Tokens -/

inductive Token.Kind where
  | name | number | literal | mark
  /-- The end of a line that says something. -/
  | newline
  /-- More or less indentation than on the line before. -/
  | indent | dedent
  /-- The end of the script. -/
  | finish
  deriving Repr, DecidableEq

structure Token where
  kind : Token.Kind
  text : Text
  /-- The line that the token starts on. -/
  line : Nat
  /-- How many brackets are open behind the token. -/
  depth : Nat
  deriving Repr, DecidableEq

def Token.isFreeName (t : Token) : Bool := t.kind == .name && !isKeyword t.text

def Token.isWord (t : Token) (text : Text) : Bool :=
  (t.kind == .name || t.kind == .mark) && t.text == text

/-! ### Trees

A node has the parts that carry meaning; words that only hold a form together are left out. Parts that
may be absent or repeated stand in a group.
-/

/-- What a node of a tree is. -/
inductive Form where
  -- Expressions.
  | both | either | opposite | comparison | compared | binary | unary | choice | naming
  | member | item | slice | call | keyword | starred | doubleStarred
  | tuple | list | set | dictionary | pair
  | listOf | setOf | dictionaryOf | generator | clause
  | function | yielding | yieldingFrom | awaiting | joined | field
  -- Parameters.
  | parameters | parameter | defaulted | starredParameter | doubleStarredParameter | bareStar | slash
  -- Statements.
  | evaluation | assignment | augmentation | annotated | returning | raising | passing | deletion
  | assertion | breaking | continuing | globals | nonlocals | importing | importingFrom | imported
  | everything | dotted
  | definition | classDefinition | decorators | conditional | loop | iteration | context
  | contextItem | attempt | handler | groupHandler | finally | otherwise | matching | matchCase
  -- Forms that other runs may come between.
  | asyncDefinition | asyncIteration | asyncContext | asyncClause
  -- Patterns that a subject is compared with.
  | literalPattern | capturePattern | wildcardPattern | valuePattern | orPattern | asPattern
  | sequencePattern | starredPattern | mappingPattern | keyPattern | restPattern
  | classPattern | keywordPattern
  | script
  deriving Repr, DecidableEq

/-- A value that stands in the text of a script. -/
inductive Constant where
  | text (t : Text)
  | bytes (t : Text)
  deriving Repr, DecidableEq

inductive Tree where
  | leaf (token : Token)
  | constant (line : Nat) (value : Constant)
  | node (form : Form) (line : Nat) (parts : List Tree)
  | group (parts : List Tree)
  deriving Repr

namespace Tree

def line : Tree → Nat
  | .leaf token => token.line
  | .constant line _ => line
  | .node _ line _ => line
  | .group (first :: _) => first.line
  | .group [] => 0

def form? : Tree → Option Form
  | .node form _ _ => some form
  | _ => none

def parts : Tree → List Tree
  | .node _ _ parts => parts
  | .group parts => parts
  | _ => []

def text : Tree → Text
  | .leaf token => token.text
  | _ => []

def isName : Tree → Bool
  | .leaf token => token.isFreeName
  | _ => false

mutual
def elements : Tree → List Tree
  | .group parts => elementsOf parts
  | tree => [tree]
def elementsOf : List Tree → List Tree
  | [] => []
  | tree :: more => elements tree ++ elementsOf more
end

def bundle : List Tree → Tree
  | [tree] => tree
  | trees => .group trees

end Tree

end Forwarding.Script
