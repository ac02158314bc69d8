import Forwarding.Proofs.Table.Line
import Forwarding.Proofs.Text.Join
import Forwarding.Script.Basic

/-! Modules of regular form are read back from their lines.

The names on a line end where another character follows, so that the lines that a function is written on are read
as that function. What makes this work is that its names are names, and that its document string ends where it
should.
-/

set_option autoImplicit false

namespace Forwarding

open Text

namespace Script

/-! ### The names on a line -/

theorem word_append {name t : Text} (all : ∀ c ∈ name, isIdentifierRest c = true)
    (ends : ∀ c, t.head? = some c → isIdentifierRest c = false) : word (name ++ t) = (name, t) := by
  rw [word, List.takeWhile_append_of_pos all, List.dropWhile_append_of_pos all]
  cases t with
  | nil => simp
  | cons c t => simp [ends c rfl]

theorem closedWords?_cons {c : Char} {t first rest : Text} {words : List Text} (kind : isIdentifierRest c = true)
    (read : closedWords? t = some (first :: words, rest)) :
    closedWords? (c :: t) = some ((c :: first) :: words, rest) := by
  rw [closedWords?]
  · simp [read, kind]
  · rintro rfl
    revert kind
    decide
  · rintro _ rfl
    cases (show isIdentifierRest ',' = false from rfl).symm.trans kind

theorem closedWords?_append {name t first rest : Text} {words : List Text}
    (all : ∀ c ∈ name, isIdentifierRest c = true) (read : closedWords? t = some (first :: words, rest)) :
    closedWords? (name ++ t) = some ((name ++ first) :: words, rest) := by
  induction name with
  | nil => exact read
  | cons c name ih =>
    rw [List.forall_mem_cons] at all
    exact closedWords?_cons all.1 (ih all.2)

/-- Names with commas between them, and a parenthesis behind them. -/
theorem closedWords?_join {names : List Text} (each : ∀ name ∈ names, Name name) (rest : Text) :
    closedWords? (join ", " names ++ ')' :: rest) = some (if names = [] then [[]] else names, rest) := by
  induction names with
  | nil => rfl
  | cons name names ih =>
    rw [List.forall_mem_cons] at each
    cases names with
    | nil =>
      have last : closedWords? (')' :: rest) = some ([[]], rest) := rfl
      simpa using closedWords?_append each.1.rest last
    | cons second more =>
      have cut : join ", " (name :: second :: more) ++ ')' :: rest =
          name ++ ',' :: ' ' :: (join ", " (second :: more) ++ ')' :: rest) := by
        rw [join_cons_cons, List.append_assoc, List.append_assoc]
        rfl
      -- A comma starts an empty word, to which the characters in front of it are added.
      have behind : closedWords? (',' :: ' ' :: (join ", " (second :: more) ++ ')' :: rest)) =
          some ([] :: second :: more, rest) := by
        rw [closedWords?, ih each.2]
        rfl
      rw [cut]
      simpa using closedWords?_append each.1.rest behind

theorem wordsInParentheses?_join {names : List Text} (each : ∀ name ∈ names, Name name) (mark : Text) :
    wordsInParentheses? ('(' :: (join ", " names ++ ')' :: mark)) mark = some names := by
  have opened : after? "(" ('(' :: (join ", " names ++ ')' :: mark)) = some (join ", " names ++ ')' :: mark) :=
    after?_append "(" _
  simp only [wordsInParentheses?, opened, closedWords?_join each, Option.bind_eq_bind, Option.bind_some]
  cases names with
  | nil => simp
  | cons name names =>
    have given := (each name List.mem_cons_self).given
    simp [given]

theorem name_of_isName {t : Text} (named : isName t = true) : Name t := by
  simp only [isName, Bool.and_eq_true] at named
  exact name_of_isIdentifierCore named.1.1

/-! ### The words of the language -/

theorem isKeyword_eq (word : Text) : isKeyword word = reservedWords.contains word := by
  have listed : ∀ word ∈ reservedWords, isKeyword word = true := by decide +kernel
  have known : ∀ word ∈ constantWords ++ expressionWords ++ statementWords, word ∈ reservedWords := by decide +kernel
  rw [Bool.eq_iff_iff, List.contains_iff_mem]
  exact ⟨fun keyword => known word (by simpa [isKeyword, or_assoc] using keyword), listed word⟩

theorem quoted_of_mem_reservedWords {word : Text} (reserved : word ∈ reservedWords) :
    quoted word = '\x27' :: word ++ ['\x27'] := by
  have all : ∀ word ∈ reservedWords, quoted word = '\x27' :: word ++ ['\x27'] := by decide +kernel
  exact all word reserved

/-- The call of a method mentions the method, between quotes if it is a word of the language. -/
theorem access_eq (method : Text) : access method =
    if reservedWords.contains method then "getattr(subject, '" ++ method ++ "')" else "subject." ++ method := by
  rw [access]
  split
  · next reserved =>
    rw [quoted_of_mem_reservedWords (List.contains_iff_mem.mp reserved)]
    simp
  · rfl

/-! ### Functions -/

namespace Function

variable {f : Function} {functions : List Function}

/-- What makes a function regular. -/
structure Named (f : Function) : Prop where
  symbol : Name f.symbol
  parameters : ∀ name ∈ f.parameters, Name name
  method : Name f.method
  passed : ∀ name ∈ f.passed, Name name

theorem named_of_isRegular (regular : f.isRegular = true) : f.Named := by
  simp only [isRegular, Bool.and_eq_true, List.all_eq_true, List.contains_iff_mem] at regular
  obtain ⟨⟨⟨⟨⟨symbol, parameters⟩, -⟩, method⟩, -⟩, passed⟩ := regular
  have names : ∀ name ∈ f.parameters, Name name := fun name member => name_of_isName (parameters name member)
  exact ⟨name_of_isName symbol, names, name_of_isIdentifierCore method,
    fun name member => names name (passed name member)⟩

theorem Named.ofHead? (named : f.Named) :
    ofHead? ("def " ++ f.symbol ++ "(" ++ join ", " ("subject" :: f.parameters) ++ "):") =
      some (f.symbol, f.parameters) := by
  have names : ∀ name ∈ "subject".toList :: f.parameters, Name name :=
    List.forall_mem_cons.mpr ⟨⟨by decide, by decide⟩, named.parameters⟩
  have cut : "def " ++ f.symbol ++ "(" ++ join ", " ("subject" :: f.parameters) ++ "):" =
      "def " ++ (f.symbol ++ '(' :: (join ", " ("subject".toList :: f.parameters) ++ ')' :: ":".toList)) := by
    simp
  have symbol := word_append (t := '(' :: (join ", " ("subject".toList :: f.parameters) ++ ')' :: ":".toList))
    named.symbol.rest fun c first => by cases first; rfl
  simp only [Function.ofHead?, cut, after?_append, Option.bind_eq_bind, Option.bind_some, symbol,
    wordsInParentheses?_join names, beq_self_eq_true, if_true]

theorem ofDocument?_of_isWritten (written : isWritten f.document = true) :
    ofDocument? ("    " ++ documentMark ++ f.document ++ documentMark) = some f.document := by
  simp only [isWritten, Bool.and_eq_true, beq_iff_eq] at written
  have opened : after? ("    " ++ tripleQuotes.text) ("    " ++ documentMark ++ f.document ++ documentMark) =
      some (f.document ++ documentMark) := by
    rw [List.append_assoc]
    exact after?_append _ _
  have closed : closed? tripleQuotes (f.document ++ documentMark) = some (f.document, []) := written.1.2
  simp only [ofDocument?, opened, Option.bind_eq_bind, Option.bind_some, closed]
  rfl

theorem Named.reached? (named : f.Named) (rest : Text) :
    reached? (access f.method ++ '(' :: rest) = some (f.method, '(' :: rest) := by
  -- A word of the language cannot stand behind the point, and is given in quotes.
  rw [access_eq, Function.reached?]
  by_cases reserved : reservedWords.contains f.method
  · have cut : "getattr(subject, '" ++ f.method ++ "')" ++ '(' :: rest =
        "getattr(subject, '" ++ (f.method ++ ("')" ++ '(' :: rest)) := by
      simp
    have method := word_append (t := "')" ++ '(' :: rest) named.method.rest fun c first => by cases first; rfl
    have other : after? "subject." ("getattr(subject, '" ++ (f.method ++ ("')" ++ '(' :: rest))) = none := rfl
    rw [if_pos reserved, cut, other]
    simp only [after?_append, Option.bind_eq_bind, Option.bind_some, method]
    rfl
  · have cut : "subject." ++ f.method ++ '(' :: rest = "subject." ++ (f.method ++ '(' :: rest) := by simp
    have method := word_append (t := '(' :: rest) named.method.rest fun c first => by cases first; rfl
    have free : isKeyword f.method = false := by simpa [isKeyword_eq] using reserved
    rw [if_neg reserved, cut, after?_append]
    simp only [method, free, Bool.false_eq_true, if_false]

theorem Named.ofBody? (named : f.Named) :
    ofBody? ("    return " ++ access f.method ++ "(" ++ join ", " f.passed ++ ")") = some (f.method, f.passed) := by
  have cut : "    return " ++ access f.method ++ "(" ++ join ", " f.passed ++ ")" =
      "    return " ++ (access f.method ++ '(' :: (join ", " f.passed ++ ')' :: [])) := by
    simp
  simp only [Function.ofBody?, cut, after?_append, Option.bind_eq_bind, Option.bind_some, named.reached?,
    wordsInParentheses?_join named.passed]
  rfl

theorem exists_lines (regular : f.isRegular = true) :
    ∃ head document body, f.lines = [[], [], head, document, body] ∧ ofLines? head document body = some f := by
  refine ⟨_, _, _, rfl, ?_⟩
  have named := named_of_isRegular regular
  have written : isWritten f.document = true := by
    simp only [isRegular, Bool.and_eq_true] at regular
    exact regular.1.2
  simp only [ofLines?, named.ofHead?, ofDocument?_of_isWritten written, named.ofBody?, Option.bind_eq_bind,
    Option.bind_some, regular, if_true]

end Function

/-! ### Modules -/

theorem itemsOf?_lines {symbols : List Text} (each : ∀ symbol ∈ symbols, Name symbol) :
    itemsOf? ((symbols.map fun symbol => ("    \"" ++ symbol ++ "\"," : Text)) ++ [[']'], []]) = some symbols := by
  induction symbols with
  | nil => rfl
  | cons symbol symbols ih =>
    rw [List.forall_mem_cons] at each
    have cut : "    \"" ++ symbol ++ "\"," = "    \"" ++ (symbol ++ "\",") := by simp
    have item := word_append (t := "\",") each.1.rest fun c first => by cases first; rfl
    rw [List.map_cons, List.cons_append, itemsOf?, cut, if_neg (by simp)]
    simp only [after?_append, Option.bind_eq_bind, Option.bind_some, item, ih each.2, beq_self_eq_true, if_true]
    rfl

theorem symbolsOf?_symbolLines {symbols : List Text} (each : ∀ symbol ∈ symbols, Name symbol) :
    symbolsOf? (symbolLines symbols ++ [[]]) = some symbols := by
  have read := itemsOf?_lines each
  simp only [symbolLines, List.cons_append, List.append_assoc, symbolsOf?]
  exact read

theorem functionsOf_symbolLines (symbols : List Text) :
    functionsOf (symbolLines symbols ++ [[]]) = ([], symbolLines symbols ++ [[]]) := by
  -- After two blank lines a function could follow, but the third line does not begin like one.
  have none : ∀ document body, Function.ofLines? "__all__ = [" document body = none := fun _ _ => rfl
  have long : ∀ listed : List Text, ∃ document body rest, listed ++ [[']'], []] = document :: body :: rest
    | [] => ⟨_, _, _, rfl⟩
    | [_] => ⟨_, _, _, rfl⟩
    | _ :: _ :: _ => ⟨_, _, _, rfl⟩
  obtain ⟨document, body, rest, parts⟩ := long (symbols.map fun symbol => "    \"" ++ symbol ++ "\",")
  have cut : symbolLines symbols ++ [[]] = [] :: [] :: "__all__ = [".toList :: document :: body :: rest := by
    rw [← parts]
    simp [symbolLines]
  rw [cut, functionsOf, none]

/-- Regular functions are read back, up to the lines that make none. -/
theorem functionsOf_append {functions : List Function} (regular : ∀ f ∈ functions, f.isRegular = true)
    {rest : List Text} (last : functionsOf rest = ([], rest)) :
    functionsOf (functions.flatMap Function.lines ++ rest) = (functions, rest) := by
  induction functions with
  | nil => exact last
  | cons f functions ih =>
    rw [List.forall_mem_cons] at regular
    obtain ⟨head, document, body, lines, read⟩ := Function.exists_lines regular.1
    rw [List.flatMap_cons, lines]
    simp only [List.cons_append, List.nil_append, functionsOf, read, ih regular.2]

def Regular.lines (m : Regular) : List Text :=
  documentMark :: m.document ++ documentMark :: (m.functions.flatMap Function.lines ++
    symbolLines (m.functions.map (·.symbol)))

/-- A module of regular form is read back from its lines. -/
theorem Regular.ofText?_ofLines {m : Regular} (document : ∀ line ∈ m.document, isLiteral line = true)
    (regular : ∀ f ∈ m.functions, f.isRegular = true) (plain : ∀ line ∈ m.lines, '\n' ∉ line) :
    ofText? (ofLines m.lines) = some m := by
  have mark : isLiteral documentMark = false := rfl
  let rest := m.functions.flatMap Function.lines ++ (symbolLines (m.functions.map (·.symbol)) ++ [[]])
  have read : pieces (ofLines m.lines) = documentMark :: (m.document ++ documentMark :: rest) := by
    rw [pieces_ofLines plain, lines]
    simp [rest]
  -- The mark has quotes in it, so that the document ends there.
  have literal : (m.document ++ documentMark :: rest).takeWhile isLiteral = m.document := by
    rw [List.takeWhile_append_of_pos document, List.takeWhile_cons_of_neg (by simp [mark]), List.append_nil]
  have functions : functionsOf rest = (m.functions, symbolLines (m.functions.map (·.symbol)) ++ [[]]) :=
    functionsOf_append regular (functionsOf_symbolLines _)
  have symbols : symbolsOf? (symbolLines (m.functions.map (·.symbol)) ++ [[]]) = some (m.functions.map (·.symbol)) :=
    symbolsOf?_symbolLines (List.forall_mem_map.mpr fun f member => (Function.named_of_isRegular (regular f member)).symbol)
  have behind : (m.document ++ documentMark :: rest).drop m.document.length = documentMark :: rest :=
    List.drop_left
  have quotes : tripleQuotes.text = documentMark := rfl
  rw [ofText?, read]
  simp only [literal, behind, functions, symbols, quotes, beq_self_eq_true, Bool.and_self, if_true]

end Script

end Forwarding
