import Forwarding.Manifest
import Forwarding.Proofs.Rendition.Rows
import Forwarding.Proofs.Script.Regular
import Forwarding.Rendition.Template

/-! The renditions of one table list the same functions.

Of all lines of a rendition, whatever includes, aliases, headings and types it is made from, those that start a
function are told by their first word: `renditions_agree` lists them, row by row.
-/

set_option autoImplicit false

namespace Forwarding

open Text

/-! ### Lines with a mark -/

namespace Text

def starting (mark : Text) : List Text → List (List Text)
  | [] => []
  | line :: rest =>
    if mark.isPrefixOf line then (line :: rest) :: starting mark rest else starting mark rest

variable {mark : Text} {lines : List Text}

theorem starting_append_of_forall (none : ∀ line ∈ lines, ¬ mark <+: line) (more : List Text) :
    starting mark (lines ++ more) = starting mark more := by
  induction lines with
  | nil => rfl
  | cons line lines ih =>
    rw [List.forall_mem_cons] at none
    rw [List.cons_append, starting, if_neg (by simpa using none.1), ih none.2]

theorem starting_eq_nil (none : ∀ line ∈ lines, ¬ mark <+: line) : starting mark lines = [] := by
  have all := starting_append_of_forall none []
  rwa [List.append_nil] at all

/-- Lines of which the first one starts with the mark, and no other. -/
def Opens (mark : Text) : List Text → Prop
  | [] => False
  | first :: rest => mark <+: first ∧ ∀ line ∈ rest, ¬ mark <+: line

theorem Opens.starting_append (opens : Opens mark lines) (more : List Text) :
    starting mark (lines ++ more) = (lines ++ more) :: starting mark more := by
  cases lines with
  | nil => exact opens.elim
  | cons first rest =>
    rw [List.cons_append, starting, if_pos (by simpa using opens.1), starting_append_of_forall opens.2]

theorem not_isPrefix_cons {c d : Char} (differ : c ≠ d) (s t : Text) : ¬ c :: s <+: d :: t := fun start =>
  differ (List.cons_prefix_cons.mp start).1

theorem not_isPrefix_nil {c : Char} (s : Text) : ¬ c :: s <+: [] := by simp

end Text

namespace Rendition

/-! ### The source unit -/

/-- A parameter of an exported function. -/
def typed (type name : Text) : Text := type ++ " " ++ name

/-- The lines that export a row: a function whose body is one call of the method. -/
def exportLines (s : Setting) (d : Declaration) : List Text :=
  let names := Parameters.names d.parameters.length
  ["extern \"C\" " ++ optionalWord s.exportMacro.content ++ d.result ++ " " ++
      optionalWord s.callingConvention.content ++ d.symbol ++ "(" ++
      join ", " ((d.subjectParameter ++ " subject") :: d.parameters.zipWith typed names) ++ ")",
    "\x7b",
    "    return " ++ ("subject" ++ (if d.byReference then "." else "->" : Text) ++ d.method ++
      "(" ++ join ", " names ++ ")") ++ ";",
    "\x7d"]

def exportMark : Text := "extern \"C\" "

variable {s : Setting} {d : Declaration} {rows : List Declaration}

theorem zipWith_typed (types names : List Text) :
    types.zipWith typed names = (types.zip names).map fun parameter => typed parameter.1 parameter.2 := by
  rw [List.map_zip_eq_zipWith]
  rfl

theorem unitFunction_make (s : Setting) (d : Declaration) :
    unitFunction s (.make d) = exportLines s d ++ [[]] := by
  have formal : (Forwarder.make d).parameters.formal = d.parameters.zip (Parameters.names d.parameters.length) :=
    Parameters.formal_named d.parameters
  have actual : (Forwarder.make d).parameters.actual = Parameters.names d.parameters.length :=
    Parameters.actual_named d.parameters
  unfold unitFunction unitHead unitParameters unitCall exportLines
  simp only [formal, actual, zipWith_typed]
  rfl

theorem opens_exportLines (s : Setting) (d : Declaration) : Opens exportMark (exportLines s d) := by
  unfold exportLines
  refine ⟨?_, ?_⟩
  · simp only [List.append_assoc]
    exact List.prefix_append _ _
  · simp only [List.forall_mem_cons]
    exact ⟨not_isPrefix_cons (by decide) _ _, not_isPrefix_cons (by decide) _ _,
      not_isPrefix_cons (by decide) _ _, by simp⟩

/-- The functions of the unit are those of the rows, whatever comments stand between them. -/
theorem starting_unitFunctions (previous : Option Text) {more : List Text}
    (none : starting exportMark more = []) :
    (starting exportMark (unitFunctions s previous (rows.map .make) ++ more)).map (List.take 4) =
      rows.map (exportLines s) := by
  -- The heading before a row decides only whether a comment stands there.
  induction rows generalizing previous with
  | nil => simp [unitFunctions, none]
  | cons d rows ih =>
    let comment := if (d.heading.isEmpty || previous == some d.heading) = true then []
      else [headingComment d.heading]
    let rest := unitFunctions s (some d.heading) (rows.map .make) ++ more
    have unmarked : ∀ line ∈ comment, ¬ exportMark <+: line := by
      dsimp only [comment]
      split
      · simp
      · exact List.forall_mem_singleton.mpr (not_isPrefix_cons (by decide) _ _)
    have blank : ∀ line ∈ ([[]] : List Text), ¬ exportMark <+: line :=
      List.forall_mem_singleton.mpr (not_isPrefix_nil _)
    have cut : unitFunctions s previous ((d :: rows).map .make) ++ more =
        comment ++ (exportLines s d ++ ([[]] ++ rest)) := by
      rw [List.map_cons, unitFunctions, unitFunction_make, List.append_assoc, List.append_assoc,
        List.append_assoc]
      rfl
    have four : (exportLines s d ++ ([[]] ++ rest)).take 4 = exportLines s d := List.take_left' rfl
    rw [cut, starting_append_of_forall unmarked, (opens_exportLines s d).starting_append, List.map_cons,
      starting_append_of_forall blank, ih, four, List.map_cons]

theorem starting_unitLines (sheet : Sheet) (made : sheet.forwarders = rows.map .make) :
    (starting exportMark (unitLines sheet ++ [[]])).map (List.take 4) =
      rows.map (exportLines sheet.setting) := by
  have opening : ∀ line ∈ unitOpening sheet.forwarders.length ++ sheet.includes.map includeLine ++
      pragmaOpening ++ aliasLines sheet.aliases, ¬ exportMark <+: line := by
    -- No text of the table comes first on any of these lines: one character tells them from the mark.
    simp only [List.forall_mem_append]
    refine ⟨⟨⟨?_, ?_⟩, ?_⟩, ?_⟩
    · simp only [unitOpening, List.forall_mem_cons]
      exact ⟨not_isPrefix_cons (by decide) _ _, not_isPrefix_cons (by decide) _ _,
        not_isPrefix_cons (by decide) _ _, not_isPrefix_cons (by decide) _ _,
        not_isPrefix_cons (by decide) _ _, not_isPrefix_cons (by decide) _ _,
        not_isPrefix_cons (by decide) _ _, by simp⟩
    · exact List.forall_mem_map.mpr fun header _ => not_isPrefix_cons (by decide) _ _
    · decide
    · rw [aliasLines]
      split
      · simp
      · rw [List.cons_append, List.forall_mem_cons, List.forall_mem_append]
        exact ⟨not_isPrefix_cons (by decide) _ _,
          List.forall_mem_map.mpr fun a _ => not_isPrefix_cons (by decide) _ _, by decide⟩
  have closing : starting exportMark (pragmaClosing ++ [[]]) = [] := by decide
  rw [unitLines, List.append_assoc, List.append_assoc, starting_append_of_forall opening, made]
  exact starting_unitFunctions none closing

theorem not_mem_optionalWord {c : Char} {word : Text} (space : c ≠ ' ') (absent : c ∉ word) :
    c ∉ optionalWord word := by
  rw [optionalWord]
  split
  · exact List.not_mem_nil
  · simpa using ⟨absent, space⟩

theorem feed_not_mem_exportLines (row : d.Renderable) (exportMacro : '\n' ∉ s.exportMacro.content)
    (convention : '\n' ∉ s.callingConvention.content) : ∀ line ∈ exportLines s d, '\n' ∉ line := by
  have subject : '\n' ∉ d.subjectParameter ++ " subject" := by
    have mark : '\n' ∉ (if d.byReference then "&" else "*" : Text) := by
      split
      · decide
      · decide
    simp only [Declaration.subjectParameter, List.mem_append, not_or]
    exact ⟨⟨row.subject.not_mem_feed, mark⟩, by decide⟩
  have parameters : '\n' ∉ join ", " ((d.subjectParameter ++ " subject") ::
      d.parameters.zipWith typed (Parameters.names d.parameters.length)) := by
    refine not_mem_join (by decide) (List.forall_mem_cons.mpr ⟨subject, fun piece member => ?_⟩)
    rw [zipWith_typed] at member
    obtain ⟨⟨type, name⟩, found, rfl⟩ := List.mem_map.mp member
    obtain ⟨given, numbered⟩ := List.of_mem_zip found
    simp only [typed, List.mem_append, not_or]
    exact ⟨⟨(row.parameters type given).not_mem_feed, by decide⟩,
      (Parameters.unbroken_of_mem_names numbered).not_mem_feed⟩
  have access : '\n' ∉ (if d.byReference then "." else "->" : Text) := by
    split
    · decide
    · decide
  unfold exportLines
  simp only [List.forall_mem_cons, List.mem_append, not_or]
  refine ⟨⟨⟨⟨⟨⟨⟨⟨⟨?_, ?_⟩, ?_⟩, ?_⟩, ?_⟩, ?_⟩, ?_⟩, parameters⟩, ?_⟩, ?_,
    ⟨⟨?_, ⟨⟨⟨⟨?_, access⟩, ?_⟩, ?_⟩, (Parameters.unbroken_join_names _).not_mem_feed⟩, ?_⟩, ?_⟩, ?_, by simp⟩
  case refine_2 => exact not_mem_optionalWord (by decide) exportMacro
  case refine_3 => exact row.result.not_mem_feed
  case refine_5 => exact not_mem_optionalWord (by decide) convention
  case refine_6 => exact (unbroken_of_isIdentifierCore row.symbol).not_mem_feed
  case refine_12 => exact (unbroken_of_isIdentifierCore row.method).not_mem_feed
  all_goals decide

/-- Comments, marks and blank lines between the functions break no line either. -/
theorem feed_not_mem_unitFunctions (previous : Option Text) (each : ∀ d ∈ rows, d.Renderable)
    (exportMacro : '\n' ∉ s.exportMacro.content) (convention : '\n' ∉ s.callingConvention.content) :
    ∀ line ∈ unitFunctions s previous (rows.map .make), '\n' ∉ line := by
  induction rows generalizing previous with
  | nil => simp [unitFunctions]
  | cons d rows ih =>
    rw [List.forall_mem_cons] at each
    rw [List.map_cons, unitFunctions, unitFunction_make, List.forall_mem_append, List.forall_mem_append,
      List.forall_mem_append]
    refine ⟨⟨?_, feed_not_mem_exportLines each.1 exportMacro convention, by simp⟩, ih _ each.2⟩
    split
    · simp
    · rw [List.forall_mem_singleton, headingComment, List.mem_append, not_or]
      exact ⟨by decide, each.1.heading.not_mem_feed⟩

theorem feed_not_mem_unitLines (sheet : Sheet) (made : sheet.forwarders = rows.map .make)
    (each : ∀ d ∈ rows, d.Renderable) (includes : ∀ header ∈ sheet.includes, '\n' ∉ header)
    (aliases : ∀ a ∈ sheet.aliases, '\n' ∉ a.definition)
    (exportMacro : '\n' ∉ sheet.setting.exportMacro.content)
    (convention : '\n' ∉ sheet.setting.callingConvention.content) :
    ∀ line ∈ unitLines sheet, '\n' ∉ line := by
  rw [unitLines, made]
  simp only [List.forall_mem_append]
  refine ⟨⟨⟨⟨⟨?_, ?_⟩, by decide⟩, ?_⟩, feed_not_mem_unitFunctions none each exportMacro convention⟩, by decide⟩
  · unfold unitOpening
    simp only [List.forall_mem_cons, List.mem_append, not_or]
    have count : '\n' ∉ decimal (rows.map Forwarder.make).length := fun inside =>
      absurd (isIdentifierRest_of_mem_decimal inside) (by decide)
    exact ⟨by decide, by decide, by decide, ⟨⟨by decide, count⟩, by decide⟩, by decide, by decide, by decide,
      by simp⟩
  · refine List.forall_mem_map.mpr fun header member => ?_
    unfold includeLine
    rw [List.mem_append, not_or]
    exact ⟨by decide, includes header member⟩
  · rw [aliasLines]
    split
    · simp
    · rw [List.cons_append, List.forall_mem_cons, List.forall_mem_append]
      exact ⟨by decide, List.forall_mem_map.mpr aliases, by decide⟩

/-! ### The script module -/

/-- The lines that define a row in a script: a function whose body is one call of the method. -/
def scriptLines (d : Declaration) : List Text :=
  let names := Parameters.names d.parameters.length
  ["def " ++ d.symbol ++ "(" ++ join ", " ("subject" :: names) ++ "):",
    "    " ++ Script.documentMark ++ d.signature ++ Script.documentMark,
    "    return " ++ (if Script.reservedWords.contains d.method then "getattr(subject, '" ++ d.method ++ "')"
      else "subject." ++ d.method : Text) ++ "(" ++ join ", " names ++ ")"]

def scriptMark : Text := "def "

def listMark : Text := "__all__ = ["

theorem function_lines_make (d : Declaration) :
    (Forwarder.make d).function.lines = [[], []] ++ scriptLines d := by
  have actual : (Forwarder.make d).parameters.actual = Parameters.names d.parameters.length :=
    Parameters.actual_named d.parameters
  unfold Forwarder.function Script.Function.lines scriptLines
  rw [actual, Script.access_eq]
  rfl

theorem opens_scriptLines (d : Declaration) : Opens scriptMark (scriptLines d) := by
  unfold scriptLines
  refine ⟨?_, ?_⟩
  · simp only [List.append_assoc]
    exact List.prefix_append _ _
  · simp only [List.forall_mem_cons]
    exact ⟨not_isPrefix_cons (by decide) _ _, not_isPrefix_cons (by decide) _ _, by simp⟩

theorem starting_functions {more : List Text} (none : starting scriptMark more = []) :
    (starting scriptMark ((rows.map Forwarder.make).flatMap (·.function.lines) ++ more)).map (List.take 3) =
      rows.map scriptLines := by
  have blank : ∀ line ∈ ([[], []] : List Text), ¬ scriptMark <+: line := by decide
  induction rows with
  | nil => simp [none]
  | cons d rows ih =>
    let rest := (rows.map Forwarder.make).flatMap (·.function.lines) ++ more
    have three : (scriptLines d ++ rest).take 3 = scriptLines d := List.take_left' rfl
    rw [List.map_cons, List.flatMap_cons, function_lines_make, List.append_assoc, List.append_assoc,
      starting_append_of_forall blank, (opens_scriptLines d).starting_append, List.map_cons, three, ih,
      List.map_cons]

theorem not_isPrefix_symbolLines {c : Char} {mark : Text} (other : c ∉ [' ', ']', '_']) (symbols : List Text) :
    ∀ line ∈ Script.symbolLines symbols ++ [[]], ¬ c :: mark <+: line := by
  simp only [List.mem_cons, List.not_mem_nil, or_false, not_or] at other
  unfold Script.symbolLines
  simp only [List.forall_mem_append, List.forall_mem_cons, List.forall_mem_map]
  exact ⟨⟨⟨not_isPrefix_nil _, not_isPrefix_nil _, not_isPrefix_cons other.2.2 _ _,
    fun symbol _ => not_isPrefix_cons other.1 _ _⟩, not_isPrefix_cons other.2.1 _ _, by simp⟩,
    not_isPrefix_nil _, by simp⟩

theorem starting_moduleLines (sheet : Sheet) (made : sheet.forwarders = rows.map .make) :
    (starting scriptMark (moduleLines sheet ++ [[]])).map (List.take 3) = rows.map scriptLines ∧
    starting listMark (moduleLines sheet ++ [[]]) =
      [listMark :: (rows.map fun d => "    \"" ++ d.symbol ++ "\",") ++ [[']'], []]] := by
  have opening : ∀ line ∈ moduleOpening, ¬ scriptMark <+: line ∧ ¬ listMark <+: line := by decide
  rw [moduleLines, made, List.append_assoc, List.append_assoc]
  constructor
  · rw [starting_append_of_forall fun line member => (opening line member).1]
    exact starting_functions (starting_eq_nil (not_isPrefix_symbolLines (by decide) _))
  · have functions : ∀ line ∈ (rows.map Forwarder.make).flatMap (·.function.lines), ¬ listMark <+: line := by
      refine List.forall_mem_flatMap.mpr (List.forall_mem_map.mpr fun d _ => ?_)
      rw [function_lines_make]
      unfold scriptLines
      simp only [List.forall_mem_append, List.forall_mem_cons]
      exact ⟨⟨not_isPrefix_nil _, not_isPrefix_nil _, by simp⟩, not_isPrefix_cons (by decide) _ _,
        not_isPrefix_cons (by decide) _ _, not_isPrefix_cons (by decide) _ _, by simp⟩
    have listed : Opens listMark (listMark :: (rows.map fun d => "    \"" ++ d.symbol ++ "\",") ++ [[']'], []]) := by
      refine ⟨List.prefix_rfl, ?_⟩
      simp only [List.append_eq, List.forall_mem_append, List.forall_mem_cons, List.forall_mem_map]
      exact ⟨fun d _ => not_isPrefix_cons (by decide) _ _, not_isPrefix_cons (by decide) _ _,
        not_isPrefix_nil _, by simp⟩
    have cut : Script.symbolLines ((rows.map Forwarder.make).map Forwarder.symbol) ++ [[]] =
        [[], []] ++ (listMark :: (rows.map fun d => "    \"" ++ d.symbol ++ "\",") ++ [[']'], []]) := by
      unfold Script.symbolLines
      rw [List.map_map, List.map_map]
      simp only [List.cons_append, List.append_assoc, List.nil_append]
      rfl
    have blank : ∀ line ∈ ([[], []] : List Text), ¬ listMark <+: line := by decide
    have whole := listed.starting_append []
    rw [List.append_nil] at whole
    rw [starting_append_of_forall fun line member => (opening line member).2,
      starting_append_of_forall functions, cut, starting_append_of_forall blank, whole]
    rfl

theorem unbroken_scriptLines (row : d.Renderable) : ∀ line ∈ scriptLines d, Unbroken line := by
  have symbol := unbroken_of_isIdentifierCore row.symbol
  have method := unbroken_of_isIdentifierCore row.method
  have parameters : Unbroken (join ", " ("subject" :: Parameters.names d.parameters.length)) :=
    .join (.of_all rfl) (List.forall_mem_cons.mpr ⟨.of_all rfl, fun _ => Parameters.unbroken_of_mem_names⟩)
  have access : Unbroken (if Script.reservedWords.contains d.method then "getattr(subject, '" ++ d.method ++ "')"
      else "subject." ++ d.method : Text) := by
    split
    · exact ((Unbroken.of_all rfl).append method).append (.of_all rfl)
    · exact (Unbroken.of_all rfl).append method
  unfold scriptLines
  simp only [List.forall_mem_cons]
  refine ⟨?_, ?_, ?_, by simp⟩
  · exact ((((Unbroken.of_all rfl).append symbol).append (.of_all rfl)).append parameters).append (.of_all rfl)
  · exact (((Unbroken.of_all rfl).append (.of_all rfl)).append row.signature).append (.of_all rfl)
  · exact ((((Unbroken.of_all rfl).append access).append (.of_all rfl)).append
      (Parameters.unbroken_join_names _)).append (.of_all rfl)

theorem unbroken_moduleLines (sheet : Sheet) (made : sheet.forwarders = rows.map .make)
    (each : ∀ d ∈ rows, d.Renderable) : ∀ line ∈ moduleLines sheet, Unbroken line := by
  rw [moduleLines, made]
  simp only [List.forall_mem_append]
  refine ⟨⟨by decide, ?_⟩, ?_⟩
  · refine List.forall_mem_flatMap.mpr (List.forall_mem_map.mpr fun d row => ?_)
    rw [function_lines_make, List.forall_mem_append]
    exact ⟨by decide, unbroken_scriptLines (each d row)⟩
  · unfold Script.symbolLines
    rw [List.forall_mem_append]
    simp only [List.forall_mem_cons, List.forall_mem_map]
    exact ⟨⟨.nil, .nil, .of_all rfl, fun d row => ((Unbroken.of_all rfl).append
      (unbroken_of_isIdentifierCore (each d row).symbol)).append (.of_all rfl)⟩, .of_all rfl, by simp⟩

end Rendition

/-! ### All renditions of a table -/

def Document.field? (name : Text) : Document → Option Document
  | .record fields => fields.lookup name
  | _ => none

namespace Table

open Rendition

variable {t : Table} {source text : Text}

theorem exists_trampolines (host : Host) (arguments : List Text) (s : Setting) (t : Table)
    (coverage : Option Coverage) : ∃ entries,
      (Manifest.build host arguments s t (t.rows.map .make) coverage).field? "trampolines" =
        some (.list entries) ∧
      entries.map (Document.field? "symbol") = t.rows.map fun d => some (.text d.symbol) := by
  refine ⟨_, rfl, ?_⟩
  rw [List.map_map, List.map_map]
  rfl

/-- The renditions of a table that has been read and is valid list the same functions: a source unit and a script
module start a function with each row, in order, that passes the parameters on to one call of the row's method,
and no other line of theirs starts one; and the module and a manifest list the symbols, each once. -/
theorem renditions_agree (read : Table.read source text = .ok t) (valid : t.validate = .ok ()) (s : Setting)
    (exportMacro : '\n' ∉ s.exportMacro.content) (convention : '\n' ∉ s.callingConvention.content)
    (includes : ∀ header ∈ s.extraIncludes, '\n' ∉ header.shown) (tree : FileTree) :
    ∃ made unit module, t.forwarders = .ok made ∧
      t.render tree none s Target.unit.templateName made = .ok unit ∧
      t.render tree none s Target.module.templateName made = .ok module ∧
      (starting exportMark (pieces unit)).map (List.take 4) = t.rows.map (exportLines s) ∧
      (starting scriptMark (pieces module)).map (List.take 3) = t.rows.map scriptLines ∧
      starting listMark (pieces module) =
        [listMark :: (t.rows.map fun d => "    \"" ++ d.symbol ++ "\",") ++ [[']'], []]] ∧
      (∀ host arguments coverage, ∃ entries,
        (Manifest.build host arguments s t made coverage).field? "trampolines" = some (.list entries) ∧
        entries.map (Document.field? "symbol") = t.rows.map fun d => some (.text d.symbol)) ∧
      (t.rows.map Declaration.symbol).Nodup := by
  have each := renderable_of_read read valid
  have writable := writable_of_read read
  let sheet := Sheet.ofTable s t (t.rows.map .make)
  have headers : ∀ header ∈ sheet.includes, '\n' ∉ header := by
    refine List.forall_mem_map.mpr fun operand member => ?_
    rw [List.mem_eraseDups, List.mem_append] at member
    rcases member with own | extra
    · obtain ⟨header, found, rfl⟩ := List.mem_map.mp own
      exact (writable.includes header found).1.unbroken.not_mem_feed
    · exact includes operand extra
  have definitions : ∀ a ∈ sheet.aliases, '\n' ∉ a.definition := fun a member =>
    (writable.aliases a member).inline.unbroken.not_mem_feed
  have unitText : pieces (Rendition.unit sheet) = unitLines sheet ++ [[]] :=
    pieces_ofLines (feed_not_mem_unitLines sheet rfl each headers definitions exportMacro convention)
  have moduleText : pieces (Rendition.module sheet) = moduleLines sheet ++ [[]] :=
    pieces_ofLines fun line member => (unbroken_moduleLines sheet rfl each line member).not_mem_feed
  refine ⟨_, Rendition.unit sheet, Rendition.module sheet, forwarders_of_validate valid, rfl, rfl, ?_, ?_, ?_,
    fun host arguments coverage => exists_trampolines host arguments s t coverage,
    (validate_eq_ok_iff.mp valid).symbols⟩
  · rw [unitText]
    exact starting_unitLines sheet rfl
  · rw [moduleText]
    exact (starting_moduleLines sheet rfl).1
  · rw [moduleText]
    exact (starting_moduleLines sheet rfl).2

theorem renditions_agree_overload : ∃ t made unit module,
    Table.read "t" "using P = Q;\n// @section S\nPROXY(A&, P, import, int, P);\nPROXY_OVERLOAD(A, void, f, _x);" =
      .ok t ∧ t.forwarders = .ok made ∧
    t.render {} none { outputDir := .ofText "out", extraIncludes := [.text "<b.h>"] } "proxies.cpp.j2" made =
      .ok unit ∧
    t.render {} none { outputDir := .ofText "out", extraIncludes := [.text "<b.h>"] } "proxies.py.j2" made =
      .ok module ∧
    (starting exportMark (pieces unit)).map (List.take 4) = [
      ["extern \"C\" SDK_EXPORT P __CDECL A_import(A& subject, int _1, P _2)".toList, "\x7b".toList,
        "    return subject.import(_1, _2);".toList, "\x7d".toList],
      ["extern \"C\" SDK_EXPORT void __CDECL A_f_x(A* subject)".toList, "\x7b".toList,
        "    return subject->f();".toList, "\x7d".toList]] ∧
    (starting scriptMark (pieces module)).map (List.take 3) = [
      ["def A_import(subject, _1, _2):".toList, "    \"\"\"P A::import(int, P)\"\"\"".toList,
        "    return getattr(subject, 'import')(_1, _2)".toList],
      ["def A_f_x(subject):".toList, "    \"\"\"void A::f()\"\"\"".toList,
        "    return subject.f()".toList]] := by
  obtain ⟨made, unit, module, listed, first, second, exported, defined, -⟩ :=
    @renditions_agree _ "t" "using P = Q;\n// @section S\nPROXY(A&, P, import, int, P);\nPROXY_OVERLOAD(A, void, f, _x);"
      rfl (by decide +kernel) { outputDir := .ofText "out", extraIncludes := [.text "<b.h>"] }
      (by decide) (by decide) (by decide) {}
  refine ⟨_, made, unit, module, rfl, listed, first, second, exported.trans ?_, defined.trans ?_⟩
  · decide +kernel
  · decide +kernel

end Table

end Forwarding
