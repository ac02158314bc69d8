import Forwarding.Proofs.Rendition.Rows
import Forwarding.Proofs.Table.Atomicity
import Forwarding.Rendition.Sheet

/-! Where the names of aliases stand in a source unit, and where they are defined.

A unit defines its aliases in the order in which they were bound, and then come the functions. So what a function
mentions is always defined above it. Of an alias that is mentioned by another one this holds just when it was bound
before: rows are checked against aliases, but aliases are not checked against each other.
-/

set_option autoImplicit false

namespace Forwarding

open Text Checks

theorem Text.ofLines_append (rows more : List Text) : ofLines (rows ++ more) = ofLines rows ++ ofLines more :=
  List.flatMap_append

theorem Text.ofLines_singleton (row : Text) : ofLines [row] = row ++ ['\n'] := List.flatMap_singleton _ row

theorem Text.ofLines_isPrefix {rows more : List Text} (front : rows <+: more) : ofLines rows <+: ofLines more := by
  obtain ⟨behind, rfl⟩ := front
  rw [ofLines_append]
  exact List.prefix_append _ _

/-- A text is cut into tokens in front of `name` and behind it as it is without the cuts. -/
structure Text.Token (t name before : Text) : Prop where
  cut : ∃ behind, t = before ++ (name ++ behind) ∧ identifiers t = identifiers before ++ name :: identifiers behind

theorem Text.exists_token_iff {t name : Text} : (∃ before, Token t name before) ↔ name ∈ identifiers t := by
  constructor
  · rintro ⟨before, behind, -, tokens⟩
    rw [tokens]
    exact List.mem_append_right _ List.mem_cons_self
  · intro member
    obtain ⟨before, behind, parts, -, tokens⟩ := exists_runsFrom_cut false member
    exact ⟨before, behind, parts, tokens⟩

def InOrder (aliases : List Alias) : Prop :=
  ∀ (j k : Nat) (a b : Alias), aliases[j]? = some a → aliases[k]? = some b → a.name ∈ identifiers b.underlying → j < k

/-- Two lists of aliases are in order one behind the other just when each is, and the first mentions none of the
second. Their positions play no part. -/
theorem inOrder_append_shift_iff {first second : List Alias} (count : Nat) :
    InOrder (first ++ second.map (Alias.shift count)) ↔ InOrder first ∧ InOrder second ∧
      ∀ a ∈ first, ∀ b ∈ second, b.name ∉ identifiers a.underlying := by
  have here : ∀ {i}, i < first.length → (first ++ second.map (Alias.shift count))[i]? = first[i]? :=
    fun early => List.getElem?_append_left early
  have later : ∀ i, (first ++ second.map (Alias.shift count))[first.length + i]? =
      (second[i]?).map (Alias.shift count) := by
    intro i
    rw [List.getElem?_append_right (Nat.le_add_right _ _), Nat.add_sub_cancel_left, List.getElem?_map]
  constructor
  · intro order
    refine ⟨fun j k a b atJ atK mention => ?_, fun j k a b atJ atK mention => ?_, fun a member b inside mention => ?_⟩
    · have early := (List.getElem?_eq_some_iff.mp atJ).1
      have early' := (List.getElem?_eq_some_iff.mp atK).1
      exact order j k a b ((here early).trans atJ) ((here early').trans atK) mention
    · have shifted := order (first.length + j) (first.length + k) (a.shift count) (b.shift count)
        (by rw [later, atJ]; rfl) (by rw [later, atK]; rfl) mention
      exact Nat.lt_of_add_lt_add_left shifted
    · obtain ⟨j, atJ⟩ := List.mem_iff_getElem?.mp inside
      obtain ⟨k, atK⟩ := List.mem_iff_getElem?.mp member
      have early := (List.getElem?_eq_some_iff.mp atK).1
      have before := order (first.length + j) k (b.shift count) a (by rw [later, atJ]; rfl) ((here early).trans atK)
        mention
      omega
  · rintro ⟨one, two, apart⟩ j k a b atJ atK mention
    -- Both stand in the first list, both in the second, or one in each.
    by_cases early : j < first.length
    · by_cases early' : k < first.length
      · exact one j k a b ((here early).symm.trans atJ) ((here early').symm.trans atK) mention
      · exact Nat.lt_of_lt_of_le early (Nat.le_of_not_lt early')
    · obtain ⟨j, rfl⟩ := Nat.exists_eq_add_of_le (Nat.le_of_not_lt early)
      rw [later, Option.map_eq_some_iff] at atJ
      obtain ⟨a, atJ, rfl⟩ := atJ
      by_cases early' : k < first.length
      · rw [here early'] at atK
        exact absurd mention (apart b (List.mem_of_getElem? atK) a (List.mem_of_getElem? atJ))
      · obtain ⟨k, rfl⟩ := Nat.exists_eq_add_of_le (Nat.le_of_not_lt early')
        rw [later, Option.map_eq_some_iff] at atK
        obtain ⟨b, atK, rfl⟩ := atK
        exact Nat.add_lt_add_left (two j k a b atJ atK mention) _

namespace Rendition

variable {sheet : Sheet} {s : Setting} {j k : Nat} {a b : Alias} {f : Forwarder} {name before : Text}

/-! ### Lines above a definition or a function -/

def rowsAboveAliases (sheet : Sheet) : List Text :=
  unitOpening sheet.forwarders.length ++ sheet.includes.map includeLine ++ pragmaOpening

def rowsAboveAlias (sheet : Sheet) (k : Nat) : List Text :=
  rowsAboveAliases sheet ++ aliasComment :: (sheet.aliases.take k).map Alias.definition

/-- The comment above a function behind one under the heading `previous`. -/
def headingRows (previous : Option Text) (f : Forwarder) : List Text :=
  if f.row.heading.isEmpty || previous == some f.row.heading then [] else [headingComment f.row.heading]

/-- The lines above the function at an index, from the first function on. -/
def rowsOfFunctions (s : Setting) (previous : Option Text) : List Forwarder → Nat → List Text
  | [], _ => []
  | f :: _, 0 => headingRows previous f
  | f :: rest, k + 1 => headingRows previous f ++ unitFunction s f ++ rowsOfFunctions s (some f.row.heading) rest k

def rowsAboveFunction (sheet : Sheet) (k : Nat) : List Text :=
  rowsAboveAliases sheet ++ aliasLines sheet.aliases ++ rowsOfFunctions sheet.setting none sheet.forwarders k

theorem unitFunctions_isPrefix (previous : Option Text) {forwarders : List Forwarder} (found : forwarders[k]? = some f) :
    rowsOfFunctions s previous forwarders k ++ [unitHead s f] <+: unitFunctions s previous forwarders := by
  induction forwarders generalizing previous k with
  | nil => cases found
  | cons first rest ih =>
    cases k with
    | zero =>
      cases found
      simp only [rowsOfFunctions, unitFunctions, unitFunction, headingRows, List.append_assoc, List.cons_append]
      exact (List.prefix_append_right_inj _).mpr (List.cons_prefix_cons.mpr ⟨rfl, List.nil_prefix⟩)
    | succ k =>
      -- The function in front decides whether a heading comes above the next one.
      have later := ih (some first.row.heading) (k := k) found
      rw [rowsOfFunctions, unitFunctions, List.append_assoc, List.append_assoc, List.append_assoc]
      exact (List.prefix_append_right_inj _).mpr ((List.prefix_append_right_inj _).mpr later)

theorem rowsAboveFunction_isPrefix (found : sheet.forwarders[k]? = some f) :
    rowsAboveFunction sheet k ++ [unitHead sheet.setting f] <+: unitLines sheet := by
  have front := unitFunctions_isPrefix (s := sheet.setting) none found
  rw [rowsAboveFunction, List.append_assoc]
  exact ((List.prefix_append_right_inj _).mpr front).trans (List.prefix_append _ _)

theorem rowsAboveAlias_succ (found : sheet.aliases[k]? = some a) :
    rowsAboveAlias sheet (k + 1) = rowsAboveAlias sheet k ++ [a.definition] := by
  rw [rowsAboveAlias, rowsAboveAlias, List.take_add_one, found, List.map_append, Option.toList_some, List.map_singleton,
    List.append_assoc, List.cons_append]

theorem rowsAboveAlias_mono (ordered : j ≤ k) : rowsAboveAlias sheet j <+: rowsAboveAlias sheet k := by
  refine (List.prefix_append_right_inj _).mpr (List.cons_prefix_cons.mpr ⟨rfl, ?_⟩)
  exact (List.take_prefix_take_left ordered).map _

theorem rowsAboveAlias_isPrefix (found : sheet.aliases[j]? = some a) (i : Nat) (k : Nat) :
    rowsAboveAlias sheet k <+: rowsAboveFunction sheet i := by
  have given : ¬ sheet.aliases.isEmpty = true := by
    intro none
    rw [List.isEmpty_iff.mp none] at found
    cases found
  have definitions := (List.take_prefix k sheet.aliases).map Alias.definition
  rw [rowsAboveAlias, rowsAboveFunction, aliasLines, if_neg given, List.append_assoc, List.append_assoc]
  refine (List.prefix_append_right_inj _).mpr (List.cons_prefix_cons.mpr ⟨rfl, ?_⟩)
  exact definitions.trans (List.prefix_append _ _)

/-! ### Uses of a name -/

def aboveAlias (sheet : Sheet) (k : Nat) : Text := ofLines (rowsAboveAlias sheet k)

/-- The text of a unit up to the line of the function at an index. -/
def aboveFunction (sheet : Sheet) (k : Nat) : Text := ofLines (rowsAboveFunction sheet k)

def definitionStart (a : Alias) : Text := "using " ++ a.name ++ " = "

theorem definition_eq (a : Alias) : a.definition = definitionStart a ++ (a.underlying ++ ";".toList) :=
  List.append_assoc _ _ _

/-- A name stands behind some text of a unit: as a token of the type that an alias is defined by, or anywhere on the
line of a function. -/
inductive Uses (sheet : Sheet) (name : Text) : Text → Prop
  | definition {j : Nat} {b : Alias} {before : Text} : sheet.aliases[j]? = some b → Token b.underlying name before →
      Uses sheet name (aboveAlias sheet j ++ (definitionStart b ++ before))
  | function {k : Nat} {f : Forwarder} {before behind : Text} : sheet.forwarders[k]? = some f →
      unitHead sheet.setting f = before ++ (name ++ behind) → Uses sheet name (aboveFunction sheet k ++ before)

/-- Each alias is defined above everything that mentions it. -/
def DefinedFirst (sheet : Sheet) : Prop :=
  ∀ (k : Nat) (a : Alias) (before : Text), sheet.aliases[k]? = some a → Uses sheet a.name before →
    aboveAlias sheet (k + 1) <+: before

theorem aboveAlias_succ (found : sheet.aliases[k]? = some a) :
    aboveAlias sheet (k + 1) = aboveAlias sheet k ++ (a.definition ++ ['\n']) := by
  rw [aboveAlias, rowsAboveAlias_succ found, ofLines_append, ofLines_singleton, ← aboveAlias]

theorem aboveAlias_mono (ordered : j ≤ k) : aboveAlias sheet j <+: aboveAlias sheet k :=
  ofLines_isPrefix (rowsAboveAlias_mono ordered)

/-- A definition ends behind what its type mentions. -/
theorem length_lt_of_token (found : sheet.aliases[j]? = some b) (token : Token b.underlying name before) :
    (aboveAlias sheet j ++ (definitionStart b ++ before)).length < (aboveAlias sheet (j + 1)).length := by
  obtain ⟨behind, parts, -⟩ := token.cut
  rw [aboveAlias_succ found, definition_eq, parts]
  simp only [List.length_append, List.length_singleton]
  omega

theorem length_aboveAlias_mono (ordered : j ≤ k) : (aboveAlias sheet j).length ≤ (aboveAlias sheet k).length :=
  (aboveAlias_mono ordered).length_le

theorem aboveAlias_isPrefix_unit (found : sheet.aliases[k]? = some a) : aboveAlias sheet (k + 1) <+: unit sheet := by
  refine ofLines_isPrefix ((rowsAboveAlias_isPrefix (j := k) found 0 (k + 1)).trans ?_)
  refine (List.prefix_append_right_inj _).mpr ?_ |>.trans (List.prefix_append _ _)
  cases sheet.forwarders with
  | nil => exact List.nil_prefix
  | cons f rest =>
    rw [rowsOfFunctions, unitFunctions, headingRows, List.append_assoc]
    exact List.prefix_append _ _

/-- What is called a use stands where it is said to stand in the unit. -/
theorem Uses.isPrefix_unit (uses : Uses sheet name before) : before ++ name <+: unit sheet := by
  cases uses with
  | @definition j b before found token =>
    obtain ⟨behind, parts, -⟩ := token.cut
    refine .trans ⟨behind ++ (";".toList ++ ['\n']), ?_⟩ (aboveAlias_isPrefix_unit found)
    rw [aboveAlias_succ found, definition_eq, parts]
    simp only [List.append_assoc]
  | @function k f before behind found parts =>
    refine .trans ⟨behind ++ ['\n'], ?_⟩ (ofLines_isPrefix (rowsAboveFunction_isPrefix found))
    rw [ofLines_append, ofLines_singleton, parts, aboveFunction]
    simp only [List.append_assoc]

/-- Functions mention only what is defined above them, so it is for the aliases to be in order. -/
theorem definedFirst_sheet_iff : DefinedFirst sheet ↔ InOrder sheet.aliases := by
  constructor
  · intro first j k a b atJ atK mention
    obtain ⟨before, token⟩ := exists_token_iff.mpr mention
    have front := (first j a _ atJ (.definition atK token)).length_le
    have behind := length_lt_of_token atK token
    -- A definition that comes later ends behind the place where its name is mentioned.
    refine Nat.lt_of_not_le fun late => ?_
    have mono : (aboveAlias sheet (k + 1)).length ≤ (aboveAlias sheet (j + 1)).length :=
      length_aboveAlias_mono (Nat.add_le_add_right late 1)
    omega
  · intro order k a before atK uses
    cases uses with
    | definition found token =>
      have ordered := order _ _ a _ atK found (exists_token_iff.mp ⟨_, token⟩)
      exact (aboveAlias_mono ordered).trans (List.prefix_append _ _)
    | @function i _ _ _ _ _ =>
      exact (ofLines_isPrefix (rowsAboveAlias_isPrefix atK i (k + 1))).trans (List.prefix_append _ _)

end Rendition

namespace Table

open Rendition

variable {t : Table}

/-- In the unit of a valid table every alias is defined above the functions whose lines mention it. Every alias is
defined above all that mentions it just when no alias mentions itself or one that was bound after it. A merged
table keeps the orders of its two parts, and the first must not mention an alias of the second. -/
theorem definedFirst_iff (valid : t.validate = .ok ()) (s : Setting) : ∃ made, t.forwarders = .ok made ∧
    (∀ name before, Uses (.ofTable s t made) name before → before ++ name <+: unit (.ofTable s t made)) ∧
    (∀ (k : Nat) (a : Alias), t.aliases[k]? = some a →
      aboveAlias (.ofTable s t made) (k + 1) <+: unit (.ofTable s t made) ∧
      ∀ i, aboveAlias (.ofTable s t made) (k + 1) <+: aboveFunction (.ofTable s t made) i) ∧
    (DefinedFirst (.ofTable s t made) ↔ InOrder t.aliases) ∧
    ∀ first second : Table, Reachable second → first.Apart second → t = (first.merge second).1 →
      (DefinedFirst (.ofTable s t made) ↔ InOrder first.aliases ∧ InOrder second.aliases ∧
        ∀ a ∈ first.aliases, ∀ b ∈ second.aliases, b.name ∉ identifiers a.underlying) := by
  refine ⟨_, forwarders_of_validate valid, fun name before uses => uses.isPrefix_unit, fun k a found => ?_,
    definedFirst_sheet_iff, fun first second reachable apart merged => ?_⟩
  · exact ⟨aboveAlias_isPrefix_unit found, fun i => ofLines_isPrefix (rowsAboveAlias_isPrefix found i (k + 1))⟩
  · rw [definedFirst_sheet_iff, ← inOrder_append_shift_iff first.rows.length]
    rw [merge_of_apart apart reachable.nodup] at merged
    subst merged
    rfl

/-- An alias that mentions one which is bound after it. -/
def crossed : Table :=
  { aliases := [⟨"Grid", "Map<IntPair, X>", 0, none⟩, ⟨"IntPair", "Pair<int, int>", 0, none⟩]
    rows := [{ subject := "A", result := "Grid", method := "f" }] }

theorem not_inOrder_crossed : ¬ InOrder crossed.aliases := by
  intro order
  have before := order 1 0 _ _ rfl rfl (by decide +kernel)
  cases before

theorem definedFirst_iff_crossed : crossed.validate = .ok () ∧ ∃ made, crossed.forwarders = .ok made ∧
    ¬ DefinedFirst (.ofTable { outputDir := .ofText "out" } crossed made) := by
  have valid : crossed.validate = .ok () := by decide +kernel
  obtain ⟨made, forwarders, -, -, order, -⟩ := definedFirst_iff valid { outputDir := .ofText "out" }
  exact ⟨valid, made, forwarders, fun first => not_inOrder_crossed (order.mp first)⟩

/-- A valid table whose unit mentions an alias above its definition. -/
theorem not_definedFirst : ¬ ∀ (t : Table) (s : Setting) (made : List Forwarder), t.validate = .ok () →
    t.forwarders = .ok made → DefinedFirst (.ofTable s t made) := by
  intro all
  have valid : crossed.validate = .ok () := by decide +kernel
  have first := all crossed { outputDir := .ofText "out" } _ valid (forwarders_of_validate valid)
  exact not_inOrder_crossed (definedFirst_sheet_iff.mp first)

end Table

end Forwarding
