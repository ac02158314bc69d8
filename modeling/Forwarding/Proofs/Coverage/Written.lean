import Forwarding.Proofs.Coverage.Complete
import Forwarding.Proofs.Spelling.Spacing
import Forwarding.Proofs.Text.Name
import Forwarding.Proofs.Text.Unfolding
import Mathlib.Data.List.Forall2

/-! Coverage of methods whose types have been written out.

A header may spell out what a table has an alias for. Coverage undoes that by replacing the types of the
aliases, one after the other, wherever they stand in the normal form of a spelling. `Transparent` collects
what a table needs for that to find its rows again.
-/

set_option autoImplicit false

namespace Forwarding

open Text Spelling

/-- A type with names of aliases written out, in any order, and with other blanks beside punctuation. -/
inductive WrittenOut (aliases : List Alias) (type : Text) : Text → Prop where
  | same : WrittenOut aliases type type
  | use {left right : Text} {a : Alias} (sofar : WrittenOut aliases type (left ++ (a.name ++ right)))
      (known : a ∈ aliases) (named : isIdentifierCore a.name = true)
      (before : left.getLast?.any isWordChar = false) (behind : right.head?.any isWordChar = false) :
      WrittenOut aliases type (left ++ (a.underlying ++ right))
  | space {left gap other right : Text} (sofar : WrittenOut aliases type (left ++ (gap ++ right)))
      (blank : (gap ++ other).all isBlank = true)
      (beside : left.getLast?.any isPunctuation = true ∨ right.head?.any isPunctuation = true) :
      WrittenOut aliases type (left ++ (other ++ right))

/-- A method that a header declares as it stands in a row, but for how its types are written. -/
structure Declares (aliases : List Alias) (d row : Declaration) : Prop where
  subject : d.subjectName = row.subjectName
  method : d.method = row.method
  parameters : List.Forall₂ (WrittenOut aliases) row.parameters d.parameters

/-- Methods of headers that declare the rows of a table and nothing else. -/
structure Table.DeclaredBy (t : Table) (discovered : List Declaration) : Prop where
  only : ∀ d ∈ discovered, ∃ row ∈ t.rows, Declares t.aliases d row
  each : ∀ row ∈ t.rows, ∃ d ∈ discovered, Declares t.aliases d row

namespace Coverage

variable {names : List (Text × Text)} {s t : Text}

/-- Types in normal form that replacement can tell apart, with their names. -/
@[mk_iff]
structure Reversible (names : List (Text × Text)) : Prop where
  clear : ∀ entry ∈ names, Clear entry.1 entry.1
  separate : names.Pairwise fun first second => Separate first.1 second.1
  own : ∀ entry ∈ names, ∀ word ∈ tokens entry.1, word ≠ entry.2
  later : names.Pairwise fun first second => ∀ word ∈ tokens first.1, word ≠ second.2

instance (names : List (Text × Text)) : Decidable (Reversible names) :=
  decidable_of_iff' _ (reversible_iff names)

/-- Texts that are separate are undone one after the other. -/
theorem applyNames_of_rewrittenAll (clear : ∀ entry ∈ names, Clear entry.1 entry.1)
    (separate : names.Pairwise fun first second => Separate first.1 second.1)
    (absent : ∀ entry ∈ names, ¬ entry.1 <:+: s) (rewritten : RewrittenAll names s t) :
    applyNames names t = s := by
  induction names generalizing t with
  | nil => exact rewritten.symm
  | cons entry names ih =>
    rw [List.forall_mem_cons] at clear absent
    rw [List.pairwise_cons] at separate
    obtain ⟨middle, rest, last⟩ := rewritten
    -- The text that was written last does not occur before it, so that replacing it undoes just that.
    have unwritten := rest.not_infix separate.1 absent.1
    rw [applyNames_cons, last.replace_eq clear.1 unwritten, ih clear.2 separate.2 absent.2 rest]

theorem Reversible.ofList_eq (reversible : Reversible names) : Bindings.ofList names = names := by
  refine Bindings.ofList_of_nodup (List.pairwise_map.mpr (reversible.separate.imp ?_))
  exact fun separate same => separate.start.1 (same ▸ List.prefix_rfl)

/-- Whatever has been written out in a text that holds no type that has a name is undone. -/
theorem Reversible.applyNames_eq (reversible : Reversible names) (absent : ∀ entry ∈ names, ¬ entry.1 <:+: s)
    (unfolded : Unfolded names (tokens s) (tokens t)) : applyNames names t = s := by
  have rewritten := unfolded.rewrittenAll (fun entry member inside => reversible.own entry member _ inside rfl)
    (reversible.later.imp fun other inside => other _ inside rfl)
  rw [flatten_tokens, flatten_tokens] at rewritten
  exact applyNames_of_rewrittenAll reversible.clear reversible.separate absent rewritten

end Coverage

/-- A table whose aliases can be told apart in the normal forms of spellings: their types begin with a word and
hold no blanks that squeezing drops, they neither overlap nor hold their own names or those of later ones,
none of them is spelled out in a row, and no name has a space behind it. -/
@[mk_iff]
structure Table.Transparent (t : Table) : Prop where
  squeezed : ∀ a ∈ t.aliases, squeeze a.underlying = a.underlying
  start : ∀ a ∈ t.aliases, startsSolid a.underlying = true
  reversible : Coverage.Reversible (Coverage.normalNames t.aliases)
  attached : ∀ a ∈ t.aliases, Attached (Coverage.normalNames t.aliases) (tokens (normal a.underlying))
  row : ∀ row ∈ t.rows, ∀ type ∈ row.parameters,
    (∀ a ∈ t.aliases, ¬ normal a.underlying <:+: normal type) ∧
      Attached (Coverage.normalNames t.aliases) (tokens (normal type))

instance (t : Table) : Decidable t.Transparent := decidable_of_iff' _ (Table.transparent_iff t)

namespace Table.Transparent

open Coverage

variable {t : Table} (transparent : t.Transparent)
include transparent

theorem exists_head?_tokens : ∀ entry ∈ normalNames t.aliases,
    ∃ word ∈ (tokens entry.1).head?, word ≠ [' '] := by
  refine List.forall_mem_map.mpr fun a member => Text.exists_head?_tokens ?_
  obtain ⟨c, rest, parts, solid, -⟩ := startsSolid_iff.mp (transparent.start a member)
  rw [head?_normal (transparent.start a member), parts]
  exact ⟨c, rfl, (ne_of_isBlank (by decide) solid).symm⟩

theorem unfolded {type written : Text} (attached : Attached (normalNames t.aliases) (tokens (normal type)))
    (out : WrittenOut t.aliases type written) :
    Unfolded (normalNames t.aliases) (tokens (normal type)) (tokens (normal written)) := by
  induction out with
  | same => exact .refl _
  | @use left right a sofar known named before behind ih =>
    have name := name_of_isIdentifierCore named
    have word : ∀ c ∈ a.name, isWordChar c = true := fun c member =>
      isWordChar_of_isIdentifierRest (name.rest c member)
    rw [Option.any_eq_false] at before behind
    have entry : (normal a.underlying, a.name) ∈ normalNames t.aliases := List.mem_map_of_mem known
    -- Whatever stands between the two sides is cut off from them, the word and its type alike.
    have cut : ∀ s, tokens (lead left ++ (s ++ Spelling.spaced .word right)) =
        tokens (lead left) ++ (tokens s ++ tokens (Spelling.spaced .word right)) := fun s => by
      rw [tokens_append (.inl fun c last => isWordChar_getLast?_lead before last),
        tokens_append (.inr fun c first => isWordChar_head?_spaced behind first)]
    rw [normal_append_word name.given word, cut, tokens_of_word name.given word] at ih
    -- A space behind the word would be lost behind a type that ends in punctuation.
    have apart : (Spelling.spaced .word right).head? ≠ some ' ' := by
      intro first
      obtain ⟨rest, parts⟩ := List.head?_eq_some_iff.mp first
      have whole := ih.attached transparent.exists_head?_tokens
        (List.forall_mem_map.mpr transparent.attached) attached
      rw [parts, tokens_cons (by decide)] at whole
      have behind := (List.isChain_append.mp whole).2.1
      exact (List.isChain_cons_cons.mp behind).1 rfl _ entry rfl
    have last : ∀ c, a.underlying.getLast? = some c → isBlank c = false := by
      rw [← transparent.squeezed a known]
      exact (getLast?_squeeze a.underlying).1
    rw [normal_append_spelling (transparent.start a known) last apart, cut]
    exact ih.write entry
  | @space left gap other right sofar blank beside ih =>
    rw [List.all_eq_true, List.forall_mem_append] at blank
    rw [normal_gap blank.1 beside] at ih
    rw [normal_gap blank.2 beside]
    exact ih

end Table.Transparent

namespace Coverage

variable {t : Table}

theorem discoveredKey_of_declares (transparent : t.Transparent) {d row : Declaration} (member : row ∈ t.rows)
    (declares : Declares t.aliases d row) : discoveredKey (named t []) d = keyOf row := by
  refine discoveredKey_eq declares.subject declares.method (Eq.symm ?_)
  have types := (List.forall₂_and_left _ _).mpr ⟨transparent.row row member, declares.parameters⟩
  rw [← List.forall₂_eq_eq_eq, List.forall₂_map_left_iff, List.forall₂_map_right_iff]
  refine types.imp fun type written ⟨⟨absent, attached⟩, out⟩ => ?_
  rw [named_nil, transparent.reversible.ofList_eq]
  have whole : ∀ entry ∈ normalNames t.aliases, ¬ entry.1 <:+: normal type :=
    List.forall_mem_map.mpr absent
  exact (transparent.reversible.applyNames_eq whole (transparent.unfolded attached out)).symm

/-- Coverage sees through aliases that can be told apart: all methods are covered, and no row is stale, in
whatever order names have been written out. -/
theorem full_compute_declared (transparent : t.Transparent) {discovered : List Declaration}
    (declared : t.DeclaredBy discovered) : (compute t discovered []).Full := by
  rw [full_compute_iff]
  constructor
  · intro d member
    obtain ⟨row, inside, declares⟩ := declared.only d member
    rw [discoveredKey_of_declares transparent inside declares]
    exact List.mem_map_of_mem inside
  · intro row inside _
    obtain ⟨d, member, declares⟩ := declared.each row inside
    rw [← discoveredKey_of_declares transparent inside declares]
    exact List.mem_map_of_mem member

theorem declaredBy_single {aliases : List (Text × Text)} {type written : Text}
    (out : WrittenOut (single aliases type).aliases type written) :
    (single aliases type).DeclaredBy [setter written] := by
  have declares : Declares (single aliases type).aliases (setter written) (setter type) :=
    ⟨rfl, rfl, .cons out .nil⟩
  constructor
  · exact List.forall_mem_singleton.mpr ⟨setter type, List.mem_singleton_self _, declares⟩
  · exact List.forall_mem_singleton.mpr ⟨setter written, List.mem_singleton_self _, declares⟩

/-- An alias whose type mentions one that is defined before it. -/
def grid : Table := single [("IntPair", "Pair<int, int>"), ("Grid", "Map<IntPair, X>")] "Grid&"

theorem grid_writtenOut : WrittenOut grid.aliases "Grid&" "Map<Pair<int, int>, X> &" := by
  have outer : WrittenOut grid.aliases "Grid&" "Map<IntPair, X>&" :=
    @WrittenOut.use _ _ [] "&" ⟨"Grid", "Map<IntPair, X>", 0, none⟩ .same
      (by decide) (by decide) (by decide) (by decide)
  have inner : WrittenOut grid.aliases "Grid&" "Map<Pair<int, int>, X>&" :=
    @WrittenOut.use _ _ "Map<" ", X>&" ⟨"IntPair", "Pair<int, int>", 0, none⟩ outer
      (by decide) (by decide) (by decide) (by decide)
  exact @WrittenOut.space _ _ "Map<Pair<int, int>, X>" [] " " "&" inner (by decide) (by decide)

theorem full_compute_grid : grid.validate = .ok () ∧ grid.Transparent ∧
    grid.DeclaredBy [setter "Map<Pair<int, int>, X> &"] ∧
    (compute grid [setter "Map<Pair<int, int>, X> &"] []).Full := by
  have transparent : grid.Transparent := by decide +kernel
  have declared := declaredBy_single grid_writtenOut
  exact ⟨by decide +kernel, transparent, declared, full_compute_declared transparent declared⟩

/-- Aliases, the type of a row, and how a header may write it. -/
def unseen : List (List (Text × Text) × Text × Text) :=
  [([("IntPair", "Pair<int, int>"), ("Grid", "Map<Pair<int, int>, X>")], "Grid", "Map<Pair<int, int>, X>"),
    ([("Grid", "Map<IntPair, X>"), ("IntPair", "Pair<int, int>")], "Grid", "Map<Pair<int, int>, X>"),
    ([("IntPair", "Pair<int, int>")], "IntPair const&", "Pair<int, int> const&"),
    ([("Index", "int")], "function<uint(Index)>", "function<uint(int)>")]

/-- A row is not found again when an earlier alias's type is inside the type that its alias stands for, when
that type mentions a later alias, when a space follows its alias and no word before it, and when it holds
the type of its alias otherwise. -/
theorem declared_not_full : unseen.Forall fun sample =>
    (single sample.1 sample.2.1).validate = .ok () ∧
    (single sample.1 sample.2.1).DeclaredBy [setter sample.2.2] ∧
    ¬ (compute (single sample.1 sample.2.1) [setter sample.2.2] []).Full := by
  have missed : ∀ sample ∈ unseen, (single sample.1 sample.2.1).validate = .ok () ∧
      ¬ (compute (single sample.1 sample.2.1) [setter sample.2.2] []).Full := by decide +kernel
  have out : ∀ sample ∈ unseen,
      WrittenOut (single sample.1 sample.2.1).aliases sample.2.1 sample.2.2 := by
    simp only [unseen, List.forall_mem_cons]
    refine ⟨?nested, ?later, ?spaced, ?longer, nofun⟩
    case nested =>
      exact @WrittenOut.use _ _ [] [] ⟨"Grid", "Map<Pair<int, int>, X>", 0, none⟩ .same
        (by decide) (by decide) (by decide) (by decide)
    case later =>
      refine @WrittenOut.use _ _ "Map<" ", X>" ⟨"IntPair", "Pair<int, int>", 0, none⟩ ?outer
        (by decide) (by decide) (by decide) (by decide)
      exact @WrittenOut.use _ _ [] [] ⟨"Grid", "Map<IntPair, X>", 0, none⟩ .same
        (by decide) (by decide) (by decide) (by decide)
    case spaced =>
      exact @WrittenOut.use _ _ [] " const&" ⟨"IntPair", "Pair<int, int>", 0, none⟩ .same
        (by decide) (by decide) (by decide) (by decide)
    case longer =>
      exact @WrittenOut.use _ _ "function<uint(" ")>" ⟨"Index", "int", 0, none⟩ .same
        (by decide) (by decide) (by decide) (by decide)
  refine List.forall_iff_forall_mem.mpr fun sample member => ?_
  exact ⟨(missed sample member).1, declaredBy_single (out sample member), (missed sample member).2⟩

end Coverage

end Forwarding
