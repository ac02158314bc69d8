import Forwarding.Proofs.Table.Merge
import Mathlib.Data.List.Basic

/-! Tables as the result of the calls that build them.

Appending a table is the same as making its calls again behind those of the first one. The invariant is
`apply_append`: a call does to the second table alone what it does to it behind the first, as long as no
name that it binds is bound there.
-/

set_option autoImplicit false

namespace Forwarding

open Text Checks

namespace Table

/-- A call that adds something to a table. -/
inductive Call where
  | register (name underlying : Text) (origin : Option Text)
  | declare (d : Declaration)
  | addInclude (header : Text)
  | addNote (n : Note)
  deriving Repr, DecidableEq

def Call.apply (t : Table) : Call → Except Fault Table
  | .register name underlying origin => t.register name underlying origin
  | .declare d => .ok (t.declare d)
  | .addInclude header => .ok (t.addInclude header)
  | .addNote n => .ok (t.addNote n)

/-- Makes calls one after the other, up to the first that is refused. -/
def replay : Table → List Call → Except Fault Table
  | t, [] => .ok t
  | t, call :: rest => do replay (← call.apply t) rest

theorem replay_append (t : Table) (first second : List Call) :
    t.replay (first ++ second) = t.replay first >>= fun next => next.replay second := by
  induction first generalizing t with
  | nil => rfl
  | cons call first ih =>
    simp only [List.cons_append, replay]
    cases call.apply t with
    | error fault => rfl
    | ok next => simp only [ok_bind, ih]

theorem replay_induction {p : Table → Prop} {t next : Table} {calls : List Call} (start : p t)
    (keeps : ∀ {u v : Table} {call : Call}, p u → call.apply u = .ok v → p v) (made : t.replay calls = .ok next) :
    p next := by
  induction calls generalizing t with
  | nil =>
    cases made
    exact start
  | cons call calls ih =>
    obtain ⟨middle, first, rest⟩ := bind_eq_ok.mp made
    exact ih (keeps start first) rest

def aliasNames (t : Table) : List Text := t.aliases.map Alias.name

/-- No alias name is bound in both tables. -/
def Apart (t other : Table) : Prop := ∀ name ∈ other.aliasNames, name ∉ t.aliasNames

instance (t other : Table) : Decidable (t.Apart other) := inferInstanceAs (Decidable (∀ _ ∈ _, _))

variable {t other last next : Table} {call : Call} {calls : List Call}

theorem addInclude_aliases (t : Table) (header : Text) : (t.addInclude header).aliases = t.aliases :=
  (t.addInclude_eq header).2.1

/-- A call keeps the names that are bound, and binds each new one once. -/
theorem aliasNames_apply (made : call.apply t = .ok next) :
    t.aliasNames <+: next.aliasNames ∧ (t.aliasNames.Nodup → next.aliasNames.Nodup) := by
  cases call with
  | register name underlying origin =>
    obtain ⟨-, new, rfl⟩ := register_eq_ok_iff.mp made
    simp only [aliasNames, List.map_append, List.map_singleton]
    refine ⟨List.prefix_append _ _, fun distinct => List.nodup_append.mpr ⟨distinct, by simp, ?_⟩⟩
    intro old member last isLast same
    rw [List.mem_singleton] at isLast
    exact new (by rwa [← isLast, ← same])
  | declare d =>
    cases made
    exact ⟨List.prefix_rfl, id⟩
  | addInclude header =>
    cases made
    simp only [aliasNames, addInclude_aliases]
    exact ⟨List.prefix_rfl, id⟩
  | addNote n =>
    cases made
    exact ⟨List.prefix_rfl, id⟩

theorem aliasNames_replay (made : t.replay calls = .ok next) :
    t.aliasNames <+: next.aliasNames ∧ (t.aliasNames.Nodup → next.aliasNames.Nodup) := by
  refine replay_induction (p := fun u => t.aliasNames <+: u.aliasNames ∧ (t.aliasNames.Nodup → u.aliasNames.Nodup))
    ⟨List.prefix_rfl, id⟩ (fun kept applied => ?_) made
  have step := aliasNames_apply applied
  exact ⟨kept.1.trans step.1, step.2 ∘ kept.2⟩

theorem Placed.apply (placed : t.Placed) (made : call.apply t = .ok next) : next.Placed := by
  cases call with
  | register name underlying origin => exact placed.register made
  | declare d =>
    cases made
    exact placed.declare d
  | addInclude header =>
    cases made
    exact placed.addInclude header
  | addNote n =>
    cases made
    exact placed

theorem nodup_of_replay (built : replay {} calls = .ok t) : t.aliasNames.Nodup :=
  (aliasNames_replay built).2 List.nodup_nil

/-- A table with another one behind it, whatever their alias names. -/
def append (t other : Table) : Table where
  rows := t.rows ++ other.rows
  aliases := t.aliases ++ other.aliases.map (Alias.shift t.rows.length)
  includes := (other.includes.foldl addInclude t).includes
  notes := t.notes ++ other.notes
  sources := t.sources ++ other.sources

theorem append_empty (t : Table) : t.append {} = t := by
  simp [append]

theorem aliasNames_append (t other : Table) :
    (t.append other).aliasNames = t.aliasNames ++ other.aliasNames := by
  simp only [aliasNames, append, List.map_append, List.map_map]
  rfl

/-- Includes are added by themselves: no other part of a table plays a part. -/
theorem includes_foldl {s : Table} (same : s.includes = t.includes) (headers : List Text) :
    (headers.foldl addInclude s).includes = (headers.foldl addInclude t).includes := by
  induction headers generalizing s t with
  | nil => exact same
  | cons header headers ih =>
    refine ih ?_
    simp only [addInclude, same]
    split
    · exact same
    · rfl

theorem mem_includes_foldl (t : Table) (headers : List Text) (header : Text) :
    header ∈ (headers.foldl addInclude t).includes ↔ header ∈ t.includes ∨ header ∈ headers := by
  induction headers generalizing t with
  | nil => simp
  | cons first headers ih =>
    have once : header ∈ (t.addInclude first).includes ↔ header ∈ t.includes ∨ header = first := by
      rw [addInclude]
      split
      · next known =>
        refine ⟨.inl, ?_⟩
        rintro (old | rfl)
        · exact old
        · simpa using known
      · simp
    rw [List.foldl_cons, ih, once, List.mem_cons, or_assoc]

theorem foldl_addInclude (t : Table) (headers : List Text) :
    headers.foldl addInclude t = { t with includes := (headers.foldl addInclude t).includes } := by
  induction headers generalizing t with
  | nil => rfl
  | cons header headers ih =>
    have once : t.addInclude header = { t with includes := (t.addInclude header).includes } := by
      rw [addInclude]
      split <;> rfl
    rw [List.foldl_cons, ih (t.addInclude header)]
    generalize (headers.foldl addInclude (t.addInclude header)).includes = includes
    rw [once]

/-- Behind another table a call does what it does alone, unless it binds a name that is bound there. -/
theorem apply_append (made : call.apply other = .ok next) (apart : t.Apart next) :
    call.apply (t.append other) = .ok (t.append next) := by
  cases call with
  | register name underlying origin =>
    obtain ⟨named, new, rfl⟩ := register_eq_ok_iff.mp made
    refine register_eq_ok_iff.mpr ⟨named, ?_, ?_⟩
    · have free : name ∉ t.aliasNames := apart name (by simp [aliasNames])
      have all := aliasNames_append t other
      rw [aliasNames] at all
      rw [all, List.mem_append, not_or]
      exact ⟨free, new⟩
    · -- The position of the alias counts the rows of both tables.
      simp [append, Alias.shift, Nat.add_comm]
  | declare d =>
    cases made
    simp [Call.apply, declare, append]
  | addInclude header =>
    cases made
    have known := mem_includes_foldl t other.includes header
    simp only [Call.apply, addInclude, append, List.contains_iff_mem, Except.ok.injEq]
    by_cases old : header ∈ other.includes
    · rw [if_pos (known.mpr (.inr old)), if_pos old]
    · rw [if_neg old, List.foldl_append, List.foldl_cons, List.foldl_nil, addInclude]
      simp only [List.contains_iff_mem]
      split <;> rfl
  | addNote n =>
    cases made
    simp [Call.apply, addNote, append]

theorem replay_append_of_apart (made : other.replay calls = .ok next) (apart : t.Apart next) :
    (t.append other).replay calls = .ok (t.append next) := by
  induction calls generalizing other with
  | nil =>
    cases made
    rfl
  | cons call calls ih =>
    obtain ⟨middle, first, rest⟩ := bind_eq_ok.mp made
    -- What is bound on the way stays bound, so that the final table tells all names.
    have kept := (aliasNames_replay rest).1
    have step := apply_append first fun name member => apart name (kept.subset member)
    rw [replay, step, ok_bind]
    exact ih rest

/-- The calls of two tables, one behind the other, build the first with the second behind it. -/
theorem replay_calls {first second : List Call} (built : replay {} first = .ok t)
    (more : replay {} second = .ok other) (apart : t.Apart other) :
    replay {} (first ++ second) = .ok (t.append other) := by
  have run := replay_append_of_apart more apart
  rw [append_empty] at run
  rw [replay_append, built, ok_bind, run]

/-! ### What appending a table comes to -/

theorem merge_of_apart (apart : t.Apart other) (distinct : other.aliasNames.Nodup) :
    t.merge other = (t.append other, none) := by
  have new : ∀ a ∈ other.aliases, a.name ∉ t.aliases.map Alias.name := fun a member =>
    apart a.name (List.mem_map_of_mem member)
  rw [merge, addAliases_eq new distinct]
  dsimp only
  rw [foldl_addInclude, append]
  simp only [Prod.mk.injEq, and_true, Table.mk.injEq, true_and]
  exact includes_foldl (by rfl) _

/-- Only the first alias whose name is taken is refused, and it is told where that alias is from; the aliases
before it have been added, and nothing else. -/
theorem merge_of_taken {earlier later : List Alias} {a : Alias} (distinct : other.aliasNames.Nodup)
    (parts : other.aliases = earlier ++ a :: later) (new : ∀ b ∈ earlier, b.name ∉ t.aliasNames)
    (taken : a.name ∈ t.aliasNames) :
    t.merge other = ({ t with aliases := t.aliases ++ earlier.map (Alias.shift t.rows.length) },
      some ⟨.aliasRedefined a.name none, a.origin⟩) := by
  have names : (earlier.map Alias.name).Nodup := by
    rw [aliasNames, parts, List.map_append, List.nodup_append] at distinct
    exact distinct.1
  have added := @addAliases_append t t.rows.length earlier (a :: later) new names
  -- A name that is bound stays bound behind the aliases that were added.
  have bound : ({ t with aliases := t.aliases ++ earlier.map (Alias.shift t.rows.length) } : Table).alias? a.name ≠
      none := by
    rw [ne_eq, alias?_eq_none_iff, List.map_append, List.mem_append, not_not]
    exact .inl taken
  rw [merge, parts, added, addAliases, if_pos (Option.isSome_iff_ne_none.mpr bound)]

theorem exists_taken (shared : ¬ t.Apart other) :
    ∃ earlier a later, other.aliases = earlier ++ a :: later ∧
      (∀ b ∈ earlier, b.name ∉ t.aliasNames) ∧ a.name ∈ t.aliasNames := by
  cases found : other.aliases.find? fun a => decide (a.name ∈ t.aliasNames) with
  | none =>
    rw [List.find?_eq_none] at found
    refine absurd (fun name member => ?_) shared
    obtain ⟨a, inside, rfl⟩ := List.mem_map.mp member
    simpa using found a inside
  | some a =>
    obtain ⟨taken, earlier, later, parts, new⟩ := List.find?_eq_some_iff_append.mp found
    exact ⟨earlier, a, later, parts, fun b member => by simpa using new b member, by simpa using taken⟩

theorem exists_of_not_apart (distinct : other.aliasNames.Nodup) (shared : ¬ t.Apart other) :
    ∃ earlier a later, other.aliases = earlier ++ a :: later ∧
      (∀ b ∈ earlier, b.name ∉ t.aliasNames) ∧ a.name ∈ t.aliasNames ∧
        (t.merge other).2 = some ⟨.aliasRedefined a.name none, a.origin⟩ := by
  obtain ⟨earlier, a, later, parts, new, taken⟩ := exists_taken shared
  exact ⟨earlier, a, later, parts, new, taken, by rw [merge_of_taken distinct parts new taken]⟩

theorem apart_of_merge {whole : Table} (distinct : other.aliasNames.Nodup) (merged : t.merge other = (whole, none)) :
    t.Apart other := by
  by_contra shared
  obtain ⟨_, a, _, -, -, -, refused⟩ := exists_of_not_apart distinct shared
  rw [merged] at refused
  cases refused

/-- The two tables as one, if no alias name is bound in both. -/
def merged? (t other : Table) : Option Table :=
  match t.merge other with
  | (whole, none) => some whole
  | (_, some _) => none

theorem merged?_eq (distinct : other.aliasNames.Nodup) :
    t.merged? other = if t.Apart other then some (t.append other) else none := by
  split
  · next apart => rw [merged?, merge_of_apart apart distinct]
  · next shared =>
    obtain ⟨_, a, _, -, -, -, refused⟩ := exists_of_not_apart distinct shared
    rw [merged?]
    split
    · next result =>
      rw [result] at refused
      cases refused
    · rfl

theorem apart_append : t.Apart (other.append last) ↔ t.Apart other ∧ t.Apart last := by
  simp only [Apart, aliasNames_append, List.forall_mem_append]

theorem append_apart : (t.append other).Apart last ↔ t.Apart last ∧ other.Apart last := by
  simp only [Apart, aliasNames_append, List.mem_append, not_or]
  exact ⟨fun both => ⟨fun name member => (both name member).1, fun name member => (both name member).2⟩,
    fun both name member => ⟨both.1 name member, both.2 name member⟩⟩

section
variable {first second third : List Call} (built : replay {} first = .ok t)
  (more : replay {} second = .ok other) (rest : replay {} third = .ok last)
include built more rest

/-- The calls of three tables are made in the same order in either way. -/
theorem append_assoc (one : t.Apart other) (two : t.Apart last) (three : other.Apart last) :
    (t.append other).append last = t.append (other.append last) := by
  have left := replay_calls (replay_calls built more one) rest (append_apart.mpr ⟨two, three⟩)
  have right := replay_calls built (replay_calls more rest three) (apart_append.mpr ⟨one, two⟩)
  rw [List.append_assoc, right] at left
  exact (Except.ok.inj left).symm

theorem merged?_assoc : ((t.merged? other).bind fun whole => whole.merged? last) =
    (other.merged? last).bind fun whole => t.merged? whole := by
  have distinct := nodup_of_replay rest
  rw [merged?_eq (nodup_of_replay more), merged?_eq distinct]
  -- Whether the outer tables are apart comes up last on either side, when the inner one joins both.
  by_cases one : t.Apart other <;> by_cases three : other.Apart last
  · have whole := nodup_of_replay (replay_calls more rest three)
    rw [if_pos one, if_pos three, Option.bind_some, Option.bind_some, merged?_eq distinct,
      merged?_eq whole]
    by_cases two : t.Apart last
    · rw [if_pos (append_apart.mpr ⟨two, three⟩), if_pos (apart_append.mpr ⟨one, two⟩),
        append_assoc built more rest one two three]
    · rw [if_neg fun apart => two (append_apart.mp apart).1, if_neg fun apart => two (apart_append.mp apart).2]
  · rw [if_pos one, if_neg three, Option.bind_some, Option.bind_none, merged?_eq distinct,
      if_neg fun apart => three (append_apart.mp apart).2]
  · have whole := nodup_of_replay (replay_calls more rest three)
    rw [if_neg one, if_pos three, Option.bind_some, Option.bind_none, merged?_eq whole,
      if_neg fun apart => one (apart_append.mp apart).1]
  · rw [if_neg one, if_neg three]
    rfl

end

/-- Appending a table is making its calls again behind those of the first one: with no alias name in both,
the result is the table of all calls in order; otherwise the first alias is refused whose name is taken.
So it does not matter which two of three tables are made one first, and the whole table is valid just when
the table of all calls is. -/
theorem merge_replay {first second : List Call} (built : replay {} first = .ok t)
    (more : replay {} second = .ok other) :
    (t.Apart other → ∃ whole, t.merge other = (whole, none) ∧ replay {} (first ++ second) = .ok whole) ∧
    (¬ t.Apart other → ∃ earlier a later, other.aliases = earlier ++ a :: later ∧
      (∀ b ∈ earlier, b.name ∉ t.aliasNames) ∧ a.name ∈ t.aliasNames ∧
        (t.merge other).2 = some ⟨.aliasRedefined a.name none, a.origin⟩) ∧
    (∀ third last, replay {} third = .ok last →
      ((t.merged? other).bind fun whole => whole.merged? last) =
        (other.merged? last).bind fun whole => t.merged? whole) ∧
    (∀ whole single, t.merge other = (whole, none) → replay {} (first ++ second) = .ok single →
      (whole.validate = .ok () ↔ single.validate = .ok ())) := by
  have distinct := nodup_of_replay more
  refine ⟨fun apart => ⟨_, merge_of_apart apart distinct, replay_calls built more apart⟩,
    exists_of_not_apart distinct, fun third last rest => merged?_assoc built more rest, ?_⟩
  intro whole single merged replayed
  have apart := apart_of_merge distinct merged
  rw [merge_of_apart apart distinct] at merged
  rw [replay_calls built more apart] at replayed
  cases merged
  cases replayed
  rfl

namespace Call

def pairs : List Call := [
  .addInclude "<pair.h>",
  .declare { subject := "A", result := "void", method := "f", parameters := ["int"] },
  .register "IntPair" "Pair<int,  int>" (some "a:2"),
  .declare { subject := "A", result := "IntPair", method := "g" }]

/-- Calls that share an include with those for pairs. -/
def grids : List Call := [
  .addInclude "<grid.h>", .addInclude "<pair.h>",
  .declare { subject := "B", result := "int", method := "f" },
  .register "Grid" "Map<int, Cell>" none,
  .addNote { kind := .todo, text := "draw" },
  .declare { subject := "B", result := "void", method := "h", parameters := ["Grid", "IntPair"] }]

/-- Calls that bind a name again, behind one that is new. -/
def clashing : List Call := [
  .register "Cell" "Pair<int, Cell>" (some "c:1"), .register "IntPair" "Pair<int, int>" (some "c:2")]

end Call

theorem merge_replay_pairs : ∃ one two three, replay {} Call.pairs = .ok one ∧
    replay {} Call.grids = .ok two ∧ replay {} Call.clashing = .ok three ∧
    (one.Apart two ∧ ∃ whole, one.merge two = (whole, none) ∧
      replay {} (Call.pairs ++ Call.grids) = .ok whole ∧ whole.validate = .ok ()) ∧
    (¬ one.Apart three ∧ ∃ a : Alias, (one.merge three).2 = some ⟨.aliasRedefined a.name none, a.origin⟩) ∧
    ((one.merged? two).bind fun whole => whole.merged? three) =
      (two.merged? three).bind fun whole => one.merged? whole := by
  refine ⟨_, _, _, rfl, rfl, rfl, ⟨by decide +kernel, ?_⟩, ⟨by decide +kernel, ?_⟩, ?_⟩
  · obtain ⟨whole, merged, replayed⟩ := (@merge_replay _ _ Call.pairs Call.grids rfl rfl).1
      (by decide +kernel)
    refine ⟨whole, merged, replayed, ?_⟩
    cases replayed
    decide +kernel
  · obtain ⟨_, a, _, -, -, -, refused⟩ :=
      (@merge_replay _ _ Call.pairs Call.clashing rfl rfl).2.1 (by decide +kernel)
    exact ⟨a, refused⟩
  · exact (@merge_replay _ _ Call.pairs Call.grids rfl rfl).2.2.1 Call.clashing _ rfl

end Table

end Forwarding
