import Forwarding.Proofs.Storage.Hidden
import Mathlib.Data.List.Induction

/-! Writing a text file is atomic and idempotent.

A write changes one file as a whole or none, and a write that has gone well changes nothing when it is repeated. That
is so for every way of replacing files that is faithful, and so for the steps through a hidden file, whatever the
device refuses. Besides the file only directories are made, on the way that the path takes; where the path goes up
again out of a directory that is missing, that directory stays.
-/

set_option autoImplicit false

namespace Forwarding

open Text

namespace FileTree

variable {t next reached : FileTree} {l m : Location} {p : Path} {text : Text} {content : Bytes} {node : Node}
  {replace : Replacing}

/-! ### Trees -/

/-- A tree as operations on files leave it: every node lies in a directory, and the current directory is there. -/
structure Sound (t : FileTree) : Prop extends Placed t where
  inside : ∀ entry ∈ t.nodes, t.isDirectoryAt entry.1.dropLast = true

instance (t : FileTree) : Decidable t.Sound :=
  decidable_of_iff (t.Grounded ∧ t.isDirectory (.ofLocation t.here) = true ∧
      ∀ entry ∈ t.nodes, t.isDirectoryAt entry.1.dropLast = true)
    ⟨fun ⟨grounded, here, inside⟩ => ⟨⟨grounded, here⟩, inside⟩, fun sound => ⟨sound.grounded, sound.here, sound.inside⟩⟩

theorem Sound.above (sound : t.Sound) (known : t.at? l = some node) : t.isDirectoryAt l.dropLast = true := by
  by_cases root : l = []
  · subst root
    rfl
  · rw [at?_eq root, Option.map_eq_some_iff] at known
    obtain ⟨entry, found, -⟩ := known
    have own : entry.1 = l := by simpa using List.find?_some found
    exact own ▸ sound.inside entry (List.mem_of_find?_eq_some found)

/-- The names of a place lead to it. -/
theorem Sound.passes (sound : t.Sound) (down : ['.', '.'] ∉ l) (short : ∀ name ∈ l, (Bytes.ofText name).length ≤ nameLimit)
    (known : t.at? l = some node) : Passes t [] l := by
  induction l using List.reverseRecOn generalizing node with
  | nil => exact trivial
  | append_singleton front last ih =>
    have directory := sound.above known
    rw [List.dropLast_concat] at directory
    rw [List.mem_append, not_or] at down
    rw [passes_append, Path.follow_of_not_mem down.1, List.nil_append]
    have above := ih down.1 (fun name member => short name (List.mem_append_left _ member)) (beq_iff_eq.mp directory)
    exact ⟨above, directory, short last (List.mem_append_right _ List.mem_cons_self), trivial⟩

theorem Passes.short {names : List Text} (passes : Passes t l names) :
    ∀ name ∈ names, (Bytes.ofText name).length ≤ nameLimit := by
  induction names generalizing l with
  | nil => exact nofun
  | cons name names ih =>
    obtain ⟨-, short, rest⟩ := passes
    exact List.forall_mem_cons.mpr ⟨short, ih rest⟩

/-! ### Paths that go straight to their file -/

/-- A path goes up nowhere, or the directory of what it names is there. -/
def Straight (t : FileTree) (p : Path) : Prop := ['.', '.'] ∉ p.names ∨ t.isDirectory p.parent = true

theorem ensureDirectory_parent_of_nil (none : p.names = []) : t.ensureDirectory p.parent = (t, .none) :=
  ensureDirectory_of_isDirectory (.inl (by rw [Path.parent, none]; rfl))

theorem ensureDirectory_of_file (sound : t.Sound) (straight : t.Straight p) (makes : Makes [] p.parent t reached)
    (found : reached.find p = .ok l) (here : reached.at? l = some (.file content)) :
    t.ensureDirectory p.parent = (t, none) := by
  by_cases given : p.names = []
  · exact ensureDirectory_parent_of_nil given
  rcases straight with down | directory
  · obtain ⟨plain, short, passes, rfl⟩ := find_eq_ok_iff.mp found
    rw [makes.here] at here passes
    have known := (makes.keeps.file_iff List.not_mem_nil).mp here
    -- The file has been there before, and the directories above it with it.
    have names := Path.reach_of_not_mem sound.grounded down
    rw [← names] at passes
    have leads : t.find p = .ok (p.reach t.here) := by
      refine find_eq_ok_iff.mpr ⟨plain, short, ?_, rfl⟩
      rw [← names]
      refine sound.passes ?_ passes.short known
      rw [Path.reach_eq_locate sound.grounded]
      exact Path.not_mem_locate sound.grounded p
    exact ensureDirectory_of_isDirectory (.inr (isDirectory_parent given leads))
  · exact ensureDirectory_of_isDirectory (.inr directory)

theorem at?_ensureDirectory_parent (sound : t.Sound) (straight : t.Straight p)
    (beside : l.dropLast = (p.locate t.here).dropLast) (other : l ≠ p.locate t.here) :
    (t.ensureDirectory p.parent).1.at? l = t.at? l := by
  by_cases given : p.names = []
  · rw [ensureDirectory_parent_of_nil given]
  rcases straight with down | directory
  · rcases (makes_ensureDirectory t p.parent).nodes l List.not_mem_nil with kept | ⟨none, -, front, part, rfl⟩
    · exact kept
    -- What is made is above the directory of the file, or that directory itself.
    · have names := Path.names_eq_concat given
      have within : front ⊆ p.names := fun name member => by
        rw [names]
        exact List.mem_append_left _ (part.subset member)
      have place := Path.reach_of_not_mem sound.grounded (p := ⟨p.root, front⟩) fun member => down (within member)
      rw [← Path.reach_eq_locate sound.grounded, Path.reach_of_not_mem sound.grounded down, names,
        ← List.append_assoc, List.dropLast_concat] at beside
      have root : p.parent.root = p.root := rfl
      rw [root, place] at beside none
      have lengths := congrArg List.length beside
      have short := part.length_le
      rw [List.length_dropLast, List.length_append, List.length_append] at lengths
      refine absurd (List.eq_nil_of_length_eq_zero ?_) (ne_nil_of_at?_eq_none none)
      rw [List.length_append]
      dsimp only at lengths ⊢
      omega
  · rw [ensureDirectory_of_isDirectory (.inr directory)]

/-! ### Where nothing is in the way -/

/-- A path that does not lead to a directory ends in a name. -/
theorem Sound.named (sound : t.Sound) (leads : t.find p = .ok l) (free : t.isDirectoryAt l = false) :
    p.names ≠ [] ∧ p.name ≠ ['.', '.'] := by
  have other : ¬ t.isDirectoryAt l = true := ne_true_of_eq_false free
  obtain ⟨-, -, passes, rfl⟩ := find_eq_ok_iff.mp leads
  constructor
  · intro none
    refine other ?_
    rw [Path.reach, none, List.append_nil]
    split
    · obtain ⟨m, toHere, directory⟩ := isDirectory_iff.mp sound.here
      rwa [(find_eq_ok_iff.mp toHere).2.2.2, Path.reach, Path.ofLocation] at directory
    · rfl
  · intro up
    have given : p.names ≠ [] := by
      intro none
      rw [Path.name, none] at up
      cases up
    rw [Path.names_eq_concat given, up, ← List.append_assoc, passes_append] at passes
    have above := sound.above (beq_iff_eq.mp passes.2.1)
    refine other ?_
    rw [Path.reach, Path.names_eq_concat given, up, ← List.append_assoc, Path.follow_append]
    exact above

theorem replaceFile_of_hides {l : Location} (leads : t.find p = .ok l) (free : t.isDirectoryAt l = false)
    (given : p.names ≠ []) (down : p.name ≠ ['.', '.']) (content : Bytes) : t.replaceFile p content =
      if t.hides p then .ok (t.put l (.file content)) else .error ⟨.nameTooLong, p.toText⟩ := by
  split
  · next hides => exact replaceFile_eq_ok_iff.mpr ⟨hides, given, down, l, leads, free, rfl⟩
  · next long =>
    have plain : ¬ (p.names.any fun name => name.contains '\x00') = true := by
      simpa using (find_eq_ok_iff.mp leads).1
    rw [replaceFile, if_neg plain, if_pos (by simpa using long), fault]

/-- What a write comes to where a path does not lead to a directory. -/
theorem write_of_find (sound : t.Sound) (leads : t.find p = .ok l) (free : t.isDirectoryAt l = false) (text : Text) :
    t.write p text false =
      match t.unchanged p (unixNewlines text) with
      | .error fault => (t, .error (.encoding fault))
      | .ok true => (t, .ok false)
      | .ok false =>
        if t.hides p then (t.put l (.file (Bytes.ofText (unixNewlines text))), .ok true)
        else (t, .error (.storage ⟨.nameTooLong, p.toText⟩)) := by
  obtain ⟨given, down⟩ := sound.named leads free
  have ensured := ensureDirectory_of_isDirectory (.inr (isDirectory_parent given leads))
  have wet : t.write p text false = storeBy atOnce t p text := rfl
  rw [wet, storeBy, ensured]
  dsimp only
  cases t.unchanged p (unixNewlines text) with
  | error fault => rfl
  | ok same =>
    cases same with
    | true => rfl
    | false =>
      dsimp only
      rw [atOnce, replaceFile_of_hides leads free given down]
      cases t.hides p <;> rfl

/-- Nothing is in the way of a write: the path leads to a file that is UTF-8, or to nothing in a directory, and there
is room for a hidden file beside that. -/
structure Clear (t : FileTree) (p : Path) : Prop where
  place : ∃ l, t.find p = .ok l ∧ t.isDirectoryAt l = false ∧
    ∀ content, t.at? l = some (.file content) → ∃ old, Bytes.toText content = .ok old
  room : t.hides p = true

theorem Clear.exists_write (clear : t.Clear p) (sound : t.Sound) (text : Text) :
    ∃ changed, (t.write p text false).2 = .ok changed := by
  obtain ⟨⟨l, leads, free, readable⟩, room⟩ := clear
  have looked : ∃ same, t.unchanged p (unixNewlines text) = .ok same := by
    cases here : t.at? l with
    | none => exact ⟨false, by rw [unchanged, node?, leads]; dsimp only; rw [here]⟩
    | some node =>
      cases node with
      | directory => rw [isDirectoryAt, here] at free; cases free
      | file content =>
        obtain ⟨old, read⟩ := readable content here
        exact ⟨_, by rw [unchanged_of_file leads here, read]; rfl⟩
  obtain ⟨same, looked⟩ := looked
  rw [write_of_find sound leads free, looked]
  cases same with
  | true => exact ⟨false, rfl⟩
  | false => exact ⟨true, by rw [if_pos room]⟩

/-! ### Atomicity -/

/-- What a write of a text does to a file system, and what it answers. -/
structure Atomic (t : FileTree) (p : Path) (text : Text) (outcome : FileTree × Except Failure Bool) : Prop where
  /-- Besides the file nothing changes but that directories come in on the way that the path takes. -/
  elsewhere : Makes [p.locate t.here] p.parent t outcome.1
  refused : ∀ failure, outcome.2 = .error failure → Makes [] p.parent t outcome.1
  written : outcome.2 = .ok true →
    outcome.1.at? (p.locate t.here) = some (.file (Bytes.ofText (unixNewlines text)))
  unchanged : outcome.2 = .ok false → Makes [] p.parent t outcome.1 ∧ t.Holds (p.locate t.here) text
  /-- On a straight path no other name comes into the directory of the file. -/
  alone : t.Straight p → ∀ l, l.dropLast = (p.locate t.here).dropLast → l ≠ p.locate t.here →
    outcome.1.at? l = t.at? l
  /-- On a straight path a file that holds the text already leaves everything as it is. -/
  still : t.Straight p → outcome.2 = .ok false → outcome.1 = t
  /-- Storing the text again, in whatever way, changes nothing. -/
  again : ∀ changed, outcome.2 = .ok changed → ∀ replace, storeBy replace outcome.1 p text = (outcome.1, .ok false)

theorem storeBy_again (directory : p.parent.names = [] ∨ t.isDirectory p.parent = true)
    (same : t.unchanged p (unixNewlines text) = .ok true) (replace : Replacing) :
    storeBy replace t p text = (t, .ok false) := by
  rw [storeBy, ensureDirectory_of_isDirectory directory]
  dsimp only
  rw [same]

theorem atomic_storeBy (sound : t.Sound) (faithful : Faithful replace) (p : Path) (text : Text) :
    Atomic t p text (storeBy replace t p text) := by
  obtain ⟨reached, done, ensured, ends⟩ := storeBy_cases faithful t p text
  have makes := makes_ensureDirectory t p.parent
  have alone := fun straight l => at?_ensureDirectory_parent (l := l) sound straight (p := p)
  rw [ensured] at makes alone
  have grounded := makes.keeps.grounded sound.grounded
  -- Something is refused, the file holds the text already, or it is replaced.
  rcases ends with ⟨failure, refused⟩ | ⟨rfl, ⟨same, left⟩ | ⟨next, replaced, stored⟩⟩
  · rw [refused]
    exact {
      elsewhere := makes.mono (List.nil_subset _)
      refused := fun _ _ => makes
      written := nofun
      unchanged := nofun
      alone := alone
      still := nofun
      again := nofun }
  · obtain ⟨l, leads, holds⟩ := unchanged_eq_true_iff.mp same
    have place := locate_of_find grounded leads
    rw [makes.here] at place
    have held := (makes.keeps.holds_iff List.not_mem_nil).mp holds
    rw [left]
    exact {
      elsewhere := makes.mono (List.nil_subset _)
      refused := nofun
      written := nofun
      unchanged := fun _ => ⟨makes, place ▸ held⟩
      alone := alone
      still := fun straight _ => by
        obtain ⟨content, -, here, -⟩ := holds
        exact congrArg Prod.fst (ensured.symm.trans (ensureDirectory_of_file sound straight makes leads here))
      again := fun _ _ => storeBy_again (isDirectory_ensureDirectory ensured) same }
  · obtain ⟨-, given, down, l, leads, free, rfl⟩ := replaceFile_eq_ok_iff.mp replaced
    have place := locate_of_find grounded leads
    rw [makes.here] at place
    have here : (reached.put l (.file (Bytes.ofText (unixNewlines text)))).at? l = some _ :=
      at?_put_self (ne_nil_of_not_directory free)
    have kept := fun m => isDirectoryAt_put (m := m) free (.file (Bytes.ofText (unixNewlines text)))
    rw [stored]
    exact {
      elsewhere := by
        rw [← place]
        exact (makes.mono (List.nil_subset _)).trans (Same.put _ _ _).makes
      refused := nofun
      written := fun _ => place ▸ here
      unchanged := nofun
      alone := fun straight m beside other => (at?_put_of_ne (place ▸ other)).trans (alone straight m beside other)
      still := nofun
      again := fun _ _ => by
        have directory := (isDirectory_ensureDirectory ensured).imp_right (isDirectory_mono here_put kept)
        refine storeBy_again directory (unchanged_eq_true_iff.mpr ?_)
        exact ⟨l, find_mono here_put kept leads, holds_put free text⟩ }

/-- Writing a text is atomic and can be repeated: as the file system decides by itself, and in the same way when it is
done step by step through a hidden file, whatever name that gets and whatever the device refuses. If the device
refuses nothing, the steps come to what the file system decides; and that is not a refusal where nothing is in the
way. -/
theorem write_atomic (sound : t.Sound) (p : Path) (text : Text) :
    Atomic t p text (t.write p text false) ∧
    (∀ device draws, Atomic t p text (storeBy (replaceThrough device draws) t p text)) ∧
    (∀ draws, (∃ letters ∈ draws, (t.ensureDirectory p.parent).1.node? (t.hidden p letters) = none) →
      (storeBy (replaceThrough .willing draws) t p text).1 = (t.write p text false).1 ∧
        ∀ changed, (storeBy (replaceThrough .willing draws) t p text).2 = .ok changed ↔
          (t.write p text false).2 = .ok changed) ∧
    (t.Clear p → ∃ changed, (t.write p text false).2 = .ok changed) := by
  refine ⟨atomic_storeBy sound faithful_atOnce p text, fun device draws => ?_, fun draws => ?_,
    fun clear => clear.exists_write sound text⟩
  · exact atomic_storeBy sound (faithful_replaceThrough device draws) p text
  · rintro ⟨letters, member, free⟩
    exact storeBy_willing sound.toPlaced member free

/-- A directory with one generated file. -/
def workshop : FileTree where
  here := ["work"]
  nodes := [(["work"], .directory), (["work", "proxies.py"], .file (Bytes.ofText "pass\r\n"))]

theorem write_atomic_workshop : workshop.Sound ∧
    Atomic workshop (.ofText "gen/proxies.py") "pass\n" (workshop.write (.ofText "gen/proxies.py") "pass\n" false) ∧
    (∃ letters ∈ [Letters.any], (workshop.ensureDirectory (.ofText "gen")).1.node?
      (workshop.hidden (.ofText "gen/proxies.py") letters) = none) ∧
    (storeBy (replaceThrough .willing [.any]) workshop (.ofText "gen/proxies.py") "pass\n").1 =
      (workshop.write (.ofText "gen/proxies.py") "pass\n" false).1 := by
  have sound : workshop.Sound := by decide
  have free : ∃ letters ∈ [Letters.any], (workshop.ensureDirectory (.ofText "gen")).1.node?
      (workshop.hidden (.ofText "gen/proxies.py") letters) = none := by decide
  obtain ⟨atomic, -, steps, -⟩ := write_atomic sound (.ofText "gen/proxies.py") "pass\n"
  exact ⟨sound, atomic, free, (steps [.any] free).1⟩

/-- A path that goes up again out of a missing directory leaves the directory behind: where the file holds the text
already, the answer is that nothing has been written, and yet the tree is another one; and beside a file that is
written a name comes in. -/
theorem not_still_of_up :
    (¬ ∀ (t : FileTree) (p : Path) (text : Text), t.Sound → (t.write p text false).2 = .ok false →
      (t.write p text false).1 = t) ∧
    ¬ ∀ (t : FileTree) (p : Path) (text : Text), t.Sound → (t.write p text false).2 = .ok true →
      ∀ l, l.dropLast = (p.locate t.here).dropLast → l ≠ p.locate t.here →
        (t.write p text false).1.at? l = t.at? l := by
  constructor
  · intro still
    have same := still workshop (.ofText "gen/../proxies.py") "pass\n" (by decide) (by decide)
    revert same
    decide
  · intro alone
    have same := alone workshop (.ofText "gen/../proxies.cpp") "" (by decide) (by decide) ["work", "gen"]
      (by decide) (by decide)
    revert same
    decide

end FileTree

end Forwarding
