import Forwarding.Proofs.Storage.FileTree
import Forwarding.Proofs.Text.Bytes
import Forwarding.Storage.Write

/-! What making directories and storing a text come to.

While directories are made nothing changes but that directories come in where nothing has been, and only on the way
that the path takes. When none is refused, the path names a directory behind that, and making it again changes nothing.

When a text is stored, the directories above the file are made first. Then the file is left alone because it holds the
text, or it is replaced, or something has been refused, and nothing else has changed.
-/

set_option autoImplicit false

namespace Forwarding

open Text

namespace FileTree

variable {t next last : FileTree} {l m : Location} {places more : List Location} {p q : Path}

/-! ### Directories on a way -/

/-- Elsewhere than at some places nothing has changed but that directories have been made where a path or a beginning
of it leads. -/
structure Makes (places : List Location) (p : Path) (t next : FileTree) : Prop where
  here : next.here = t.here
  nodes : ∀ l ∉ places, next.at? l = t.at? l ∨ t.at? l = none ∧ next.at? l = some .directory ∧
    ∃ front, front <+: p.names ∧ l = (Path.mk p.root front).reach t.here

namespace Makes

theorem refl (t : FileTree) : Makes places p t t := ⟨rfl, fun _ _ => .inl rfl⟩

theorem keeps (makes : Makes places p t next) : Keeps places t next :=
  ⟨makes.here, fun l other => (makes.nodes l other).imp_right fun made => ⟨made.1, made.2.1⟩⟩

theorem mono (makes : Makes places p t next) (within : places ⊆ more) : Makes more p t next :=
  ⟨makes.here, fun l other => makes.nodes l fun member => other (within member)⟩

theorem trans (one : Makes places p t next) (two : Makes places p next last) : Makes places p t last := by
  refine ⟨two.here.trans one.here, fun l other => ?_⟩
  rcases one.nodes l other, two.nodes l other with ⟨kept | ⟨new, made, way⟩, again | ⟨none, later, way'⟩⟩
  · exact .inl (again.trans kept)
  · exact .inr ⟨kept ▸ none, later, one.here ▸ way'⟩
  · exact .inr ⟨new, again.trans made, way⟩
  · rw [made] at none
    cases none

/-- What is made on a way is made on any way that goes on from it. -/
theorem onwards (makes : Makes places p t next) (root : p.root = q.root) (begins : p.names <+: q.names) :
    Makes places q t next := by
  refine ⟨makes.here, fun l other => (makes.nodes l other).imp_right fun ⟨new, made, front, part, leads⟩ => ?_⟩
  exact ⟨new, made, front, part.trans begins, root ▸ leads⟩

theorem directory (makes : Makes [] p t next) (directory : t.isDirectoryAt m = true) :
    next.isDirectoryAt m = true := by
  rcases makes.nodes m List.not_mem_nil with kept | ⟨none, -⟩
  · rwa [isDirectoryAt, kept]
  · rw [isDirectoryAt, none] at directory
    cases directory

theorem isDirectory (makes : Makes [] p t next) (directory : t.isDirectory q = true) : next.isDirectory q = true :=
  isDirectory_mono makes.here (fun _ => makes.directory) directory

end Makes

theorem Same.makes (same : Same places t next) : Makes places p t next :=
  ⟨same.here, fun l other => .inl (same.nodes l other)⟩

/-! ### One directory -/

theorem makeDirectory_cases (made : t.makeDirectory p = .ok next) :
    ∃ l, t.find p = .ok l ∧ t.at? l = none ∧ t.isDirectoryAt l.dropLast = true ∧ next = t.put l .directory := by
  rw [makeDirectory] at made
  split at made
  · cases made
  · next l found =>
    split at made
    · cases made
    · next new =>
      split at made
      · next above =>
        cases made
        exact ⟨l, found, by simpa using new, above, rfl⟩
      · cases made

theorem ne_nil_of_at?_eq_none (none : t.at? l = none) : l ≠ [] := by
  rintro rfl
  cases none

theorem isDirectoryAt_of_at?_eq_none (none : t.at? l = none) : t.isDirectoryAt l = false := by
  rw [isDirectoryAt, none]
  rfl

theorem makes_of_makeDirectory (made : t.makeDirectory p = .ok next) : Makes [] p t next := by
  obtain ⟨l, found, none, -, rfl⟩ := makeDirectory_cases made
  refine ⟨here_put, fun m _ => ?_⟩
  by_cases own : m = l
  · subst own
    refine .inr ⟨none, at?_put_self (ne_nil_of_at?_eq_none none), p.names, List.prefix_rfl, ?_⟩
    exact (find_eq_ok_iff.mp found).2.2.2
  · exact .inl (at?_put_of_ne own)

theorem isDirectory_of_makeDirectory (made : t.makeDirectory p = .ok next) : next.isDirectory p = true := by
  obtain ⟨l, found, none, -, rfl⟩ := makeDirectory_cases made
  have kept := fun m => isDirectoryAt_put (m := m) (isDirectoryAt_of_at?_eq_none none) .directory
  refine isDirectory_iff.mpr ⟨l, find_mono here_put kept found, ?_⟩
  rw [isDirectoryAt, at?_put_self (ne_nil_of_at?_eq_none none)]
  rfl

/-- A directory that is there cannot be made, and that settles it. -/
theorem makeDirectory_of_isDirectory (directory : t.isDirectory p = true) :
    t.makeDirectory p = .error ⟨.alreadyExists, p.toText⟩ := by
  obtain ⟨l, found, here⟩ := isDirectory_iff.mp directory
  have known : (t.at? l).isSome = true := by
    rw [isDirectoryAt, beq_iff_eq] at here
    rw [here]
    rfl
  rw [makeDirectory, found]
  dsimp only
  rw [if_pos known, fault]

/-! ### A directory and those above it -/

theorem makes_ensureFrom (root : Text) (depth : Nat) (t : FileTree) (names : List Text) :
    Makes [] ⟨root, names.reverse⟩ t (ensureFrom root depth t names).1 := by
  -- What settles a refusal only looks at the tree.
  have looks : ∀ (t : FileTree) (p : Path) (fault : StorageFault),
      (if t.isDirectory p then (t, none) else (t, some fault)).1 = t := by
    intro t p fault
    split <;> rfl
  induction depth generalizing t names with
  | zero => cases names <;> exact .refl t
  | succ depth ih =>
    cases names with
    | nil => exact .refl t
    | cons name outer =>
      rw [ensureFrom]
      split
      · next made found => exact makes_of_makeDirectory found
      split
      · have above : Makes [] ⟨root, (name :: outer).reverse⟩ t (ensureFrom root depth t outer).1 :=
          (ih t outer).onwards rfl (by simp)
        split
        · next reached fault found => rwa [found] at above
        · next reached found =>
          rw [found] at above
          split
          · next made again => exact above.trans (makes_of_makeDirectory again)
          split
          · exact above
          · rwa [looks]
      split
      · exact .refl t
      · rw [looks]
        exact .refl t

theorem makes_ensureDirectory (t : FileTree) (p : Path) : Makes [] p t (t.ensureDirectory p).1 := by
  have makes := makes_ensureFrom p.root depthLimit t p.names.reverse
  rwa [List.reverse_reverse] at makes

theorem keeps_ensureDirectory (t : FileTree) (p : Path) : Keeps [] t (t.ensureDirectory p).1 :=
  (makes_ensureDirectory t p).keeps

theorem isDirectory_ensureFrom {root : Text} {depth : Nat} {names : List Text}
    (done : ensureFrom root depth t names = (next, none)) :
    names = [] ∨ next.isDirectory ⟨root, names.reverse⟩ = true := by
  have settled : ∀ {t : FileTree} {p : Path} {fault : StorageFault},
      (if t.isDirectory p then (t, none) else (t, some fault)) = (next, none) → next.isDirectory p = true := by
    intro t p fault done
    split at done
    · next directory =>
      cases done
      exact directory
    · cases done
  cases names with
  | nil => exact .inl rfl
  | cons name outer =>
    refine .inr ?_
    cases depth with
    | zero => cases done
    | succ depth =>
      rw [ensureFrom] at done
      split at done
      · next made found =>
        cases done
        exact isDirectory_of_makeDirectory found
      split at done
      · split at done
        · cases done
        split at done
        · next made again =>
          cases done
          exact isDirectory_of_makeDirectory again
        split at done
        · cases done
        · exact settled done
      split at done
      · cases done
      · exact settled done

/-- A path without names stands for a directory that nothing has to be made for. -/
theorem isDirectory_ensureDirectory (done : t.ensureDirectory p = (next, none)) :
    p.names = [] ∨ next.isDirectory p = true := by
  have ensured := isDirectory_ensureFrom done
  rwa [List.reverse_eq_nil_iff, List.reverse_reverse] at ensured

theorem ensureDirectory_of_isDirectory (directory : p.names = [] ∨ t.isDirectory p = true) :
    t.ensureDirectory p = (t, none) := by
  obtain ⟨root, names⟩ := p
  rw [ensureDirectory]
  cases parts : names.reverse with
  | nil => rfl
  | cons name outer =>
    have whole : (name :: outer).reverse = names := by rw [← parts, List.reverse_reverse]
    have directory : t.isDirectory ⟨root, names⟩ = true := directory.resolve_left (by rintro rfl; cases parts)
    rw [depthLimit, ensureFrom, whole, makeDirectory_of_isDirectory directory]
    simp [directory]

/-! ### What a file holds -/

variable {text : Text} {content : Bytes} {replace : Replacing}

theorem unchanged_of_file (found : t.find p = .ok l) (here : t.at? l = some (.file content)) (text : Text) :
    t.unchanged p text = (Bytes.toText content).map (unixNewlines · == text) := by
  rw [unchanged, node?, found]
  dsimp only
  rw [here]
  dsimp only
  rw [holds]
  cases Bytes.toText content <;> rfl

theorem unchanged_eq_true_iff : t.unchanged p (unixNewlines text) = .ok true ↔
    ∃ l, t.find p = .ok l ∧ t.Holds l text := by
  constructor
  · intro same
    cases known : t.node? p with
    | none =>
      rw [unchanged, known] at same
      cases same
    | some node =>
      obtain ⟨l, leads, here⟩ := node?_eq_some_iff.mp known
      cases node with
      | directory =>
        rw [unchanged, known] at same
        cases same
      | file content =>
        rw [unchanged_of_file leads here] at same
        cases read : Bytes.toText content with
        | error fault =>
          rw [read] at same
          cases same
        | ok found => exact ⟨l, leads, content, found, here, read, by simpa [read, Except.map] using same⟩
  · rintro ⟨l, leads, content, found, here, read, same⟩
    rw [unchanged_of_file leads here, read, Except.map, same, beq_self_eq_true]

/-! ### Replacing -/

theorem replaceFile_eq_ok_iff : t.replaceFile p content = .ok next ↔
    t.hides p = true ∧ p.names ≠ [] ∧ p.name ≠ ['.', '.'] ∧
      ∃ l, t.find p = .ok l ∧ t.isDirectoryAt l = false ∧ next = t.put l (.file content) := by
  rw [replaceFile]
  split
  · next null =>
    refine iff_of_false nofun ?_
    rintro ⟨-, -, -, l, found, -⟩
    obtain ⟨name, member, inside⟩ := List.any_eq_true.mp null
    exact (find_eq_ok_iff.mp found).1 name member (by simpa using inside)
  split
  · next long => exact iff_of_false nofun fun parts => by simp [parts.1] at long
  split
  · next named =>
    rw [Bool.or_eq_true, List.isEmpty_iff, beq_iff_eq] at named
    exact iff_of_false nofun fun parts => named.elim parts.2.1 parts.2.2.1
  next short named =>
  rw [Bool.or_eq_true, List.isEmpty_iff, beq_iff_eq, not_or] at named
  have hides : t.hides p = true := by simpa using short
  cases t.find p with
  | error reason => exact iff_of_false nofun fun ⟨_, _, _, _, found, _⟩ => nomatch found
  | ok l =>
    dsimp only
    split
    · next directory =>
      refine iff_of_false nofun ?_
      rintro ⟨-, -, -, m, found, free, -⟩
      cases found
      rw [directory] at free
      cases free
    · next free =>
      constructor
      · intro replaced
        cases replaced
        exact ⟨hides, named.1, named.2, l, rfl, by simpa using free, rfl⟩
      · rintro ⟨-, -, -, m, found, -, rfl⟩
        cases found
        rfl

/-- A way of replacing files that leaves everything as it was, unless it has the outcome that the file system
alone decides on. -/
def Faithful (replace : Replacing) : Prop :=
  ∀ t p content, (∃ fault, replace t p content = (t, some fault)) ∨
    ∃ next, t.replaceFile p content = .ok next ∧ replace t p content = (next, none)

theorem faithful_atOnce : Faithful atOnce := by
  intro t p content
  rw [atOnce]
  cases replaced : t.replaceFile p content with
  | error fault => exact .inl ⟨fault, rfl⟩
  | ok next => exact .inr ⟨next, rfl, rfl⟩

/-! ### Storing -/

theorem storeBy_cases (faithful : Faithful replace) (t : FileTree) (p : Path) (text : Text) :
    ∃ reached done, t.ensureDirectory p.parent = (reached, done) ∧
      ((∃ failure, storeBy replace t p text = (reached, .error failure)) ∨
      done = none ∧
        (reached.unchanged p (unixNewlines text) = .ok true ∧ storeBy replace t p text = (reached, .ok false) ∨
        ∃ next, reached.replaceFile p (Bytes.ofText (unixNewlines text)) = .ok next ∧
          storeBy replace t p text = (next, .ok true))) := by
  rw [storeBy]
  split
  · next reached fault made => exact ⟨reached, some fault, made, .inl ⟨_, rfl⟩⟩
  · next reached made =>
    refine ⟨reached, none, made, ?_⟩
    split
    · exact .inl ⟨_, rfl⟩
    · next same => exact .inr ⟨rfl, .inl ⟨same, rfl⟩⟩
    · rcases faithful reached p (Bytes.ofText (unixNewlines text)) with ⟨fault, refused⟩ | ⟨next, replaced, done⟩
      · rw [refused]
        exact .inl ⟨_, rfl⟩
      · rw [done]
        exact .inr ⟨rfl, .inr ⟨next, replaced, rfl⟩⟩

/-- Where a text could be stored, only its place has changed, and the place holds the text; otherwise
directories may have been made, and nothing else. -/
theorem store_cases (grounded : t.Grounded) (p : Path) (text : Text) :
    (∃ failure, (t.store p text).2 = .error failure ∧ Keeps [] t (t.store p text).1) ∨
    ∃ changed, (t.store p text).2 = .ok changed ∧ Keeps [p.locate t.here] t (t.store p text).1 ∧
      (t.store p text).1.Holds (p.locate t.here) text := by
  rw [store]
  obtain ⟨reached, done, ensured, ends⟩ := storeBy_cases faithful_atOnce t p text
  have above := keeps_ensureDirectory t p.parent
  rw [ensured] at above
  have wide : Keeps [p.locate t.here] t reached := above.mono (List.nil_subset _)
  rcases ends with ⟨failure, refused⟩ | ⟨-, ⟨same, stored⟩ | ⟨next, replaced, stored⟩⟩
  · rw [refused]
    exact .inl ⟨failure, rfl, above⟩
  · -- What holds the text already is left alone.
    obtain ⟨l, leads, holds⟩ := unchanged_eq_true_iff.mp same
    obtain rfl := locate_of_find (above.grounded grounded) leads
    rw [above.here] at holds
    rw [stored]
    exact .inr ⟨_, rfl, wide, holds⟩
  · obtain ⟨-, -, -, l, leads, free, rfl⟩ := replaceFile_eq_ok_iff.mp replaced
    obtain rfl := locate_of_find (above.grounded grounded) leads
    rw [above.here] at free stored
    rw [stored]
    exact .inr ⟨_, rfl, wide.trans (Same.put _ _ _).keeps, holds_put free text⟩

theorem write_cases (grounded : t.Grounded) (p : Path) (text : Text) (dryRun : Bool) :
    (∃ failure, (t.write p text dryRun).2 = .error failure ∧ Keeps [] t (t.write p text dryRun).1) ∨
    ∃ changed, (t.write p text dryRun).2 = .ok changed ∧ Keeps [p.locate t.here] t (t.write p text dryRun).1 ∧
      (dryRun = false → (t.write p text dryRun).1.Holds (p.locate t.here) text) := by
  cases dryRun with
  | true => exact .inr ⟨false, rfl, .refl t, nofun⟩
  | false =>
    rcases store_cases grounded p text with refused | ⟨changed, stored, keeps, holds⟩
    · exact .inl refused
    · exact .inr ⟨changed, stored, keeps, fun _ => holds⟩

end FileTree

end Forwarding
