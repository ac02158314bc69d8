import Forwarding.Proofs.Text.Bytes
import Forwarding.Proofs.Text.Join
import Forwarding.Proofs.Text.Words
import Forwarding.Storage.FileTree
import Forwarding.Text.Lines

/-! Where paths lead, and what the operations on files change and keep, place by place.

A path leads where its names lead when they are followed without asking the file system, if it leads anywhere;
and it does so exactly if it is within the limits and every place that its names pass is a directory. So where paths
lead depends on the directories only.
-/

set_option autoImplicit false

namespace Forwarding

open Text

namespace Path

theorem follow_append (here : Location) (names more : List Text) :
    follow here (names ++ more) = follow (follow here names) more := by
  induction names generalizing here with
  | nil => rfl
  | cons name names ih =>
    rw [List.cons_append, follow, follow]
    split
    · exact ih here.dropLast
    · exact ih (here ++ [name])

theorem follow_cons (here : Location) (name : Text) (names : List Text) :
    follow here (name :: names) = follow (follow here [name]) names := follow_append here [name] names

theorem follow_of_not_mem {here : Location} {names : List Text} (down : ['.', '.'] ∉ names) :
    follow here names = here ++ names := by
  induction names generalizing here with
  | nil => simp [follow]
  | cons name names ih =>
    rw [List.mem_cons, not_or] at down
    rw [follow, if_neg (by simpa using Ne.symm down.1), ih down.2, List.append_assoc]
    rfl

theorem not_mem_follow {here : Location} (down : ['.', '.'] ∉ here) (names : List Text) :
    ['.', '.'] ∉ follow here names := by
  induction names generalizing here with
  | nil => exact down
  | cons name names ih =>
    rw [follow]
    split
    · exact ih fun member => down (List.dropLast_subset here member)
    · next other => exact ih (by simpa [down] using Ne.symm (by simpa using other))

theorem not_mem_locate {here : Location} (down : ['.', '.'] ∉ here) (p : Path) : ['.', '.'] ∉ p.locate here := by
  rw [locate]
  split
  · exact not_mem_follow down _
  · exact not_mem_follow List.not_mem_nil _

theorem mem_of_mem_follow {here : Location} {names : List Text} {name : Text} (member : name ∈ follow here names) :
    name ∈ here ∨ name ∈ names := by
  induction names generalizing here with
  | nil => exact .inl member
  | cons first names ih =>
    rw [follow] at member
    split at member
    · exact (ih member).imp (List.dropLast_subset here ·) (List.mem_cons_of_mem first)
    · rcases ih member with before | later
      · rcases List.mem_append.mp before with start | own
        · exact .inl start
        · exact .inr (List.mem_singleton.mp own ▸ List.mem_cons_self)
      · exact .inr (List.mem_cons_of_mem first later)

theorem getLast?_locate {p : Path} {name : Text} (last : p.names.getLast? = some name) (down : name ≠ ['.', '.'])
    (here : Location) : (p.locate here).getLast? = some name := by
  obtain ⟨front, names⟩ := List.getLast?_eq_some_iff.mp last
  rw [locate, names, follow_append, follow, if_neg (by simpa using down), follow]
  exact List.getLast?_concat

theorem mem_of_mem_names {t name : Text} {c : Char} (member : name ∈ (ofText t).names) (inside : c ∈ name) : c ∈ t :=
  mem_of_mem_runs (List.mem_filter.mp member).1 inside

theorem exists_getLast?_names {ending : Text} (given : ending ≠ []) (dot : ending ≠ ['.'])
    (oneName : ∀ c ∈ ending, isSlash c = false) (t : Text) :
    ∃ front, (ofText (t ++ ending)).names.getLast? = some (front ++ ending) := by
  have outside : ∀ c ∈ ending, (!isSlash c) = true := fun c member => by simp [oneName c member]
  obtain ⟨front, last⟩ := exists_getLast?_runs given outside t
  obtain ⟨before, parts⟩ := List.getLast?_eq_some_iff.mp last
  refine ⟨front, ?_⟩
  rw [ofText]
  dsimp only
  have kept : front ++ ending ≠ ['.'] := by
    cases front with
    | nil => exact dot
    | cons c front => exact fun same => given (List.append_eq_nil_iff.mp (List.cons.inj same).2).2
  rw [parts, List.filter_append, List.filter_cons_of_pos (by simpa using kept)]
  exact List.getLast?_concat

theorem names_eq_concat {p : Path} (given : p.names ≠ []) : p.names = p.parent.names ++ [p.name] := by
  rw [parent, name, List.getLast?_eq_some_getLast given, Option.getD_some, List.dropLast_concat_getLast]

/-- Where the names from the root lead that a path stands for. -/
def reach (here : Location) (p : Path) : Location := follow [] ((if p.root.isEmpty then here else []) ++ p.names)

theorem reach_eq_locate {here : Location} (grounded : ['.', '.'] ∉ here) (p : Path) :
    p.reach here = p.locate here := by
  rw [reach, locate, follow_append]
  split
  · rw [follow_of_not_mem grounded, List.nil_append]
  · rfl

theorem reach_of_not_mem {here : Location} (grounded : ['.', '.'] ∉ here) {p : Path} (down : ['.', '.'] ∉ p.names) :
    p.reach here = (if p.root.isEmpty then here else []) ++ p.names := by
  rw [reach_eq_locate grounded, locate, follow_of_not_mem down]

end Path

namespace FileTree

/-- The current directory is given by names that lead down. -/
def Grounded (t : FileTree) : Prop := ['.', '.'] ∉ t.here

instance (t : FileTree) : Decidable t.Grounded := inferInstanceAs (Decidable (_ ∉ _))

variable {t next : FileTree} {l m : Location} {p : Path} {r : Reached} {names : List Text}

/-! ### What is seen from a place -/

/-- A place that has been reached from the root by going down. -/
inductive Stands (t : FileTree) : Reached → Prop
  | root : Stands t t.atRoot
  | down {r : Reached} (name : Text) (above : Stands t r) : Stands t (r.down name)

/-- What is below a name is found under the rest of its place. -/
theorem find?_inside (name : Text) (nodes : Nodes) (m : Location) :
    ((inside name nodes).find? fun entry => entry.1 == m).map (·.2) =
      (nodes.find? fun entry => entry.1 == name :: m).map (·.2) := by
  induction nodes with
  | nil => rfl
  | cons entry nodes ih =>
    obtain ⟨place, node⟩ := entry
    cases place with
    | nil => simpa [inside] using ih
    | cons first rest =>
      by_cases own : first = name
      · subst own
        by_cases same : rest = m
        · simp [inside, same]
        · simpa [inside, same] using ih
      · simpa [inside, own] using ih

namespace Stands

theorem up (stands : Stands t r) : Stands t r.up := by
  cases stands with
  | root => exact .root
  | down name above =>
    rw [Reached.up, Reached.down, List.dropLast_concat]
    exact above

theorem place_up (stands : Stands t r) : r.up.place = r.place.dropLast := by
  cases stands with
  | root => rfl
  | down name above => rfl

theorem above_eq_nil_iff (stands : Stands t r) : r.above = [] ↔ r.place = [] := by
  cases stands with
  | root => simp [atRoot]
  | down name above => simp [Reached.down]

theorem find?_seen (stands : Stands t r) (m : Location) :
    (r.seen.find? fun entry => entry.1 == m).map (·.2) =
      (t.nodes.find? fun entry => entry.1 == r.place ++ m).map (·.2) := by
  induction stands generalizing m with
  | root => rfl
  | down name above ih => rw [Reached.down, find?_inside, ih, List.append_assoc, List.singleton_append]

theorem node? (stands : Stands t r) : r.node? = t.at? r.place := by
  rw [Reached.node?, at?]
  by_cases root : r.place = []
  · rw [if_pos (by simpa using stands.above_eq_nil_iff.mpr root), if_pos (by simpa using root)]
  · rw [if_neg (by simpa using mt stands.above_eq_nil_iff.mp root), if_neg (by simpa using root)]
    have found := stands.find?_seen []
    rw [List.append_nil] at found
    rw [← found]
    simp only [List.beq_nil_eq]

end Stands

/-! ### Names that lead somewhere -/

/-- Names pass through directories, from a place on, and no name of them is too long. -/
def Passes (t : FileTree) : Location → List Text → Prop
  | _, [] => True
  | l, name :: rest =>
    t.isDirectoryAt l = true ∧ (Bytes.ofText name).length ≤ nameLimit ∧ Passes t (Path.follow l [name]) rest

theorem passes_append (l : Location) (names more : List Text) :
    Passes t l (names ++ more) ↔ Passes t l names ∧ Passes t (Path.follow l names) more := by
  induction names generalizing l with
  | nil => simp [Passes, Path.follow]
  | cons name names ih =>
    rw [List.cons_append, Passes, Passes, ih, Path.follow_cons l name names, and_assoc, and_assoc]

/-- Names still lead where they have led as long as no directory is lost. -/
theorem Passes.mono (passes : Passes t l names)
    (kept : ∀ m, t.isDirectoryAt m = true → next.isDirectoryAt m = true) : Passes next l names := by
  induction names generalizing l with
  | nil => exact trivial
  | cons name names ih =>
    obtain ⟨directory, short, rest⟩ := passes
    exact ⟨kept l directory, short, ih rest⟩

-- Going up undoes the last step down, so that a place that has been reached is known by its names alone.
theorem walk_eq_ok_iff (stands : Stands t r) :
    walk r names = .ok l ↔ Passes t r.place names ∧ l = Path.follow r.place names := by
  induction names generalizing r with
  | nil => simp [walk, Passes, Path.follow, eq_comm]
  | cons name names ih =>
    rw [walk, stands.node?, Passes, isDirectoryAt, Path.follow_cons r.place name names]
    cases t.at? r.place with
    | none => simp
    | some node =>
      cases node with
      | file content => simp
      | directory =>
        dsimp only
        by_cases long : (Bytes.ofText name).length > nameLimit
        · simp [long, Nat.not_le.mpr long]
        · rw [if_neg long]
          split
          · next up =>
            rw [ih stands.up, stands.place_up]
            simp [Path.follow, up, Nat.not_lt.mp long]
          · next down =>
            rw [ih (stands.down name)]
            simp [Path.follow, down, Nat.not_lt.mp long, Reached.down]

theorem find_eq_ok_iff : t.find p = .ok l ↔ (∀ name ∈ p.names, '\x00' ∉ name) ∧
    (Bytes.ofText p.toText).length ≤ pathLimit ∧
    Passes t [] ((if p.root.isEmpty then t.here else []) ++ p.names) ∧ l = p.reach t.here := by
  have plain : (∀ name ∈ p.names, '\x00' ∉ name) ↔ ¬ (p.names.any fun name => name.contains '\x00') = true := by simp
  rw [find, plain, Path.reach]
  split
  · next null => exact iff_of_false nofun fun parts => parts.1 null
  split
  · next long => exact iff_of_false nofun fun parts => Nat.not_le.mpr long parts.2.1
  · next null short =>
    rw [walk_eq_ok_iff .root]
    exact ⟨fun found => ⟨null, Nat.not_lt.mp short, found⟩, fun parts => parts.2.2⟩

/-- Where a path leads, it leads to the same place as without asking. -/
theorem locate_of_find (grounded : t.Grounded) (found : t.find p = .ok l) : l = p.locate t.here := by
  rw [(find_eq_ok_iff.mp found).2.2.2, Path.reach_eq_locate grounded]

/-- A path still leads where it has led as long as no directory is lost. -/
theorem find_mono (here : next.here = t.here)
    (kept : ∀ m, t.isDirectoryAt m = true → next.isDirectoryAt m = true) (found : t.find p = .ok l) :
    next.find p = .ok l := by
  obtain ⟨plain, short, passes, leads⟩ := find_eq_ok_iff.mp found
  rw [find_eq_ok_iff, here]
  exact ⟨plain, short, passes.mono kept, leads⟩

theorem node?_eq_some_iff {node : Node} :
    t.node? p = some node ↔ ∃ l, t.find p = .ok l ∧ t.at? l = some node := by
  rw [FileTree.node?]
  cases t.find p <;> simp

theorem isDirectory_iff : t.isDirectory p = true ↔ ∃ l, t.find p = .ok l ∧ t.isDirectoryAt l = true := by
  simp only [isDirectory, isDirectoryAt, beq_iff_eq, node?_eq_some_iff]

theorem isDirectory_mono (here : next.here = t.here)
    (kept : ∀ m, t.isDirectoryAt m = true → next.isDirectoryAt m = true) (directory : t.isDirectory p = true) :
    next.isDirectory p = true := by
  obtain ⟨l, found, stands⟩ := isDirectory_iff.mp directory
  exact isDirectory_iff.mpr ⟨l, find_mono here kept found, kept l stands⟩

theorem length_toText_parent (given : p.names ≠ []) (short : (Bytes.ofText p.toText).length ≤ pathLimit) :
    (Bytes.ofText p.parent.toText).length ≤ pathLimit := by
  have names := Path.names_eq_concat given
  have whole : p.toText = p.root ++ join "/" (p.parent.names ++ [p.name]) := by
    rw [Path.toText, if_neg (by simp [given]), names]
  rw [whole, Bytes.ofText_append, List.length_append] at short
  rw [Path.toText]
  split
  · decide
  · have root : p.parent.root = p.root := rfl
    rw [root, Bytes.ofText_append, List.length_append]
    cases front : p.parent.names with
    | nil => exact Nat.le_trans (Nat.le_add_right _ _) short
    | cons first rest =>
      rw [front, join_concat (List.cons_ne_nil first rest), Bytes.ofText_append, List.length_append] at short
      exact Nat.le_trans (Nat.add_le_add_left (Nat.le_add_right _ _) _) short

/-- What a path leads to lies in a directory that the path without its last name leads to. -/
theorem isDirectory_parent (given : p.names ≠ []) (found : t.find p = .ok l) : t.isDirectory p.parent = true := by
  -- The names but the last one are followed to a directory before the last one is looked up there.
  obtain ⟨plain, short, passes, -⟩ := find_eq_ok_iff.mp found
  have names := Path.names_eq_concat given
  rw [names, ← List.append_assoc, passes_append] at passes
  refine isDirectory_iff.mpr ⟨p.parent.reach t.here, find_eq_ok_iff.mpr ⟨?_, ?_, passes.1, rfl⟩, passes.2.1⟩
  · exact fun name member => plain name (List.dropLast_subset _ member)
  · exact length_toText_parent given short

theorem walk_ne_nullInName (r : Reached) (names : List Text) : walk r names ≠ .error .nullInName := by
  induction names generalizing r with
  | nil => exact nofun
  | cons name names ih =>
    rw [walk]
    split
    · exact nofun
    · exact nofun
    split
    · exact nofun
    · exact ih _

/-- Only a null character is refused before the file system is asked. -/
theorem find_ne_nullInName (plain : ∀ name ∈ p.names, '\x00' ∉ name) : t.find p ≠ .error .nullInName := by
  have none : ¬ (p.names.any fun name => name.contains '\x00') = true := by simpa using plain
  rw [find, if_neg none]
  split
  · exact nofun
  · exact walk_ne_nullInName _ _

/-! ### Putting a node -/

variable {node : Node}

theorem at?_eq (given : l ≠ []) : t.at? l = (t.nodes.find? fun entry => entry.1 == l).map (·.2) := by
  rw [at?, if_neg (by simpa using given)]

theorem put_eq_of_isSome (known : (t.at? l).isSome = true) :
    t.put l node =
      { t with nodes := t.nodes.map fun entry => if entry.1 == l then (l, node) else entry } := by
  rw [put, if_pos known]

theorem put_eq_of_none (new : t.at? l = none) :
    t.put l node = { t with nodes := t.nodes ++ [(l, node)] } := by
  rw [put, if_neg (by rw [new]; exact Bool.false_ne_true)]

@[simp] theorem here_put : (t.put l node).here = t.here := by
  rw [put]
  split <;> rfl

theorem at?_put_of_ne (other : m ≠ l) : (t.put l node).at? m = t.at? m := by
  by_cases root : m = []
  · simp [at?, root]
  rw [at?_eq root, at?_eq root]
  cases here : t.at? l with
  | none =>
    rw [put_eq_of_none here, List.find?_append]
    simp [Ne.symm other]
  | some old =>
    rw [put_eq_of_isSome (by rw [here]; rfl)]
    dsimp only
    induction t.nodes with
    | nil => rfl
    | cons entry rest ih =>
      rw [List.map_cons, List.find?_cons, List.find?_cons]
      by_cases own : entry.1 = l
      · simp only [own, beq_self_eq_true, if_true, beq_eq_false_iff_ne.mpr (Ne.symm other)]
        exact ih
      · rw [if_neg (by simpa using own)]
        split
        · rfl
        · exact ih

theorem at?_put_self (given : l ≠ []) : (t.put l node).at? l = some node := by
  rw [at?_eq given]
  cases here : t.at? l with
  | none =>
    rw [at?_eq given, Option.map_eq_none_iff] at here
    rw [put_eq_of_none (by rw [at?_eq given, here]; rfl), List.find?_append, here]
    simp
  | some old =>
    rw [put_eq_of_isSome (by rw [here]; rfl)]
    rw [at?_eq given] at here
    dsimp only
    generalize t.nodes = nodes at here ⊢
    induction nodes with
    | nil => cases here
    | cons entry rest ih =>
      by_cases own : entry.1 = l
      · simp [own]
      · have other : (entry.1 == l) = false := beq_eq_false_iff_ne.mpr own
        rw [List.map_cons, if_neg (by simp [other]), List.find?_cons, other]
        rw [List.find?_cons, other] at here
        exact ih here

theorem ne_nil_of_not_directory (free : t.isDirectoryAt l = false) : l ≠ [] := by
  rintro rfl
  cases free

theorem isDirectoryAt_of_file {content : Bytes} (here : t.at? l = some (.file content)) : t.isDirectoryAt l = false := by
  rw [isDirectoryAt, here]
  rfl

theorem isDirectoryAt_put (free : t.isDirectoryAt l = false) (node : Node) (directory : t.isDirectoryAt m = true) :
    (t.put l node).isDirectoryAt m = true := by
  have other : m ≠ l := by
    rintro rfl
    rw [free] at directory
    cases directory
  rwa [isDirectoryAt, at?_put_of_ne other]

/-! ### What stays -/

/-- Elsewhere than at some places nothing has changed. -/
structure Same (places : List Location) (t next : FileTree) : Prop where
  here : next.here = t.here
  nodes : ∀ l ∉ places, next.at? l = t.at? l

/-- Elsewhere than at some places nothing has changed but that directories have been made. -/
structure Keeps (places : List Location) (t next : FileTree) : Prop where
  here : next.here = t.here
  nodes : ∀ l ∉ places, next.at? l = t.at? l ∨ t.at? l = none ∧ next.at? l = some .directory

/-- A place holds a text, line ends apart. -/
def Holds (t : FileTree) (l : Location) (text : Text) : Prop :=
  ∃ content found, t.at? l = some (.file content) ∧ Bytes.toText content = .ok found ∧
    unixNewlines found = unixNewlines text

variable {places more : List Location} {last : FileTree} {text : Text} {content : Bytes}

theorem Same.refl (t : FileTree) : Same places t t := ⟨rfl, fun _ _ => rfl⟩

theorem Same.trans (one : Same places t next) (two : Same places next last) : Same places t last :=
  ⟨two.here.trans one.here, fun l other => (two.nodes l other).trans (one.nodes l other)⟩

theorem Same.put (t : FileTree) (l : Location) (node : Node) : Same [l] t (t.put l node) :=
  ⟨here_put, fun _ other => at?_put_of_ne (List.ne_of_not_mem_cons other)⟩

theorem Same.keeps (same : Same places t next) : Keeps places t next :=
  ⟨same.here, fun l other => .inl (same.nodes l other)⟩

theorem Keeps.refl (t : FileTree) : Keeps places t t := (Same.refl t).keeps

theorem Keeps.mono (keeps : Keeps places t next) (within : places ⊆ more) : Keeps more t next :=
  ⟨keeps.here, fun l other => keeps.nodes l fun member => other (within member)⟩

theorem Keeps.trans (one : Keeps places t next) (two : Keeps places next last) : Keeps places t last := by
  refine ⟨two.here.trans one.here, fun l other => ?_⟩
  rcases one.nodes l other, two.nodes l other with ⟨kept | ⟨new, made⟩, again | ⟨none, later⟩⟩
  · exact .inl (again.trans kept)
  · exact .inr ⟨kept ▸ none, later⟩
  · exact .inr ⟨new, again.trans made⟩
  · rw [made] at none
    cases none

/-- Files elsewhere stay as they are, and none come in. -/
theorem Keeps.file_iff (keeps : Keeps places t next) (other : l ∉ places) :
    next.at? l = some (.file content) ↔ t.at? l = some (.file content) := by
  rcases keeps.nodes l other with kept | ⟨new, made⟩
  · rw [kept]
  · rw [new, made]
    simp

/-- Texts elsewhere stay as they are, and none come in. -/
theorem Keeps.holds_iff (keeps : Keeps places t next) (other : l ∉ places) : next.Holds l text ↔ t.Holds l text := by
  simp only [Holds, keeps.file_iff other]

theorem Holds.keep (holds : t.Holds l text) (keeps : Keeps places t next) (other : l ∉ places) :
    next.Holds l text := (keeps.holds_iff other).mpr holds

/-- A text is held where it has been put with the line ends that are written. -/
theorem holds_put (free : t.isDirectoryAt l = false) (text : Text) :
    (t.put l (.file (Bytes.ofText (unixNewlines text)))).Holds l text :=
  ⟨_, _, at?_put_self (ne_nil_of_not_directory free), Bytes.toText_ofText _, unixNewlines_unixNewlines text⟩

theorem Keeps.grounded (keeps : Keeps places t next) (grounded : t.Grounded) : next.Grounded := by
  rw [Grounded, keeps.here]
  exact grounded

end FileTree

end Forwarding
