import Forwarding.Proofs.Storage.Write

/-! Replacing a file step by step comes to the same as replacing it at once.

The hidden file stands where nothing has been, so that removing it gives back the tree there was, whatever has been
put into it. Where it has taken the place of the target, nothing else is left of it either.
-/

set_option autoImplicit false

namespace Forwarding

open Text

/-! ### The names of hidden files -/

theorem utf8Size_of_isDrawn {c : Char} (drawn : isDrawn c = true) : c.utf8Size = 1 := by
  have all : ∀ d ∈ "abcdefghijklmnopqrstuvwxyz0123456789_".toList, d.utf8Size = 1 := by decide
  exact all c (List.contains_iff_mem.mp drawn)

/-- Every drawing takes as many bytes as any other. -/
theorem Letters.length_ofText (letters : Letters) : (Bytes.ofText letters.text).length = 8 := by
  have single : ∀ t : Text, t.all isDrawn = true → (Bytes.ofText t).length = t.length := by
    intro t drawn
    induction t with
    | nil => rfl
    | cons c t ih =>
      rw [List.all_cons, Bool.and_eq_true] at drawn
      rw [Bytes.length_ofText_cons, utf8Size_of_isDrawn drawn.1, ih drawn.2, List.length_cons, Nat.add_comm]
  rw [single letters.text letters.drawn, letters.count]

theorem length_ofText_hiddenName (name : Text) (letters : Letters) :
    (Bytes.ofText (hiddenName name letters)).length = (Bytes.ofText name).length + 14 := by
  have dot : '.'.utf8Size = 1 := by decide
  have ending : (Bytes.ofText ".tmp".toList).length = 4 := by decide
  rw [hiddenName, Bytes.ofText_append, Bytes.ofText_append, List.length_append, List.length_append, ending,
    Bytes.length_ofText_cons, Bytes.length_ofText_cons, letters.length_ofText, dot]
  omega

namespace FileTree

variable {t next made : FileTree} {l hidden : Location} {p : Path} {content : Bytes} {node new : Node}
  {draws : List Letters} {device : Device}

theorem name_hidden (p : Path) (letters : Letters) : (t.hidden p letters).name = hiddenName p.name letters := by
  simp [hidden, Path.name]

theorem length_toText_hidden (p : Path) (letters other : Letters) :
    (Bytes.ofText (t.hidden p letters).toText).length = (Bytes.ofText (t.hidden p other).toText).length := by
  have named := (length_ofText_hiddenName p.name letters).trans (length_ofText_hiddenName p.name other).symm
  simp only [hidden, Path.toText, List.append_eq_nil_iff, List.isEmpty_iff, Bool.and_eq_true]
  cases p.parent.locate t.here with
  | nil => simp [Bytes.ofText_append, named]
  | cons first rest => simp only [join_concat (List.cons_ne_nil first rest), Bytes.ofText_append, List.length_append,
      named, reduceCtorEq, and_false, if_false]

theorem hides_iff (letters : Letters) : t.hides p = true ↔
    (Bytes.ofText (hiddenName p.name letters)).length ≤ nameLimit ∧
      (Bytes.ofText (t.hidden p letters).toText).length ≤ pathLimit := by
  rw [hides, Bool.and_eq_true, decide_eq_true_eq, decide_eq_true_eq, name_hidden, length_ofText_hiddenName,
    length_ofText_hiddenName, length_toText_hidden p .any letters]

theorem find_hidden_iff {letters : Letters} : t.find (t.hidden p letters) = .ok l ↔
    (∀ name ∈ (t.hidden p letters).names, '\x00' ∉ name) ∧ t.hides p = true ∧
      Passes t [] (p.parent.locate t.here) ∧
      t.isDirectoryAt (Path.follow [] (p.parent.locate t.here)) = true ∧
      l = Path.follow [] (p.parent.locate t.here ++ [hiddenName p.name letters]) := by
  have start : (if (t.hidden p letters).root.isEmpty then t.here else []) = [] := by
    rw [hidden]
    split <;> simp_all
  have names : (t.hidden p letters).names = p.parent.locate t.here ++ [hiddenName p.name letters] := rfl
  rw [find_eq_ok_iff, Path.reach, start, List.nil_append, names, passes_append, hides_iff letters]
  simp only [Passes, and_true]
  constructor
  · rintro ⟨plain, short, ⟨passes, directory, fits⟩, leads⟩
    exact ⟨plain, ⟨fits, short⟩, passes, directory, leads⟩
  · rintro ⟨plain, ⟨fits, short⟩, passes, directory, leads⟩
    exact ⟨plain, short, ⟨passes, directory, fits⟩, leads⟩

/-! ### Hidden files come and go -/

theorem ne_of_at?_eq_none (none : t.at? l = none) : ∀ entry ∈ t.nodes, entry.1 ≠ l := by
  rw [at?_eq (ne_nil_of_at?_eq_none none), Option.map_eq_none_iff, List.find?_eq_none] at none
  intro entry member own
  exact none entry member (by simpa using own)

theorem put_put (none : t.at? l = none) : (t.put l node).put l new = t.put l new := by
  have others : t.nodes.map (fun entry => if entry.1 == l then (l, new) else entry) = t.nodes.map id :=
    List.map_congr_left fun entry member => if_neg (by simpa using ne_of_at?_eq_none none entry member)
  have known : ((t.put l node).at? l).isSome = true := by
    rw [at?_put_self (ne_nil_of_at?_eq_none none)]
    rfl
  rw [put_eq_of_isSome known, put_eq_of_none none, put_eq_of_none none]
  dsimp only
  rw [List.map_append, others, List.map_id, List.map_singleton, if_pos (by simp)]

theorem remove_put (none : t.at? l = none) : (t.put l node).remove l = t := by
  have others : t.nodes.filter (fun entry => entry.1 != l) = t.nodes :=
    List.filter_eq_self.mpr fun entry member => by simpa using ne_of_at?_eq_none none entry member
  rw [put_eq_of_none none, remove]
  simp [others]

theorem makeFile_cases (done : t.makeFile p = .ok (made, hidden)) :
    t.find p = .ok hidden ∧ t.at? hidden = none ∧ made = t.put hidden (.file []) := by
  rw [makeFile] at done
  split at done
  · cases done
  · next l found =>
    split at done
    · cases done
    · next new =>
      cases done
      exact ⟨found, by simpa using new, rfl⟩

theorem makeHidden_cases (done : t.makeHidden p draws = .ok (made, hidden)) :
    t.at? hidden = none ∧ made = t.put hidden (.file []) ∧ t.hides p = true := by
  induction draws with
  | nil => cases done
  | cons letters rest ih =>
    rw [makeHidden] at done
    split at done
    · next first =>
      cases done
      obtain ⟨found, none, rfl⟩ := makeFile_cases first
      exact ⟨none, rfl, (find_hidden_iff.mp found).2.1⟩
    · split at done
      · exact ih done
      · cases done

theorem move_cases (moved : t.move hidden p = .ok next) : p.names ≠ [] ∧ p.name ≠ ['.', '.'] ∧
    ∃ l node, t.find p = .ok l ∧ t.isDirectoryAt l = false ∧ t.at? hidden = some node ∧
      next = (t.remove hidden).put l node := by
  rw [move] at moved
  split at moved
  · cases moved
  next named =>
  rw [Bool.or_eq_true, List.isEmpty_iff, beq_iff_eq, not_or] at named
  split at moved
  · cases moved
  · next l found =>
    split at moved
    · cases moved
    next free =>
    split at moved
    · cases moved
    · next node here =>
      cases moved
      exact ⟨named.1, named.2, l, node, found, by simpa using free, here, rfl⟩

theorem isDirectoryAt_put_file (none : t.at? hidden = none) (content : Bytes) (m : Location) :
    (t.put hidden (.file content)).isDirectoryAt m = t.isDirectoryAt m := by
  by_cases own : m = hidden
  · subst own
    rw [isDirectoryAt_of_at?_eq_none none, isDirectoryAt, at?_put_self (ne_nil_of_at?_eq_none none)]
    rfl
  · rw [isDirectoryAt, isDirectoryAt, at?_put_of_ne own]

/-- Paths lead where they have led while a hidden file stands in a tree. -/
theorem find_put_file (none : t.at? hidden = none) :
    (t.put hidden (.file content)).find p = .ok l ↔ t.find p = .ok l := by
  have same := isDirectoryAt_put_file none content
  exact ⟨find_mono here_put.symm fun m directory => by rwa [same m] at directory,
    find_mono here_put fun m directory => by rwa [same m]⟩

/-- Filling a hidden file and moving it either leaves it with some content or does what a replacement does. -/
theorem fillAndMove_cases (device : Device) (content : Bytes) (none : t.at? hidden = none) (hides : t.hides p = true) :
    (∃ held fault, (t.put hidden (.file [])).fillAndMove device hidden p content =
      .error (t.put hidden held, fault)) ∨
    ∃ next, t.replaceFile p content = .ok next ∧
      (t.put hidden (.file [])).fillAndMove device hidden p content = .ok next := by
  -- Refused while the file is filled, when it gets its permissions, or when it is moved.
  rw [fillAndMove]
  split
  · exact .inl ⟨_, _, by rw [put_put none]⟩
  dsimp only
  split
  · exact .inl ⟨_, _, by rw [put_put none]⟩
  rw [put_put none]
  split
  · exact .inl ⟨_, _, rfl⟩
  · next next moved =>
    obtain ⟨given, down, l, node, found, free, filled, rfl⟩ := move_cases moved
    rw [at?_put_self (ne_nil_of_at?_eq_none none)] at filled
    cases filled
    rw [isDirectoryAt_put_file none] at free
    refine .inr ⟨_, replaceFile_eq_ok_iff.mpr ⟨hides, given, down, l, (find_put_file none).mp found, free, ?_⟩, rfl⟩
    rw [remove_put none]

/-- Whatever the device refuses and whatever name is drawn, the steps leave everything as it was or come to
what a replacement at once comes to. -/
theorem faithful_replaceThrough (device : Device) (draws : List Letters) :
    Faithful (replaceThrough device draws) := by
  intro t p content
  rw [replaceThrough]
  split
  · exact .inl ⟨_, rfl⟩
  split
  · exact .inl ⟨_, rfl⟩
  · next made hidden done =>
    obtain ⟨none, rfl, hides⟩ := makeHidden_cases done
    rcases fillAndMove_cases device content none hides with
      ⟨held, fault, refused⟩ | ⟨next, replaced, moved⟩
    · rw [refused]
      dsimp only
      rw [remove_put none]
      exact .inl ⟨fault, rfl⟩
    · rw [moved]
      exact .inr ⟨next, replaced, rfl⟩

/-- A file that is new is written or not there, as its hidden file can be moved or not. -/
example :
    replaceThrough ⟨fun | .move => some .busy | _ => none, 0⟩ [.any] {} (.ofText "f") [0x78] =
      ({}, some ⟨.busy, "f"⟩) ∧
    replaceThrough .willing [.any] {} (.ofText "f") [0x78] = ({ nodes := [(["f"], .file [0x78])] }, none) := by
  decide

/-! ### Where nothing is refused -/

/-- The current directory is given by names that lead down, and its path from the root leads to it. -/
structure Placed (t : FileTree) : Prop where
  grounded : t.Grounded
  here : t.isDirectory (.ofLocation t.here) = true

/-- The place that names lead to is passed directory by directory as well. -/
theorem passes_follow {names : List Text} (down : ['.', '.'] ∉ l) (above : Passes t [] l) (passes : Passes t l names) :
    Passes t [] (Path.follow l names) := by
  induction names generalizing l with
  | nil => exact above
  | cons name names ih =>
    obtain ⟨directory, short, rest⟩ := passes
    rw [Path.follow_cons]
    refine ih (Path.not_mem_follow down [name]) ?_ rest
    rw [Path.follow]
    split
    · rcases List.eq_nil_or_concat l with rfl | ⟨front, last, rfl⟩
      · exact above
      · rw [List.concat_eq_append, passes_append] at above
        rw [List.concat_eq_append, List.dropLast_concat]
        exact above.1
    · rw [Path.follow, passes_append, Path.follow_of_not_mem down]
      exact ⟨above, directory, short, trivial⟩

theorem not_mem_hiddenName {name : Text} (plain : '\x00' ∉ name) (letters : Letters) :
    '\x00' ∉ hiddenName name letters := by
  have drawn : '\x00' ∉ letters.text := fun member => by
    have all := List.all_eq_true.mp letters.drawn _ member
    revert all
    decide
  simp [hiddenName, plain, drawn]

theorem find_hidden (placed : t.Placed) (hides : t.hides p = true) (given : p.names ≠ []) (found : t.find p = .ok l)
    (letters : Letters) :
    t.find (t.hidden p letters) = .ok (p.parent.locate t.here ++ [hiddenName p.name letters]) := by
  obtain ⟨d, leads, directory⟩ := isDirectory_iff.mp (isDirectory_parent given found)
  obtain ⟨plain, -, passes, rfl⟩ := find_eq_ok_iff.mp leads
  obtain ⟨here, toHere, -⟩ := isDirectory_iff.mp placed.here
  have down : ['.', '.'] ∉ p.parent.locate t.here := Path.not_mem_locate placed.grounded p.parent
  have other : hiddenName p.name letters ≠ ['.', '.'] := fun same => by
    have length := congrArg List.length same
    simp [hiddenName, letters.count] at length
  have through := passes_follow List.not_mem_nil trivial passes
  rw [← Path.reach, Path.reach_eq_locate placed.grounded] at through
  rw [Path.reach_eq_locate placed.grounded] at directory
  refine find_hidden_iff.mpr ⟨?_, hides, through, ?_, ?_⟩
  -- A null character comes neither from the current directory nor from the target or the letters.
  · intro name member
    rcases List.mem_append.mp member with above | own
    · rcases Path.mem_of_mem_follow above with start | given
      · refine (find_eq_ok_iff.mp toHere).1 name ?_
        split at start
        · exact start
        · cases start
      · exact plain name given
    · rw [List.mem_singleton.mp own]
      refine not_mem_hiddenName ((find_eq_ok_iff.mp found).1 p.name ?_) letters
      rw [Path.names_eq_concat given]
      exact List.mem_append_right _ List.mem_cons_self
  · rwa [Path.follow_of_not_mem down]
  · rw [Path.follow_of_not_mem (by simp [down, Ne.symm other]), List.nil_append]

theorem makeHidden_of_free {letters : Letters} (leads : ∀ letters, ∃ l, t.find (t.hidden p letters) = .ok l)
    (member : letters ∈ draws) (free : t.node? (t.hidden p letters) = none) :
    ∃ hidden, t.at? hidden = none ∧ t.makeHidden p draws = .ok (t.put hidden (.file []), hidden) := by
  induction draws with
  | nil => cases member
  | cons first rest ih =>
    obtain ⟨l, found⟩ := leads first
    rw [makeHidden, makeFile, found]
    dsimp only
    cases known : t.at? l with
    | none => exact ⟨l, known, rfl⟩
    | some node =>
      -- The letters are drawn again.
      have other : letters ≠ first := by
        rintro rfl
        rw [node?_eq_some_iff.mpr ⟨l, found, known⟩] at free
        cases free
      simpa [fault] using ih ((List.mem_cons.mp member).resolve_left other)

/-- If the device refuses nothing and a name is found that is new, the steps come to what a replacement at once
comes to. -/
theorem replaceThrough_willing {letters : Letters} (placed : t.Placed) (replaced : t.replaceFile p content = .ok next)
    (member : letters ∈ draws) (free : t.node? (t.hidden p letters) = none) :
    replaceThrough .willing draws t p content = (next, none) := by
  obtain ⟨hides, given, down, l, found, file, rfl⟩ := replaceFile_eq_ok_iff.mp replaced
  obtain ⟨hidden, none, done⟩ :=
    makeHidden_of_free (fun letters => ⟨_, find_hidden placed hides given found letters⟩) member free
  have filled : ((t.put hidden (.file content)).move hidden p) = .ok (t.put l (.file content)) := by
    rw [move, if_neg (by simp [given, down]), (find_put_file none).mpr found]
    dsimp only
    rw [isDirectoryAt_put_file none, file, if_neg Bool.false_ne_true, at?_put_self (ne_nil_of_at?_eq_none none)]
    dsimp only
    rw [remove_put none]
  rw [replaceThrough, done]
  simp only [Device.willing, fillAndMove, Option.or_none, put_put none, filled]

theorem Placed.makes {q : Path} (placed : t.Placed) (makes : Makes [] q t next) : next.Placed :=
  ⟨makes.keeps.grounded placed.grounded, by rw [makes.here]; exact makes.isDirectory placed.here⟩

/-- Storing step by step comes to the same as storing at once. -/
theorem storeBy_willing {text : Text} {letters : Letters} (placed : t.Placed) (member : letters ∈ draws)
    (free : (t.ensureDirectory p.parent).1.node? (t.hidden p letters) = none) :
    (storeBy (replaceThrough .willing draws) t p text).1 = (t.store p text).1 ∧
      ∀ changed, (storeBy (replaceThrough .willing draws) t p text).2 = .ok changed ↔
        (t.store p text).2 = .ok changed := by
  -- Up to the replacement both do the same.
  have makes := makes_ensureDirectory t p.parent
  rw [store, storeBy, storeBy]
  cases ensured : t.ensureDirectory p.parent with
  | mk reached refused =>
  rw [ensured] at makes free
  cases refused with
  | some fault => exact ⟨rfl, fun _ => Iff.rfl⟩
  | none =>
    dsimp only
    cases reached.unchanged p (unixNewlines text) with
    | error fault => exact ⟨rfl, fun _ => Iff.rfl⟩
    | ok same =>
      cases same with
      | true => exact ⟨rfl, fun _ => Iff.rfl⟩
      | false =>
        dsimp only
        cases replaced : reached.replaceFile p (Bytes.ofText (unixNewlines text)) with
        | ok next =>
          have new : reached.node? (reached.hidden p letters) = none := by
            rw [hidden, makes.here]
            exact free
          rw [replaceThrough_willing (placed.makes makes) replaced member new, atOnce, replaced]
          exact ⟨rfl, fun _ => Iff.rfl⟩
        | error fault =>
          rcases faithful_replaceThrough .willing draws reached p (Bytes.ofText (unixNewlines text)) with
            ⟨other, left⟩ | ⟨next, done, -⟩
          · rw [left, atOnce, replaced]
            exact ⟨rfl, fun _ => iff_of_false (fun done => by cases done) fun done => by cases done⟩
          · rw [replaced] at done
            cases done

end FileTree

end Forwarding
