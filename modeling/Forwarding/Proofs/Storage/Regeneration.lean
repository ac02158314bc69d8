import Forwarding.Proofs.Storage.Atomicity

/-! Writing over a file that is there.

Whether that goes well depends on what the file holds: its content is decoded before anything is written, and what
is not UTF-8 ends the write. It also depends on the name of the file, which the name of a hidden file contains.
-/

set_option autoImplicit false

namespace Forwarding

open Text

namespace FileTree

variable {t : FileTree} {l : Location} {p : Path} {content : Bytes}

theorem write_of_file (sound : t.Sound) (leads : t.find p = .ok l) (here : t.at? l = some (.file content))
    (text : Text) : t.write p text false =
      match Bytes.toText content with
      | .error fault => (t, .error (.encoding fault))
      | .ok old =>
        if unixNewlines old = unixNewlines text then (t, .ok false)
        else if t.hides p then (t.put l (.file (Bytes.ofText (unixNewlines text))), .ok true)
        else (t, .error (.storage ⟨.nameTooLong, p.toText⟩)) := by
  rw [write_of_find sound leads (isDirectoryAt_of_file here), unchanged_of_file leads here]
  cases Bytes.toText content with
  | error fault => rfl
  | ok old =>
    dsimp only [Except.map]
    by_cases same : unixNewlines old = unixNewlines text
    · rw [if_pos same, same, beq_self_eq_true]
    · rw [if_neg same, beq_eq_false_iff_ne.mpr same]

/-- A file can be written over exactly if what it holds is UTF-8 and, unless it holds the text already, there is
room for a hidden file beside it. Then it holds the text; otherwise everything stays as it was. -/
theorem written_over_iff (sound : t.Sound) (known : t.node? p = some (.file content)) (text : Text) :
    ((∃ changed, (t.write p text false).2 = .ok changed) ↔
      ∃ old, Bytes.toText content = .ok old ∧ (unixNewlines old = unixNewlines text ∨ t.hides p = true)) ∧
    (∀ changed, (t.write p text false).2 = .ok changed → (t.write p text false).1.Holds (p.locate t.here) text) ∧
    ∀ failure, (t.write p text false).2 = .error failure → (t.write p text false).1 = t := by
  obtain ⟨l, leads, here⟩ := node?_eq_some_iff.mp known
  -- What the file holds is looked at first, and only a text that differs asks for room.
  have whole := write_of_file sound leads here text
  cases read : Bytes.toText content with
  | error fault =>
    rw [read] at whole
    rw [whole]
    exact ⟨iff_of_false nofun nofun, nofun, fun _ _ => rfl⟩
  | ok old =>
    rw [read] at whole
    dsimp only at whole
    by_cases same : unixNewlines old = unixNewlines text
    · rw [if_pos same] at whole
      rw [whole]
      refine ⟨iff_of_true ⟨false, rfl⟩ ⟨old, rfl, .inl same⟩, fun _ _ => ?_, nofun⟩
      exact ⟨content, old, locate_of_find sound.grounded leads ▸ here, read, same⟩
    rw [if_neg same] at whole
    cases hides : t.hides p with
    | true =>
      rw [if_pos hides] at whole
      rw [whole]
      refine ⟨iff_of_true ⟨true, rfl⟩ ⟨old, rfl, .inr rfl⟩, fun _ _ => ?_, nofun⟩
      rw [← locate_of_find sound.grounded leads]
      exact holds_put (isDirectoryAt_of_file here) text
    | false =>
      rw [hides, if_neg Bool.false_ne_true] at whole
      rw [whole]
      refine ⟨iff_of_false nofun ?_, nofun, fun _ _ => rfl⟩
      rintro ⟨found, read', equal | long⟩
      · cases read'
        exact same equal
      · cases long

theorem written_over_workshop : workshop.Sound ∧
    workshop.node? (.ofText "proxies.py") = some (.file (Bytes.ofText "pass\r\n")) ∧
    (workshop.write (.ofText "proxies.py") "pass\nreturn\n" false).1.Holds ["work", "proxies.py"]
      "pass\nreturn\n" := by
  have sound : workshop.Sound := by decide
  have known : workshop.node? (.ofText "proxies.py") = some (.file (Bytes.ofText "pass\r\n")) := by decide
  obtain ⟨possible, after, -⟩ := written_over_iff sound known "pass\nreturn\n"
  obtain ⟨changed, done⟩ := possible.mpr ⟨"pass\r\n", by decide, .inr (by decide)⟩
  exact ⟨sound, known, after changed done⟩

/-- A file that is not UTF-8 stays as it is, whatever is written over it; and a file whose name takes up nearly all the
room there is for one stays as it is too. -/
theorem not_written_over :
    (¬ ∀ (t : FileTree) (p : Path) (content : Bytes) (text : Text), t.Sound → t.hides p = true →
      t.node? p = some (.file content) → ∃ changed, (t.write p text false).2 = .ok changed) ∧
    ¬ ∀ (t : FileTree) (p : Path) (old text : Text), t.Sound → t.node? p = some (.file (Bytes.ofText old)) →
      ∃ changed, (t.write p text false).2 = .ok changed := by
  constructor
  · intro written
    obtain ⟨changed, done⟩ := written { nodes := [(["f"], .file [0xff])] } (.ofText "f") [0xff] "x"
      (by decide) (by decide) (by decide)
    have refused : ({ nodes := [(["f"], .file [0xff])] : FileTree }.write (.ofText "f") "x" false).2.toOption =
        none := by decide
    rw [done] at refused
    cases refused
  · intro written
    let name : Text := List.replicate 250 'x'
    obtain ⟨changed, done⟩ := written { nodes := [([name], .file (Bytes.ofText "x"))] } ⟨[], [name]⟩ "x" "y"
      (by decide +kernel) (by decide +kernel)
    have refused : ({ nodes := [([name], .file (Bytes.ofText "x"))] : FileTree }.write ⟨[], [name]⟩ "y"
        false).2.toOption = none := by decide +kernel
    rw [done] at refused
    cases refused

end FileTree

end Forwarding
