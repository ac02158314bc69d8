import Forwarding.Proofs.Command.Outputs

/-! What a dry run does to the file system when something is emitted in it.

No file is written, but the output directory is made before a rendition is, and stays. The command ends its dry runs
before anything is emitted; this is about the steps themselves.
-/

set_option autoImplicit false

namespace Forwarding

open Text FileTree

variable {t : Table} {tree : FileTree} {dir : Option Template.Directory} {s : Setting} {target : Target}
  {made : List Forwarder}

theorem Table.emit_of_dryRun (dry : s.dryRun = true) :
    (t.emit tree dir s target made).1 = (tree.ensureDirectory s.outputDir).1 := by
  rw [emit]
  rcases tree.ensureDirectory s.outputDir with ⟨reached, _ | fault⟩
  · dsimp only
    -- Rendering only reads, and the text that comes out is not written.
    cases t.render reached dir s target.templateName made with
    | error failure => rfl
    | ok text =>
      dsimp only
      rw [dry]
      rfl
  · rfl

/-- A rendition comes out well only if the output directory could be made. -/
theorem Table.ensureDirectory_of_emit {changed : Bool} (done : (t.emit tree dir s target made).2 = .ok changed) :
    ∃ reached, tree.ensureDirectory s.outputDir = (reached, none) := by
  rw [emit] at done
  generalize tree.ensureDirectory s.outputDir = ensured at done ⊢
  rcases ensured with ⟨reached, _ | fault⟩
  · exact ⟨reached, rfl⟩
  · cases done

namespace Command.Steps

open Progress

variable {around : Surroundings} {arguments : List Text} {c : Option Coverage}

theorem perform_writeManifest_of_dryRun (dry : s.dryRun = true) (p : Progress) :
    perform (writeManifest around arguments t s made c) p =
      (.ok (), p.log (writeEvents s.manifestPath true (.ok false) ++ [Manifest.event t made])) := by
  rw [writeManifest_eq, dry, perform_bind, perform_change_of_dryRun, log_append]
  rfl

/-- A dry run makes directories for its renditions, on the way to the output directory, where they are missing, and
changes nothing else: a rendition that comes out well leaves the file system as it was exactly if the output directory
is there. The manifest, like every text that is written by itself, leaves everything as it is. -/
theorem emitted_of_dryRun (dry : s.dryRun = true) :
    (∀ tree t dir target made,
      Makes [] s.outputDir tree (Table.emit t tree dir s target made).1 ∧
      (s.outputDir.names = [] ∨ tree.isDirectory s.outputDir = true →
        (Table.emit t tree dir s target made).1 = tree) ∧
      ∀ changed, (Table.emit t tree dir s target made).2 = .ok changed →
        (Table.emit t tree dir s target made).1 = tree →
        s.outputDir.names = [] ∨ tree.isDirectory s.outputDir = true) ∧
    (∀ (tree : FileTree) p text, tree.write p text s.dryRun = (tree, .ok false)) ∧
    ∀ around arguments t made c p, perform (writeManifest around arguments t s made c) p =
      (.ok (), p.log (writeEvents s.manifestPath true (.ok false) ++ [Manifest.event t made])) := by
  refine ⟨fun tree t dir target made => ?_, fun tree p text => ?_,
    fun _ _ _ _ _ p => perform_writeManifest_of_dryRun dry p⟩
  · have left : (t.emit tree dir s target made).1 = _ := Table.emit_of_dryRun dry
    refine ⟨left ▸ makes_ensureDirectory tree s.outputDir, fun directory => ?_, fun changed done same => ?_⟩
    · rw [left, ensureDirectory_of_isDirectory directory]
    · obtain ⟨reached, ensured⟩ := Table.ensureDirectory_of_emit done
      rw [left, ensured] at same
      exact same ▸ isDirectory_ensureDirectory ensured
  · rw [dry]
    rfl

def rehearsal : Setting where
  outputDir := .ofText "out"
  dryRun := true

theorem emitted_of_dryRun_rehearsal : rehearsal.dryRun = true ∧
    (Table.emit {} { nodes := [(["out"], .directory)] } none rehearsal .unit []).1 =
      { nodes := [(["out"], .directory)] } ∧
    (∃ changed, (Table.emit {} {} none rehearsal .unit []).2 = .ok changed) ∧
    (Table.emit {} {} none rehearsal .unit []).1 ≠ {} := by
  have dry : rehearsal.dryRun = true := rfl
  obtain ⟨emitted, -, -⟩ := emitted_of_dryRun dry
  have done : (Table.emit {} {} none rehearsal .unit []).2 = .ok false := by decide +kernel
  refine ⟨dry, (emitted _ _ _ _ _).2.1 (by decide), ⟨false, done⟩, fun same => ?_⟩
  exact absurd ((emitted _ _ _ _ _).2.2 false done same) (by decide)

/-- A dry run in which a rendition comes out well does not leave the file system as it was. -/
theorem not_emitted_of_dryRun : ¬ ∀ (t : Table) tree dir s target made changed, s.dryRun = true →
    (t.emit tree dir s target made).2 = .ok changed → (t.emit tree dir s target made).1 = tree := by
  intro same
  have kept := same {} {} none rehearsal .unit [] false rfl (by decide +kernel)
  revert kept
  decide +kernel

end Command.Steps

end Forwarding
