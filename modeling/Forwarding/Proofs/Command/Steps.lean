import Forwarding.Command.Run
import Forwarding.Proofs.Storage.Write

/-! The steps of a run, one behind the other, and what they leave as it was.

Most steps only log: they change nothing but the log file, and each part of the run has an exit status of its
own. `Quiet` says this of steps, and is kept when steps are put together.
-/

set_option autoImplicit false

namespace Forwarding

open Text FileTree

namespace Command

variable {α β : Type} {p q r : Progress} {places more : List Location}

namespace Progress

/-- Only the log can have changed. -/
structure Logged (p q : Progress) : Prop where
  logPlace : q.logPlace = p.logPlace
  tree : Same p.logPlace.toList p.tree q.tree

/-- Only the log and some places can have changed, and directories can have been made. A log file whose
place is taken gets no more entries. -/
structure Reaches (places : List Location) (p q : Progress) : Prop where
  logPlace : q.logPlace.toList ⊆ p.logPlace.toList
  tree : Keeps (p.logPlace.toList ++ places) p.tree q.tree

theorem Logged.refl (p : Progress) : p.Logged p := ⟨rfl, .refl p.tree⟩

theorem Logged.trans (one : p.Logged q) (two : q.Logged r) : p.Logged r :=
  ⟨two.logPlace.trans one.logPlace, one.tree.trans (one.logPlace ▸ two.tree)⟩

theorem Logged.reaches (logged : p.Logged q) : Reaches places p q :=
  ⟨by rw [logged.logPlace]; exact List.Subset.refl _, logged.tree.keeps.mono (List.subset_append_left _ _)⟩

theorem Reaches.mono (reaches : Reaches places p q) (within : places ⊆ more) : Reaches more p q :=
  ⟨reaches.logPlace, reaches.tree.mono (List.append_subset.mpr
    ⟨List.subset_append_left _ _, List.Subset.trans within (List.subset_append_right _ _)⟩)⟩

theorem Reaches.trans (one : Reaches places p q) (two : Reaches places q r) : Reaches places p r := by
  refine ⟨List.Subset.trans two.logPlace one.logPlace, one.tree.trans (two.tree.mono ?_)⟩
  -- The log file of the second progress is that of the first one or none at all.
  have first := List.Subset.trans one.logPlace (List.subset_append_left _ places)
  exact List.append_subset.mpr ⟨first, List.subset_append_right _ _⟩

theorem same_append (t : FileTree) (l : Location) (content : Bytes) : Same [l] t (t.append l content) := by
  rw [FileTree.append]
  split
  · exact .put t l _
  · exact .refl t

theorem logged_logOne (p : Progress) (e : Event) : p.Logged (p.logOne e) := by
  rw [logOne]
  split
  · refine ⟨rfl, ?_⟩
    cases p.logPlace with
    | none => exact .refl p.tree
    | some l => exact same_append p.tree l _
  · exact .refl p

theorem logged_log (p : Progress) (events : List Event) : p.Logged (p.log events) := by
  induction events generalizing p with
  | nil => exact .refl p
  | cons e events ih => exact (logged_logOne p e).trans (ih (p.logOne e))

theorem logPlace_withTree (p : Progress) (tree : FileTree) :
    (p.withTree tree).logPlace.toList ⊆ p.logPlace.toList := by
  rw [withTree]
  cases p.logPlace with
  | none => exact List.nil_subset _
  | some l =>
    rw [Option.filter_some]
    split
    · exact List.Subset.refl _
    · exact List.nil_subset _

theorem reaches_withTree (p : Progress) {tree : FileTree} (keeps : Keeps places p.tree tree) :
    Reaches places p (p.withTree tree) :=
  ⟨logPlace_withTree p tree, keeps.mono (List.subset_append_right _ _)⟩

end Progress

open Progress

namespace Steps

/-! ### Steps one behind the other -/

/-- How steps come out that start from some progress, and the progress after them. -/
def perform (x : Steps α) (p : Progress) : Except Ending α × Progress := x.run p

theorem perform_bind (x : Steps α) (f : α → Steps β) (p : Progress) : perform (x >>= f) p =
    match perform x p with
    | (.ok a, q) => perform (f a) q
    | (.error ending, q) => (.error ending, q) := by
  have parts : perform (x >>= f) p = (ExceptT.bindCont f (perform x p).1).run (perform x p).2 := rfl
  rw [parts]
  rcases perform x p with ⟨_ | _, q⟩ <;> rfl

/-- Steps come out well when all of them do. -/
theorem perform_bind_eq_ok_iff {x : Steps α} {f : α → Steps β} {b : β} :
    perform (x >>= f) p = (.ok b, q) ↔ ∃ a r, perform x p = (.ok a, r) ∧ perform (f a) r = (.ok b, q) := by
  rw [perform_bind]
  rcases perform x p with ⟨ending | a, r⟩
  · simp
  · exact ⟨fun rest => ⟨a, r, rfl, rest⟩, fun ⟨_, _, same, rest⟩ => by cases same; exact rest⟩

theorem perform_bind_eq_error_iff {x : Steps α} {f : α → Steps β} {ending : Ending} :
    perform (x >>= f) p = (.error ending, q) ↔ perform x p = (.error ending, q) ∨
      ∃ a r, perform x p = (.ok a, r) ∧ perform (f a) r = (.error ending, q) := by
  rw [perform_bind]
  rcases perform x p with ⟨other | a, r⟩
  · simp
  · exact ⟨fun rest => .inr ⟨a, r, rfl, rest⟩, fun
      | .inl same => by cases same
      | .inr ⟨_, _, same, rest⟩ => by cases same; exact rest⟩

theorem perform_pure (a : α) (p : Progress) : perform (pure a) p = (.ok a, p) := rfl

theorem perform_log (events : List Event) (p : Progress) : perform (log events) p = (.ok (), p.log events) := rfl

theorem perform_tree (p : Progress) : perform tree p = (.ok p.tree, p) := rfl

/-! ### Steps that only log -/

/-- Steps that only log, and that have some exit statuses if they end the run. -/
structure Quiet (statuses : List Nat) (x : Steps α) : Prop where
  logged : ∀ p : Progress, p.Logged (perform x p).2
  exits : ∀ (p : Progress) (n : Nat), (perform x p).1 = .error (.exit n) → n ∈ statuses

namespace Quiet

variable {statuses more : List Nat} {x : Steps α} {f : α → Steps β}

theorem pure (a : α) : Quiet statuses (pure a : Steps α) :=
  ⟨fun p => .refl p, fun p n ends => by cases ends⟩

theorem bind (first : Quiet statuses x) (rest : ∀ a, Quiet statuses (f a)) : Quiet statuses (x >>= f) := by
  refine ⟨fun p => ?_, fun p n ends => ?_⟩
  · have logged := first.logged p
    rw [perform_bind]
    generalize perform x p = came at logged ⊢
    -- Where the first steps end the run, the others are not performed.
    rcases came with ⟨ending | a, q⟩
    · exact logged
    · exact logged.trans ((rest a).logged q)
  · have exits := first.exits p n
    rw [perform_bind] at ends
    generalize perform x p = came at exits ends
    rcases came with ⟨ending | a, q⟩
    · exact exits (by cases ends; rfl)
    · exact (rest a).exits q n ends

theorem mono (quiet : Quiet statuses x) (within : statuses ⊆ more) : Quiet more x :=
  ⟨quiet.logged, fun p n ends => within (quiet.exits p n ends)⟩

theorem log (events : List Event) : Quiet statuses (log events) :=
  ⟨fun p => logged_log p events, fun p n ends => by cases ends⟩

theorem tree : Quiet statuses tree := ⟨fun p => .refl p, fun p n ends => by cases ends⟩

theorem exit (status : Nat) : Quiet [status] (exit status : Steps α) :=
  ⟨fun p => .refl p, fun p n ends => by cases ends; exact List.mem_singleton_self _⟩

theorem fail (message : Text) (failure : Failure) (status : Nat) :
    Quiet [status] (fail message failure status : Steps α) :=
  (log _).bind fun _ => .exit status

theorem escaped (failure : Failure) : Quiet statuses (throw (.escaped failure) : Steps α) :=
  ⟨fun p => .refl p, fun p n ends => by cases ends⟩

end Quiet

end Steps

end Command

end Forwarding
