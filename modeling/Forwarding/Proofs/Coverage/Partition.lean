import Forwarding.Proofs.Coverage.Complete

/-! What a comparison reports, said without how it is found.

Every discovered method is counted once, as covered or under the status that the notes give it, and every key
of the rows that has been missed is reported once. The order of the methods shows only in the order of those
that are uncovered.
-/

set_option autoImplicit false

namespace Forwarding.Coverage

open Text

variable {t : Table} {discovered : List Declaration} {others : Bindings Text Text} {d : Declaration}
  {notes : List Note}

def FirstAbout (notes : List Note) (word : Text) (n : Note) : Prop :=
  ∃ earlier later, notes = earlier ++ n :: later ∧ word ∈ n.names ∧ ∀ m ∈ earlier, word ∉ m.names

/-- The note about a method that counts, and the status that follows: the first that mentions the method or,
where none does, the first that mentions its class. -/
inductive Classified (notes : List Note) (d : Declaration) : Option Note → Status → Prop where
  | method {n : Note} : FirstAbout notes d.method n → Classified notes d (some n) (statusOf (some n))
  | subject {n : Note} : (∀ m ∈ notes, d.method ∉ m.names) → FirstAbout notes d.subjectName n →
      Classified notes d (some n) (statusOf (some n))
  | none : (∀ m ∈ notes, d.method ∉ m.names ∧ d.subjectName ∉ m.names) → Classified notes d none .missing

/-- What is reported about the methods that have been discovered. -/
structure Accounts (t : Table) (discovered : List Declaration) (others : Bindings Text Text) (c : Coverage) :
    Prop where
  all : c.discovered = discovered.length
  total : c.covered + c.count .missing + c.count .pending + c.count .excluded = c.discovered
  /-- The uncovered methods are those whose keys no row has. -/
  uncovered : c.uncovered.map Uncovered.declaration =
    discovered.filter fun d => discoveredKey (named t others) d ∉ t.rows.map keyOf
  classified : ∀ u ∈ c.uncovered, Classified t.notes u.declaration u.note u.status
  rows : ∀ row ∈ c.stale, row ∈ t.rows
  once : (c.stale.map keyOf).Nodup
  /-- A row is stale when its key has not been discovered and its class has. -/
  stale : ∀ key, key ∈ c.stale.map keyOf ↔
    key ∈ t.rows.map keyOf ∧ key ∉ discovered.map (discoveredKey (named t others)) ∧
      key.subject ∈ discovered.map Declaration.subjectName

/-- Two reports that differ in the order of the uncovered methods only. -/
structure Reordered (first second : Coverage) : Prop where
  discovered : first.discovered = second.discovered
  covered : first.covered = second.covered
  count : ∀ status, first.count status = second.count status
  uncovered : first.uncovered.Perm second.uncovered
  stale : first.stale = second.stale

/-! ### Notes -/

theorem firstAbout_of_find? {word : Text} {n : Note}
    (found : (notes.find? fun m => m.names.contains word) = some n) : FirstAbout notes word n := by
  obtain ⟨mentioned, earlier, later, parts, others⟩ := List.find?_eq_some_iff_append.mp found
  refine ⟨earlier, later, parts, List.contains_iff_mem.mp mentioned, fun m member inside => ?_⟩
  simpa [inside] using others m member

theorem not_mem_of_find? {word : Text} (absent : (notes.find? fun m => m.names.contains word) = none) :
    ∀ m ∈ notes, word ∉ m.names := fun m member inside =>
  List.find?_eq_none.mp absent m member (List.contains_iff_mem.mpr inside)

theorem classified_noteFor (notes : List Note) (d : Declaration) :
    Classified notes d (noteFor notes d) (statusOf (noteFor notes d)) := by
  rw [noteFor]
  -- A note about the class counts only if none is about the method.
  cases method : notes.find? fun m => m.names.contains d.method with
  | some n => exact .method (firstAbout_of_find? method)
  | none =>
    have silent := not_mem_of_find? method
    cases subject : notes.find? fun m => m.names.contains d.subjectName with
    | some n => exact .subject silent (firstAbout_of_find? subject)
    | none => exact .none fun m member => ⟨silent m member, not_mem_of_find? subject m member⟩

/-! ### Methods -/

/-- Whether some row has the key of a method. -/
def isDeclared (t : Table) (others : Bindings Text Text) (d : Declaration) : Bool :=
  decide (discoveredKey (named t others) d ∈ t.rows.map keyOf)

theorem any_declared_eq (d : Declaration) :
    ((declared t).any fun row => row.1 == discoveredKey (named t others) d) = isDeclared t others d := by
  rw [Bool.eq_iff_iff, any_declared_iff, isDeclared, decide_eq_true_eq]

theorem compute_covered :
    (compute t discovered others).covered = (discovered.filter (isDeclared t others)).length := by
  simp only [compute, List.partition_eq_filter_filter, List.filter_map, List.length_map]
  exact congrArg List.length (List.filter_congr fun d _ => any_declared_eq d)

theorem compute_uncovered : (compute t discovered others).uncovered =
    (discovered.filter fun d => !isDeclared t others d).map fun d => ⟨d, noteFor t.notes d⟩ := by
  simp only [compute, List.partition_eq_filter_filter, List.filter_map, List.map_map]
  refine congrArg (List.map _) (List.filter_congr fun d _ => ?_)
  exact congrArg not (any_declared_eq d)

/-- Every uncovered method has one status. -/
theorem count_add_count_add_count (c : Coverage) :
    c.count .missing + c.count .pending + c.count .excluded = c.uncovered.length := by
  rw [count, count, count]
  induction c.uncovered with
  | nil => rfl
  | cons u rest ih =>
    cases status : u.status <;> simp [status] <;> omega

/-! ### The whole report -/

theorem accounts (t : Table) (discovered : List Declaration) (others : Bindings Text Text) :
    Accounts t discovered others (compute t discovered others) where
  all := rfl
  total := by
    have parts := List.length_eq_length_filter_add (l := discovered) (isDeclared t others)
    -- Covered and uncovered methods are all there are, and each of the latter has one status.
    have uncovered := count_add_count_add_count (compute t discovered others)
    rw [compute_uncovered, List.length_map] at uncovered
    rw [Nat.add_assoc, Nat.add_assoc, ← Nat.add_assoc (count _ .missing), uncovered, compute_covered]
    exact parts.symm
  uncovered := by
    rw [compute_uncovered, List.map_map]
    refine (List.map_id' _).trans (List.filter_congr fun d _ => ?_)
    rw [isDeclared, decide_not]
  classified := by
    rw [compute_uncovered]
    exact List.forall_mem_map.mpr fun d _ => classified_noteFor t.notes d
  rows row member := by
    rw [compute_stale] at member
    obtain ⟨entry, inside, rfl⟩ := List.mem_map.mp member
    exact (keyOf_of_mem_declared (List.mem_of_mem_filter inside)).1
  once := by
    rw [map_keyOf_stale]
    exact (Bindings.nodup_keys_ofList _).sublist (List.filter_sublist.map _)
  stale key := mem_map_keyOf_stale_iff

theorem reordered {first second : List Declaration} (perm : first.Perm second) :
    Reordered (compute t first others) (compute t second others) := by
  have uncovered : (compute t first others).uncovered.Perm (compute t second others).uncovered := by
    rw [compute_uncovered, compute_uncovered]
    exact (perm.filter _).map _
  refine ⟨perm.length_eq, ?_, fun status => (uncovered.filter _).length_eq, uncovered, ?_⟩
  · rw [compute_covered, compute_covered]
    exact (perm.filter _).length_eq
  · have keys := fun key => (perm.map (discoveredKey (named t others))).mem_iff (a := key)
    have classes := fun name => (perm.map Declaration.subjectName).mem_iff (a := name)
    simp only [compute_stale, keys, classes]

/-- A comparison accounts for every method and every row, and the order of the methods plays no other part in it than
to order the uncovered ones. -/
theorem accounts_and_reordered (t : Table) (discovered : List Declaration) (others : Bindings Text Text) :
    Accounts t discovered others (compute t discovered others) ∧
      ∀ again : List Declaration, again.Perm discovered →
        Reordered (compute t again others) (compute t discovered others) :=
  ⟨accounts t discovered others, fun _ perm => reordered perm⟩

/-- A table with two rows of one key, a row of a class that is not discovered, and notes that mention more than one
method. -/
def surveyed : Table :=
  { rows := [{ subject := "IActor", result := "void", method := "setSkin", parameters := ["int"] },
      { subject := "IVehicle&", result := "void", method := "setColour", parameters := ["const IntPair&"] },
      { subject := "IActor", result := "float", method := "getHealth" },
      { subject := "IActor", result := "int", method := "getHealth", tag := "_2" },
      { subject := "ICore", result := "void", method := "tick" }]
    aliases := [⟨"IntPair", "Pair<int, int>", 0, none⟩]
    notes := [{ kind := .skip, text := "ILogger (variadic)" }, { kind := .todo, text := "logLn, getDispatcher" }] }

/-- What headers declare: two methods with rows, and one of each status. -/
def survey : List Declaration :=
  [{ subject := "ILogger", result := "void", method := "flush" },
    { subject := "IVehicle", result := "void", method := "setColour", parameters := ["const Pair<int, int> &"] },
    { subject := "ILogger", result := "void", method := "logLn", parameters := ["StringView"] },
    { subject := "IActor", result := "void", method := "setSkin", parameters := ["int"] },
    { subject := "IActor", result := "void", method := "setSkin", parameters := ["unsigned int"] }]

theorem accounts_and_reordered_surveyed : survey.reverse.Perm survey ∧
    Accounts surveyed survey [] (compute surveyed survey []) ∧
    Reordered (compute surveyed survey.reverse []) (compute surveyed survey []) := by
  have perm := List.reverse_perm survey
  have both := accounts_and_reordered surveyed survey []
  exact ⟨perm, both.1, both.2 _ perm⟩

example : (compute surveyed survey []).uncovered.map Uncovered.status = [.excluded, .pending, .missing] ∧
    (compute surveyed survey []).stale.map Declaration.symbol = ["IActor_getHealth_2"] := by
  decide +kernel

end Forwarding.Coverage
