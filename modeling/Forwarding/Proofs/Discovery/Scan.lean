import Forwarding.Discovery.Scan
import Forwarding.Proofs.Bindings
import Forwarding.Proofs.Text.Name

/-! What every method has that a scan returns, whatever the headers are. -/

set_option autoImplicit false

namespace Forwarding

open Text

/-- A method of a class as it is collected. -/
structure Declaration.Collected (subject : Text) (d : Declaration) : Prop where
  subject : d.subject = subject
  squeezed : ∀ type ∈ d.result :: d.parameters, squeeze type = type
  tag : ∀ c ∈ d.tag, isIdentifierRest c = true

namespace Overloads

theorem isIdentifierRest_of_mem_tagFor {n : Nat} : ∀ c ∈ tagFor n, isIdentifierRest c = true := by
  exact List.forall_mem_append.mpr ⟨by decide, fun _ => isIdentifierRest_of_mem_decimal⟩

theorem collected_tag {subject : Text} {methods : List Declaration}
    (collected : ∀ d ∈ methods, d.Collected subject) : ∀ d ∈ tag methods, d.Collected subject := by
  rw [tag]
  refine List.forall_mem_map.mpr fun ⟨d, index⟩ member => ?_
  have known := collected d (List.fst_mem_of_mem_zipIdx member)
  dsimp only
  split
  · exact known
  · exact ⟨known.subject, known.squeezed, isIdentifierRest_of_mem_tagFor⟩

end Overloads

namespace Scan

/-- Every method stands under its class. -/
def Collects (classes : List (Text × List Declaration)) : Prop :=
  ∀ entry ∈ classes, ∀ d ∈ entry.2, d.Collected entry.1

theorem collected_declarationOf (subject heading : Text) (e : Cursor.Entity) :
    (declarationOf subject heading e).Collected subject where
  subject := rfl
  squeezed := by
    have typed : ∀ spelling, squeeze (typeText spelling) = typeText spelling :=
      fun spelling => (squeeze_squeeze _).1
    exact List.forall_mem_cons.mpr ⟨typed e.result, List.forall_mem_map.mpr fun type _ => typed type⟩
  tag := by simp [declarationOf]

mutual

theorem collects_found (o : ScanOptions) :
    ∀ c : Cursor, Collects (found o c)
  | .node e members => by
    rw [found]
    split
    · refine List.forall_mem_append.mpr ⟨?_, collects_foundIn o members⟩
      split
      · rw [List.forall_mem_singleton]
        exact List.forall_mem_map.mpr fun member _ => collected_declarationOf _ _ member
      · exact nofun
    · exact nofun

theorem collects_foundIn (o : ScanOptions) :
    ∀ members : List Cursor, Collects (foundIn o members)
  | [] => nofun
  | c :: rest => List.forall_mem_append.mpr ⟨collects_found o c, collects_foundIn o rest⟩

end

section
variable {classes : Classes} {entry : Text × List Declaration} (collects : Collects classes)
include collects

theorem collects_set {subject : Text} {methods : List Declaration}
    (collected : ∀ d ∈ methods, d.Collected subject) : Collects (classes.set subject methods) := by
  intro entry member
  rcases Bindings.mem_of_mem_set member with old | rfl
  · exact collects entry old
  · exact collected

variable (more : ∀ d ∈ entry.2, d.Collected entry.1)
include more

theorem collects_add : Collects (classes.add entry) := by
  refine collects_set collects (List.forall_mem_append.mpr ⟨?_, more⟩)
  cases known : classes.get? entry.1 with
  | none => exact nofun
  | some methods => exact collects _ (Bindings.mem_of_get? known)

theorem collects_meet : Collects (classes.meet entry) := by
  rw [Classes.meet]
  split
  · exact collects_set collects more
  · exact collects_set collects more
  · exact collects

end

theorem collects_foldl {step : Classes → Text × List Declaration → Classes}
    (keeps : ∀ {classes entry}, Collects classes → (∀ d ∈ entry.2, d.Collected entry.1) →
      Collects (step classes entry))
    {classes : Classes} {entries : List (Text × List Declaration)} (collects : Collects classes)
    (more : Collects entries) : Collects (entries.foldl step classes) := by
  induction entries generalizing classes with
  | nil => exact collects
  | cons entry entries ih =>
    rw [Collects, List.forall_mem_cons] at more
    exact ih (keeps collects more.1) more.2

theorem collects_classesOf (o : ScanOptions) (u : HeaderUnit) : Collects (classesOf o u) := by
  rw [classesOf]
  refine collects_foldl collects_add nofun ?_
  cases u.root with
  | none => exact nofun
  | some root => exact collects_found o root

theorem collects_merged (o : ScanOptions) (units : List HeaderUnit) : Collects (merged o units) := by
  induction units using List.reverseRecOn with
  | nil => exact nofun
  | append_singleton units u ih =>
    rw [merged, List.foldl_append]
    exact collects_foldl collects_meet ih (collects_classesOf o u)

theorem collected_of_mem {o : ScanOptions} {units : List HeaderUnit} {d : Declaration}
    (member : d ∈ declarationsOf (merged o units)) : d.Collected d.subject := by
  obtain ⟨entry, found, tagged⟩ := List.mem_flatMap.mp member
  have collected := Overloads.collected_tag
    (collects_merged o units entry (List.mem_mergeSort.mp found)) d tagged
  exact collected.subject ▸ collected

end Scan

end Forwarding
