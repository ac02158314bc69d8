import Forwarding.Proofs.Bindings
import Forwarding.Proofs.Discovery.Definitions

/-! What a scan of several headers keeps: for each class name the methods in the first header that shows any.

A header shows under a class name the methods of all its definitions of that name. Which header counts for
a name is decided while the headers are read one after the other; `get?_merged_concat` says what one more
header adds to what is known of a name, and `methodsUnder_merged` that in the end it is what one header shows.
-/

set_option autoImplicit false

namespace Forwarding.Scan

open Text

variable {o : ScanOptions} {u : HeaderUnit} {units : List HeaderUnit} {subject : Text}

/-! ### One header -/

/-- The methods that a header shows under a class name. -/
def methodsUnder (o : ScanOptions) (u : HeaderUnit) (subject : Text) : List Declaration :=
  ((classesOf o u).get? subject).getD []

theorem getD_foldl_add (entries : List (Text × List Declaration)) (classes : Classes) (subject : Text) :
    ((entries.foldl Classes.add classes).get? subject).getD [] =
      (classes.get? subject).getD [] ++ (entries.filter (·.1 = subject)).flatMap (·.2) := by
  induction entries generalizing classes with
  | nil => simp
  | cons entry entries ih =>
    rw [List.foldl_cons, ih, Classes.add, Bindings.get?_set, List.filter_cons]
    by_cases here : entry.1 = subject
    · subst here
      simp
    · simp [here]

theorem mem_methodsUnder_iff {m : Declaration} : m ∈ methodsUnder o u subject ↔
    ∃ d : Definition, d.Scanned o u ∧ d.subject = subject ∧ m ∈ d.methods o := by
  have entries : m ∈ methodsUnder o u subject ↔
      ∃ entry ∈ (u.root.map (found o)).getD [], entry.1 = subject ∧ m ∈ entry.2 := by
    rw [methodsUnder, classesOf, getD_foldl_add]
    simp [Bindings.get?, and_assoc]
  rw [entries]
  cases tree : u.root with
  | none =>
    constructor
    · rintro ⟨_, member, -⟩
      cases member
    · rintro ⟨d, scanned, -⟩
      obtain ⟨root, given, -⟩ := scanned.stands
      rw [tree] at given
      cases given
  | some root =>
    constructor
    · rintro ⟨entry, member, named, inside⟩
      obtain ⟨d, collected, stands, rfl⟩ := (mem_found_iff root (List.forall_mem_nil _)).mp member
      exact ⟨d, ⟨collected, root, tree, stands⟩, named, inside⟩
    · rintro ⟨d, ⟨collected, other, given, stands⟩, named, inside⟩
      obtain rfl : other = root := Option.some.inj (given.symm.trans tree)
      exact ⟨_, (mem_found_iff other (List.forall_mem_nil _)).mpr ⟨d, collected, stands, rfl⟩, named, inside⟩

/-- A step that binds one name at most leaves the names pairwise different. -/
theorem nodup_keys_foldl {step : Classes → Text × List Declaration → Classes}
    (binds : ∀ classes entry, step classes entry = classes ∨
      ∃ methods, step classes entry = classes.set entry.1 methods)
    (entries : List (Text × List Declaration)) {classes : Classes} (distinct : (classes.map (·.1)).Nodup) :
    ((entries.foldl step classes).map (·.1)).Nodup := by
  induction entries generalizing classes with
  | nil => exact distinct
  | cons entry entries ih =>
    refine ih ?_
    rcases binds classes entry with same | ⟨methods, bound⟩
    · rwa [same]
    · rw [bound]
      exact Bindings.nodup_keys_set distinct entry.1 methods

theorem nodup_keys_classesOf (o : ScanOptions) (u : HeaderUnit) : ((classesOf o u).map (·.1)).Nodup :=
  nodup_keys_foldl (fun _ _ => .inr ⟨_, rfl⟩) _ List.nodup_nil

/-! ### Reading one header after the other -/

/-- What is known of a class after another header: its methods, unless some are known already. -/
def prefer : Option (List Declaration) → Option (List Declaration) → Option (List Declaration)
  | some (d :: methods), _ => some (d :: methods)
  | known, none => known
  | _, some methods => some methods

theorem prefer_none_left (new : Option (List Declaration)) : prefer none new = new := by
  cases new <;> rfl

theorem prefer_none_right (known : Option (List Declaration)) : prefer known none = known := by
  rcases known with _ | _ | ⟨d, methods⟩ <;> rfl

theorem getD_prefer (known new : Option (List Declaration)) :
    (prefer known new).getD [] = if known.getD [] = [] then new.getD [] else known.getD [] := by
  rcases known with _ | _ | ⟨d, methods⟩
  · rw [prefer_none_left]
    rfl
  · cases new <;> rfl
  · rfl

theorem prefer_assoc (first second third : Option (List Declaration)) :
    prefer (prefer first second) third = prefer first (prefer second third) := by
  rcases first with _ | _ | ⟨d, methods⟩
  · rw [prefer_none_left, prefer_none_left]
  · rcases second with _ | _ | ⟨d, methods⟩ <;> cases third <;> rfl
  · rfl

theorem get?_meet (classes : Classes) (entry : Text × List Declaration) (subject : Text) :
    (classes.meet entry).get? subject =
      prefer (classes.get? subject) (if entry.1 = subject then some entry.2 else none) := by
  by_cases here : entry.1 = subject
  · subst here
    rw [if_pos rfl, Classes.meet]
    rcases known : classes.get? entry.1 with _ | _ | ⟨d, methods⟩ <;>
      simp [Bindings.get?_set, prefer, known]
  · rw [if_neg here, prefer_none_right, Classes.meet]
    split <;> simp [Bindings.get?_set, here]

theorem get?_foldl_meet {entries : Classes} (distinct : (entries.map (·.1)).Nodup) (classes : Classes)
    (subject : Text) : (entries.foldl Classes.meet classes).get? subject =
      prefer (classes.get? subject) (entries.get? subject) := by
  induction entries generalizing classes with
  | nil => exact (prefer_none_right _).symm
  | cons entry entries ih =>
    rw [List.map_cons, List.nodup_cons] at distinct
    rw [List.foldl_cons, ih distinct.2, get?_meet, prefer_assoc, Bindings.get?_cons]
    split
    · next here =>
      subst here
      rw [Bindings.get?_eq_none_iff.mpr distinct.1, prefer_none_right]
    · rw [prefer_none_left]

-- The headers too are read by a fold from the left: what is known is settled with the last one.
theorem merged_concat (o : ScanOptions) (units : List HeaderUnit) (u : HeaderUnit) :
    merged o (units ++ [u]) = (classesOf o u).foldl Classes.meet (merged o units) := by
  rw [merged, List.foldl_append]
  rfl

theorem get?_merged_concat (o : ScanOptions) (units : List HeaderUnit) (u : HeaderUnit) (subject : Text) :
    (merged o (units ++ [u])).get? subject =
      prefer ((merged o units).get? subject) ((classesOf o u).get? subject) := by
  rw [merged_concat, get?_foldl_meet (nodup_keys_classesOf o u)]

theorem nodup_keys_merged (o : ScanOptions) (units : List HeaderUnit) :
    ((merged o units).map (·.1)).Nodup := by
  induction units using List.reverseRecOn with
  | nil => exact List.nodup_nil
  | append_singleton units u ih =>
    rw [merged_concat]
    refine nodup_keys_foldl (fun classes entry => ?_) _ ih
    rw [Classes.meet]
    split
    · exact .inr ⟨_, rfl⟩
    · exact .inr ⟨_, rfl⟩
    · exact .inl rfl

/-! ### The header that counts -/

def firstShowing (o : ScanOptions) (units : List HeaderUnit) (subject : Text) : Option HeaderUnit :=
  units.find? fun u => methodsUnder o u subject ≠ []

theorem firstShowing_cons (o : ScanOptions) (u : HeaderUnit) (units : List HeaderUnit) (subject : Text) :
    firstShowing o (u :: units) subject =
      if methodsUnder o u subject = [] then firstShowing o units subject else some u := by
  by_cases none : methodsUnder o u subject = [] <;> simp [firstShowing, none]

theorem firstShowing_concat (o : ScanOptions) (units : List HeaderUnit) (u : HeaderUnit) (subject : Text) :
    firstShowing o (units ++ [u]) subject =
      (firstShowing o units subject).or (if methodsUnder o u subject = [] then none else some u) := by
  rw [firstShowing, List.find?_append]
  by_cases none : methodsUnder o u subject = [] <;> simp [firstShowing, none]

theorem firstShowing_eq_none_iff : firstShowing o units subject = none ↔
    ∀ u ∈ units, methodsUnder o u subject = [] := by
  simp [firstShowing]

theorem of_firstShowing (found : firstShowing o units subject = some u) :
    u ∈ units ∧ methodsUnder o u subject ≠ [] :=
  ⟨List.mem_of_find?_eq_some found, by simpa using List.find?_some found⟩

theorem methodsUnder_merged (o : ScanOptions) (units : List HeaderUnit) (subject : Text) :
    ((merged o units).get? subject).getD [] =
      ((firstShowing o units subject).map (methodsUnder o · subject)).getD [] := by
  induction units using List.reverseRecOn with
  | nil => rfl
  | append_singleton units u ih =>
    rw [get?_merged_concat, getD_prefer, ih, firstShowing_concat]
    change (if _ then methodsUnder o u subject else _) = _
    cases found : firstShowing o units subject with
    | none =>
      -- As long as no methods are known, it makes no difference whether the name is.
      rw [Option.map_none, Option.getD_none, if_pos rfl, Option.none_or]
      split
      · next silent => simp [silent]
      · rfl
    | some v =>
      have given : methodsUnder o v subject ≠ [] := (of_firstShowing found).2
      rw [Option.map_some, Option.getD_some, if_neg given, Option.some_or, Option.map_some, Option.getD_some]

/-! ### The rows -/

/-- A method before it is told apart from its overloads. -/
def untagged (d : Declaration) : Declaration := { d with tag := [] }

theorem map_untagged_tag (methods : List Declaration) :
    (Overloads.tag methods).map untagged = methods.map untagged := by
  rw [Overloads.tag, List.map_map]
  refine (List.map_congr_left (g := untagged ∘ Prod.fst) fun ⟨d, index⟩ _ => ?_).trans ?_
  · rw [← List.map_map, List.zipIdx_map_fst]
  · dsimp only [Function.comp_apply]
    split <;> rfl

theorem of_mem_methodsUnder {m : Declaration} (member : m ∈ methodsUnder o u subject) :
    m.subject = subject ∧ untagged m = m := by
  obtain ⟨d, -, rfl, inside⟩ := mem_methodsUnder_iff.mp member
  obtain ⟨c, -, -, rfl⟩ := Definition.mem_methods_iff.mp inside
  exact ⟨rfl, rfl⟩

/-- Up to their tags the rows are the methods under each class name in the header that counts for it. -/
theorem mem_map_untagged_iff {m : Declaration} : m ∈ (declarationsOf (merged o units)).map untagged ↔
    ∃ u, firstShowing o units m.subject = some u ∧ m ∈ methodsUnder o u m.subject := by
  have rows : m ∈ (declarationsOf (merged o units)).map untagged ↔
      ∃ entry ∈ merged o units, m ∈ entry.2.map untagged := by
    simp only [declarationsOf, List.map_flatMap, map_untagged_tag, List.mem_flatMap, List.mem_mergeSort]
  have kept : ∀ subject, ((merged o units).get? subject).getD [] = _ := methodsUnder_merged o units
  rw [rows]
  constructor
  · rintro ⟨⟨subject, methods⟩, member, inside⟩
    have same := kept subject
    rw [(Bindings.get?_eq_some_iff (nodup_keys_merged o units)).mpr member, Option.getD_some] at same
    obtain ⟨m, origin, rfl⟩ := List.mem_map.mp inside
    rw [same] at origin
    cases found : firstShowing o units subject with
    | none =>
      rw [found] at origin
      cases origin
    | some u =>
      rw [found] at origin
      obtain ⟨rfl, plain⟩ := of_mem_methodsUnder origin
      exact ⟨u, found, plain.symm ▸ origin⟩
  · rintro ⟨u, found, inside⟩
    have same := kept m.subject
    rw [found, Option.map_some, Option.getD_some] at same
    cases bound : (merged o units).get? m.subject with
    | none =>
      rw [bound] at same
      rw [← same] at inside
      cases inside
    | some methods =>
      rw [bound, Option.getD_some] at same
      have listed : m ∈ methods.map untagged :=
        List.mem_map.mpr ⟨m, same ▸ inside, (of_mem_methodsUnder inside).2⟩
      exact ⟨_, Bindings.mem_of_get? bound, listed⟩

theorem exists_showing {r : Declaration} (row : r ∈ declarationsOf (merged o units)) :
    ∃ u, firstShowing o units r.subject = some u ∧ untagged r ∈ methodsUnder o u r.subject :=
  mem_map_untagged_iff.mp (List.mem_map_of_mem row)

theorem exists_row {m : Declaration} (first : firstShowing o units subject = some u)
    (inside : m ∈ methodsUnder o u subject) : ∃ r ∈ declarationsOf (merged o units), untagged r = m := by
  obtain ⟨rfl, -⟩ := of_mem_methodsUnder inside
  exact List.mem_map.mp (mem_map_untagged_iff.mpr ⟨u, first, inside⟩)

/-! ### Parsing -/

variable {parser : HeaderParser} {headers : List Text}

theorem parsed_eq (parser : HeaderParser) (headers : List Text) : parsed parser headers =
    if ∀ header ∈ headers, (parser header).isSome then .ok (headers.filterMap parser)
    else .error .headerUnparsed := by
  induction headers with
  | nil => rfl
  | cons header headers ih =>
    rw [parsed]
    cases found : parser header with
    | none => simp [found]
    | some u =>
      simp only [ih, List.forall_mem_cons, found, Option.isSome_some, true_and]
      split
      · simp [found, Except.map]
      · rfl

theorem collect_eq_ok {tree : Text → HeaderUnit} (read : ∀ header ∈ headers, parser header = some (tree header)) :
    collect o (some parser) headers = .ok (declarationsOf (merged o (headers.map tree))) := by
  have all : ∀ header ∈ headers, (parser header).isSome := fun header member => by simp [read header member]
  have trees : headers.filterMap parser = headers.map tree := by
    induction headers with
    | nil => rfl
    | cons header headers ih =>
      rw [List.forall_mem_cons] at read all
      rw [List.filterMap_cons_some read.1, ih read.2 all.2, List.map_cons]
  rw [collect, parsed_eq, if_pos all, trees]
  rfl

end Forwarding.Scan
