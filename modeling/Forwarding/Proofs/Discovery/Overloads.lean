import Forwarding.Discovery.Overloads
import Forwarding.Proofs.Text.Name
import Forwarding.Proofs.Discovery.Order
import Mathlib.Data.List.Nodup
import Mathlib.Data.List.Perm.Subperm

/-! Ranks of overloads, and the tags that they give.

The methods of one name are ordered by their parameters, and where these are equal by where they stand, so that
no two of them have one rank. The ranks of n methods of a name are therefore the numbers below n, and their
tags tell them apart.
-/

set_option autoImplicit false

namespace Forwarding.Overloads

open Text

variable {a b c d : Declaration} {p q r : Declaration × Nat} {methods : List Declaration}

/-! ### The order of overloads -/

/-- One method takes fewer parameters than another, or as many that come no later as text. -/
def NotAfter (a b : Declaration) : Prop :=
  a.parameters.length < b.parameters.length ∨
    a.parameters.length = b.parameters.length ∧ le (joined a) (joined b) = true

instance (a b : Declaration) : Decidable (NotAfter a b) := inferInstanceAs (Decidable (_ ∨ _))

theorem notAfter_total (a b : Declaration) : NotAfter a b ∨ NotAfter b a := by
  rcases Nat.lt_trichotomy a.parameters.length b.parameters.length with fewer | same | more
  · exact .inl (.inl fewer)
  · exact (Text.le_total (joined a) (joined b)).imp (fun below => .inr ⟨same, below⟩)
      fun below => .inr ⟨same.symm, below⟩
  · exact .inr (.inl more)

theorem NotAfter.trans (first : NotAfter a b) (second : NotAfter b c) : NotAfter a c := by
  rcases first with fewer | ⟨same, below⟩
  · rcases second with more | ⟨equal, -⟩
    · exact .inl (Nat.lt_trans fewer more)
    · exact .inl (equal ▸ fewer)
  · rcases second with more | ⟨equal, later⟩
    · exact .inl (same ▸ more)
    · exact .inr ⟨same.trans equal, Text.le_trans below later⟩

theorem notAfter_refl (a : Declaration) : NotAfter a a := (notAfter_total a a).elim id id

/-- Only methods with as many parameters and one text of them come neither before nor behind each other. -/
theorem notAfter_and_notAfter_iff : NotAfter a b ∧ NotAfter b a ↔
    a.parameters.length = b.parameters.length ∧ joined a = joined b := by
  constructor
  · rintro ⟨fewer | ⟨same, below⟩, more | ⟨equal, later⟩⟩
    · exact absurd more (Nat.lt_asymm fewer)
    · exact absurd equal.symm (Nat.ne_of_lt fewer)
    · exact absurd same.symm (Nat.ne_of_lt more)
    · exact ⟨same, Text.le_antisymm below later⟩
  · rintro ⟨same, text⟩
    have below : le (joined a) (joined a) = true := (Text.le_total _ _).elim id id
    exact ⟨.inr ⟨same, text ▸ below⟩, .inr ⟨same.symm, text ▸ below⟩⟩

theorem precedes_iff : precedes a b = true ↔ ¬ NotAfter b a := by
  simp only [precedes, NotAfter, Bool.or_eq_true, Bool.and_eq_true, decide_eq_true_eq, beq_iff_eq,
    Bool.not_eq_true', not_or, not_and, Bool.not_eq_true, Nat.not_lt]
  constructor
  · rintro (fewer | ⟨same, below⟩)
    · exact ⟨Nat.le_of_lt fewer, fun equal => absurd equal.symm (Nat.ne_of_lt fewer)⟩
    · exact ⟨Nat.le_of_eq same, fun _ => below⟩
  · rintro ⟨most, below⟩
    exact (Nat.lt_or_eq_of_le most).imp id fun same => ⟨same, below same.symm⟩

/-- A method with its place comes before another: by its parameters or, if these are equal, by its place. -/
def Before (p q : Declaration × Nat) : Prop := NotAfter p.1 q.1 ∧ (NotAfter q.1 p.1 → p.2 < q.2)

instance (p q : Declaration × Nat) : Decidable (Before p q) := inferInstanceAs (Decidable (_ ∧ _))

theorem before_irrefl (p : Declaration × Nat) : ¬ Before p p := fun before =>
  Nat.lt_irrefl _ (before.2 (notAfter_refl p.1))

theorem Before.trans (first : Before p q) (second : Before q r) : Before p r :=
  ⟨first.1.trans second.1, fun behind =>
    Nat.lt_trans (first.2 (second.1.trans behind)) (second.2 (behind.trans first.1))⟩

theorem before_total (apart : p.2 ≠ q.2) : Before p q ∨ Before q p := by
  by_cases first : NotAfter p.1 q.1 <;> by_cases second : NotAfter q.1 p.1
  · -- Only here are the parameters equal, and the places decide.
    exact (Nat.lt_or_gt_of_ne apart).imp (fun less => ⟨first, fun _ => less⟩) fun less => ⟨second, fun _ => less⟩
  · exact .inl ⟨first, fun behind => absurd behind second⟩
  · exact .inr ⟨second, fun behind => absurd behind first⟩
  · exact absurd (notAfter_total p.1 q.1) (not_or.mpr ⟨first, second⟩)

/-! ### Ranks -/

def group (methods : List Declaration) (name : Text) : List (Declaration × Nat) :=
  methods.zipIdx.filter fun p => p.1.method = name

def rankAt (methods : List Declaration) (p : Declaration × Nat) : Nat := rank methods p.2 p.1

theorem rankAt_eq (methods : List Declaration) (p : Declaration × Nat) :
    rankAt methods p = ((group methods p.1.method).filter fun q => Before q p).length := by
  rw [rankAt, rank, group, List.filter_filter]
  refine congrArg List.length (List.filter_congr fun q _ => ?_)
  have order : Before q p ↔ ¬ NotAfter p.1 q.1 ∨ NotAfter q.1 p.1 ∧ q.2 < p.2 := by
    constructor
    · rintro ⟨notAfter, earlier⟩
      by_cases strict : NotAfter p.1 q.1
      · exact .inr ⟨notAfter, earlier strict⟩
      · exact .inl strict
    · rintro (strict | ⟨notAfter, less⟩)
      · exact ⟨(notAfter_total q.1 p.1).resolve_right strict, fun back => absurd back strict⟩
      · exact ⟨notAfter, fun _ => less⟩
  rw [Bool.eq_iff_iff]
  simp only [Bool.and_eq_true, Bool.or_eq_true, Bool.not_eq_true', ← Bool.not_eq_true, precedes_iff, not_not,
    decide_eq_true_eq, beq_iff_eq, order, and_comm]

theorem mem_group_iff {name : Text} : p ∈ group methods name ↔ methods[p.2]? = some p.1 ∧ p.1.method = name := by
  rw [group, List.mem_filter, List.mem_zipIdx_iff_getElem?, decide_eq_true_eq]

theorem nodup_zipIdx (methods : List Declaration) : methods.zipIdx.Nodup := by
  refine List.Nodup.of_map Prod.snd ?_
  rw [List.zipIdx_map_snd]
  exact List.nodup_range'

theorem countP_zipIdx (methods : List Declaration) (f : Declaration → Bool) :
    (methods.zipIdx.countP fun p => f p.1) = methods.countP f := by
  have places := List.countP_map (p := f) (f := Prod.fst) (l := methods.zipIdx)
  rw [List.zipIdx_map_fst] at places
  exact places.symm

theorem length_group (methods : List Declaration) (name : Text) :
    (group methods name).length = methods.countP fun d => d.method = name := by
  rw [group, ← List.countP_eq_length_filter, countP_zipIdx methods fun d => d.method = name]

/-- Whatever comes before another method of its name has a smaller rank. -/
theorem rankAt_lt_of_before (member : methods[p.2]? = some p.1) (same : p.1.method = q.1.method)
    (before : Before p q) : rankAt methods p < rankAt methods q := by
  rw [rankAt_eq, rankAt_eq, same]
  have within : ((group methods q.1.method).filter fun r => Before r p) =
      ((group methods q.1.method).filter fun r => Before r q).filter fun r => Before r p := by
    rw [List.filter_filter]
    refine List.filter_congr fun r _ => ?_
    rw [Bool.eq_iff_iff, Bool.and_eq_true, decide_eq_true_eq, decide_eq_true_eq]
    exact ⟨fun first => ⟨first, first.trans before⟩, And.left⟩
  rw [within, List.length_filter_lt_length_iff_exists]
  exact ⟨p, List.mem_filter.mpr ⟨mem_group_iff.mpr ⟨member, same⟩, decide_eq_true before⟩,
    by simpa using before_irrefl p⟩

theorem rankAt_lt_count (member : methods[p.2]? = some p.1) :
    rankAt methods p < methods.countP fun d => d.method = p.1.method := by
  rw [rankAt_eq, ← length_group, List.length_filter_lt_length_iff_exists]
  exact ⟨p, mem_group_iff.mpr ⟨member, rfl⟩, by simpa using before_irrefl p⟩

theorem eq_of_place (first : methods[p.2]? = some p.1) (second : methods[q.2]? = some q.1) (place : p.2 = q.2) :
    p = q := by
  rw [place, second] at first
  exact Prod.ext (Option.some.inj first).symm place

/-- Methods of one name have different ranks at different places. -/
theorem eq_of_rankAt_eq (first : methods[p.2]? = some p.1) (second : methods[q.2]? = some q.1)
    (same : p.1.method = q.1.method) (equal : rankAt methods p = rankAt methods q) : p = q := by
  by_cases place : p.2 = q.2
  · exact eq_of_place first second place
  · rcases before_total place with before | before
    · exact absurd equal (Nat.ne_of_lt (rankAt_lt_of_before first same before))
    · exact absurd equal.symm (Nat.ne_of_lt (rankAt_lt_of_before second same.symm before))

theorem before_of_rankAt_lt (first : methods[p.2]? = some p.1) (second : methods[q.2]? = some q.1)
    (same : p.1.method = q.1.method) (less : rankAt methods p < rankAt methods q) : Before p q := by
  have apart : p.2 ≠ q.2 := by
    intro place
    rw [eq_of_place first second place] at less
    exact Nat.lt_irrefl _ less
  exact (before_total apart).resolve_right fun before =>
    Nat.lt_asymm less (rankAt_lt_of_before second same.symm before)

theorem map_rankAt_group (methods : List Declaration) (name : Text) :
    ((group methods name).map (rankAt methods)).Perm
      (List.range (methods.countP fun d => d.method = name)) := by
  have distinct : ((group methods name).map (rankAt methods)).Nodup := by
    refine List.Nodup.map_on (fun p inside q other equal => ?_) ?_
    · obtain ⟨first, named⟩ := mem_group_iff.mp inside
      obtain ⟨second, alike⟩ := mem_group_iff.mp other
      exact eq_of_rankAt_eq first second (named.trans alike.symm) equal
    · exact (nodup_zipIdx methods).filter _
  refine (distinct.subperm fun n member => ?_).perm_of_length_le ?_
  · obtain ⟨p, inside, rfl⟩ := List.mem_map.mp member
    obtain ⟨found, rfl⟩ := mem_group_iff.mp inside
    exact List.mem_range.mpr (rankAt_lt_count found)
  · exact Nat.le_of_eq (by rw [List.length_range, List.length_map, length_group])

theorem exists_rankAt_eq {name : Text} {n : Nat} (below : n < methods.countP fun d => d.method = name) :
    ∃ p, methods[p.2]? = some p.1 ∧ p.1.method = name ∧ rankAt methods p = n := by
  have member := (map_rankAt_group methods name).mem_iff.mpr (List.mem_range.mpr below)
  obtain ⟨p, inside, equal⟩ := List.mem_map.mp member
  obtain ⟨found, named⟩ := mem_group_iff.mp inside
  exact ⟨p, found, named, equal⟩

/-! ### Tags -/

/-- The tag of a rank. The first overload has none. -/
def tagOf : Nat → Text
  | 0 => []
  | n + 1 => tagFor (n + 1)

theorem tagOf_of_pos {n : Nat} (positive : 0 < n) : tagOf n = tagFor n := by
  cases n with
  | zero => cases positive
  | succ n => rfl

theorem tagOf_injective {m n : Nat} (same : tagOf m = tagOf n) : m = n := by
  cases m <;> cases n
  · rfl
  · cases same
  · cases same
  · exact decimal_injective (List.append_cancel_left same)

/-- Rows that are methods with numbers for tags. The n methods of a name have the numbers below n, one each, in
the order of their parameters and, where these are equal, of their places. -/
structure Numbers (methods rows : List Declaration) : Prop where
  length : rows.length = methods.length
  /-- Nothing but a tag is new. -/
  same : ∀ (place : Nat) (d : Declaration), methods[place]? = some d →
    ∃ label, rows[place]? = some { d with tag := label }
  tags : ∀ name, ((rows.filter fun d => d.method = name).map Declaration.tag).Perm
    ((List.range (methods.countP fun d => d.method = name)).map tagOf)
  order : ∀ (i j : Nat) (first second : Declaration) (m n : Nat), rows[i]? = some first → rows[j]? = some second →
    first.method = second.method → first.tag = tagOf m → second.tag = tagOf n → m < n →
      Before (first, i) (second, j)

section
variable (untagged : ∀ d ∈ methods, d.tag = [])
include untagged

theorem tag_eq : tag methods = methods.zipIdx.map fun p => { p.1 with tag := tagOf (rankAt methods p) } := by
  refine List.map_congr_left fun p member => ?_
  obtain ⟨d, place⟩ := p
  have plain : d.tag = [] := untagged d (List.fst_mem_of_mem_zipIdx member)
  simp only [rankAt]
  cases rank methods place d with
  | zero => exact congrArg (fun label => ({ d with tag := label } : Declaration)) plain
  | succ n => rfl

theorem getElem?_tag (place : Nat) :
    (tag methods)[place]? = methods[place]?.map fun d => { d with tag := tagOf (rankAt methods (d, place)) } := by
  rw [tag_eq untagged, List.getElem?_map, List.getElem?_zipIdx, Option.map_map, Nat.zero_add]
  rfl

theorem of_getElem?_tag {place : Nat} (found : (tag methods)[place]? = some a) :
    ∃ d, methods[place]? = some d ∧ a = { d with tag := tagOf (rankAt methods (d, place)) } := by
  rw [getElem?_tag untagged] at found
  obtain ⟨d, inside, same⟩ := Option.map_eq_some_iff.mp found
  exact ⟨d, inside, same.symm⟩

theorem numbers_tag : Numbers methods (tag methods) where
  length := by rw [tag, List.length_map, List.length_zipIdx]
  same place d found := ⟨tagOf (rankAt methods (d, place)), by rw [getElem?_tag untagged, found, Option.map_some]⟩
  tags name := by
    have tags := (map_rankAt_group methods name).map tagOf
    rw [List.map_map] at tags
    rw [tag_eq untagged, List.filter_map, List.map_map]
    exact tags
  order := by
    intro i j first second m n left right same low high less
    obtain ⟨a, here, rfl⟩ := of_getElem?_tag untagged left
    obtain ⟨b, there, rfl⟩ := of_getElem?_tag untagged right
    have ranks : rankAt methods (a, i) < rankAt methods (b, j) := by
      rwa [tagOf_injective low, tagOf_injective high]
    exact before_of_rankAt_lt (p := (a, i)) (q := (b, j)) here there same ranks

end

/-- Three overloads with another method between them, the longest first. -/
def interleaved : List Declaration :=
  [{ subject := "IActor", result := "void", method := "set", parameters := ["int", "bool"] },
    { subject := "IActor", result := "int", method := "count" },
    { subject := "IActor", result := "void", method := "set", parameters := ["int"] },
    { subject := "IActor", result := "void", method := "set", parameters := ["float"] }]

theorem numbers_tag_interleaved :
    (∀ d ∈ interleaved, d.tag = []) ∧ Numbers interleaved (tag interleaved) := by
  have untagged : ∀ d ∈ interleaved, d.tag = [] := by decide
  exact ⟨untagged, numbers_tag untagged⟩

example : (tag interleaved).map Declaration.tag = ["_2", "", "_1", ""] := by decide +kernel

/-! ### The order of the methods -/

/-- Two methods of one name that their parameters do not tell apart. -/
def Tied (a b : Declaration) : Prop :=
  a.method = b.method ∧ a.parameters.length = b.parameters.length ∧ joined a = joined b

instance (a b : Declaration) : Decidable (Tied a b) := inferInstanceAs (Decidable (_ ∧ _))

theorem Tied.symm (tied : Tied a b) : Tied b a := ⟨tied.1.symm, tied.2.1.symm, tied.2.2.symm⟩

/-- Each method gets the same row in whatever order the methods stand. -/
def Steady (methods : List Declaration) : Prop :=
  ∀ others : List Declaration, others.Perm methods →
    ∀ i j : Nat, methods[i]? = others[j]? → (tag methods)[i]? = (tag others)[j]?

theorem place_eq_of_tied (untied : methods.Pairwise fun a b => ¬ Tied a b) {i j : Nat}
    (first : methods[i]? = some a) (second : methods[j]? = some b) (tied : Tied a b) : i = j := by
  obtain ⟨inside, rfl⟩ := List.getElem?_eq_some_iff.mp first
  obtain ⟨within, rfl⟩ := List.getElem?_eq_some_iff.mp second
  rcases Nat.lt_trichotomy i j with less | same | more
  · exact absurd tied (List.pairwise_iff_getElem.mp untied i j inside within less)
  · exact same
  · exact absurd tied.symm (List.pairwise_iff_getElem.mp untied j i within inside more)

theorem rankAt_of_untied (untied : methods.Pairwise fun a b => ¬ Tied a b) {place : Nat}
    (found : methods[place]? = some d) :
    rankAt methods (d, place) = methods.countP fun a => a.method = d.method ∧ ¬ NotAfter d a := by
  rw [rankAt_eq, group, List.filter_filter, ← List.countP_eq_length_filter, ← countP_zipIdx]
  refine List.countP_congr fun p member => ?_
  obtain ⟨a, other⟩ := p
  rw [List.mem_zipIdx_iff_getElem?] at member
  simp only [Bool.and_eq_true, decide_eq_true_eq]
  rw [and_comm, and_congr_right_iff]
  intro same
  constructor
  · intro before behind
    have tied : Tied a d := ⟨same, notAfter_and_notAfter_iff.mp ⟨before.1, behind⟩⟩
    exact Nat.ne_of_lt (before.2 behind) (place_eq_of_tied untied member found tied)
  · intro first
    exact ⟨(notAfter_total a d).resolve_right first, fun behind => absurd behind first⟩

theorem rankAt_lt_of_tied {i j : Nat} (first : methods[i]? = some a) (tied : Tied a b) (less : i < j) :
    rankAt methods (a, i) < rankAt methods (b, j) :=
  rankAt_lt_of_before (p := (a, i)) (q := (b, j)) first tied.1
    ⟨(notAfter_and_notAfter_iff.mpr tied.2).1, fun _ => less⟩

/-- Exchanging tied methods would exchange their ranks. -/
theorem Steady.untied (untagged : ∀ d ∈ methods, d.tag = []) (steady : Steady methods) :
    methods.Pairwise fun a b => ¬ Tied a b := by
  rw [List.pairwise_iff_getElem]
  intro i j inside within less tied
  let others := (methods.set i methods[j]).set j methods[i]
  have perm : others.Perm methods := List.set_set_perm inside within
  have here : methods[i]? = some methods[i] := List.getElem?_eq_getElem inside
  have there : methods[j]? = some methods[j] := List.getElem?_eq_getElem within
  have early : others[i]? = some methods[j] := by
    rw [List.getElem?_set_ne (Nat.ne_of_gt less), List.getElem?_set_self inside]
  have late : others[j]? = some methods[i] := List.getElem?_set_self (by rwa [List.length_set])
  have plain : ∀ d ∈ others, d.tag = [] := fun d member => untagged d (perm.mem_iff.mp member)
  -- A row tells the rank of its method, so that a method has one rank in both orders.
  have ranks : ∀ {k l : Nat} {d : Declaration}, methods[k]? = some d → others[l]? = some d →
      rankAt methods (d, k) = rankAt others (d, l) := by
    intro k l d first second
    have rows := steady others perm k l (first.trans second.symm)
    rw [getElem?_tag untagged, getElem?_tag plain, first, second] at rows
    exact tagOf_injective (congrArg Declaration.tag (Option.some.inj rows))
  have one := rankAt_lt_of_tied here tied less
  have two := rankAt_lt_of_tied early tied.symm less
  rw [ranks here late, ranks there early] at one
  exact Nat.lt_asymm one two

theorem steady_of_untied (untagged : ∀ d ∈ methods, d.tag = []) (untied : methods.Pairwise fun a b => ¬ Tied a b) :
    Steady methods := by
  intro others perm i j same
  have plain : ∀ d ∈ others, d.tag = [] := fun d member => untagged d (perm.mem_iff.mp member)
  have apart : others.Pairwise fun a b => ¬ Tied a b :=
    (perm.pairwise_iff fun free tied => free tied.symm).mpr untied
  rw [getElem?_tag untagged, getElem?_tag plain, ← same]
  refine Option.map_congr fun d found => ?_
  rw [rankAt_of_untied untied found, rankAt_of_untied apart (same ▸ found), perm.countP_eq]

/-- The order of the methods plays no part just when no two overloads are tied. -/
theorem steady_iff (untagged : ∀ d ∈ methods, d.tag = []) :
    Steady methods ↔ methods.Pairwise fun a b => ¬ Tied a b :=
  ⟨Steady.untied untagged, steady_of_untied untagged⟩

theorem steady_iff_interleaved : (∀ d ∈ interleaved, d.tag = []) ∧ Steady interleaved := by
  have untagged : ∀ d ∈ interleaved, d.tag = [] := by decide
  exact ⟨untagged, (steady_iff untagged).mpr (by decide +kernel)⟩

def returning : List Declaration :=
  [{ subject := "IPool", result := "const Entry&", method := "get" },
    { subject := "IPool", result := "Entry&", method := "get" }]

/-- Two overloads whose parameters have one text, cut in different places. -/
def cut : List Declaration :=
  [{ subject := "IPool", result := "void", method := "set", parameters := ["Pair<int,int>", "Map<int", "int>"] },
    { subject := "IPool", result := "void", method := "set", parameters := ["Pair<int", "int>", "Map<int,int>"] }]

/-- Of two different methods of one class the order decides which one is tagged, if they differ in their results only
or in where their parameters are cut. -/
theorem not_steady : [returning, cut].Forall fun methods =>
    (∀ d ∈ methods, d.subject = ("IPool" : Text) ∧ d.tag = []) ∧
    (methods.map fun d => (d.result, d.method, d.parameters)).Nodup ∧ ¬ Steady methods := by
  refine ⟨⟨by decide, by decide, fun steady => ?_⟩, by decide, by decide, fun steady => ?_⟩
  · exact absurd (steady returning.reverse (List.reverse_perm _) 0 1 rfl) (by decide)
  · exact absurd (steady cut.reverse (List.reverse_perm _) 0 1 rfl) (by decide)

end Forwarding.Overloads
