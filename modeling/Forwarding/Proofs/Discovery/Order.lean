import Forwarding.Proofs.Discovery.Headers
import Forwarding.Text.Basic

/-! The order of headers does not matter when they agree.

What is known of a class name in the end depends on the order in which headers are read only if two of them
show different methods under it. The names themselves are sorted, so that the rows depend on nothing else.
-/

set_option autoImplicit false

namespace Forwarding

open Text

/-! ### Texts in the order of their code points: a linear order -/

namespace Text

theorem le_cons_iff {a b : Char} {s t : Text} :
    le (a :: s) (b :: t) = true ↔ a.toNat < b.toNat ∨ a = b ∧ le s t = true := by
  simp [le]

protected theorem le_total (s t : Text) : le s t = true ∨ le t s = true := by
  induction s generalizing t with
  | nil => exact .inl rfl
  | cons a s ih =>
    cases t with
    | nil => exact .inr rfl
    | cons b t =>
      rw [le_cons_iff, le_cons_iff]
      rcases Nat.lt_trichotomy a.toNat b.toNat with less | same | more
      · exact .inl (.inl less)
      · have equal : a = b := Char.toNat_inj.mp same
        exact (ih t).imp (fun below => .inr ⟨equal, below⟩) fun below => .inr ⟨equal.symm, below⟩
      · exact .inr (.inl more)

protected theorem le_trans {s t u : Text} (first : le s t = true) (second : le t u = true) : le s u = true := by
  induction s generalizing t u with
  | nil => rfl
  | cons a s ih =>
    cases t with
    | nil => cases first
    | cons b t =>
      cases u with
      | nil => cases second
      | cons c u =>
        rw [le_cons_iff] at first second ⊢
        rcases first with less | ⟨rfl, first⟩
        · rcases second with more | ⟨rfl, -⟩
          · exact .inl (Nat.lt_trans less more)
          · exact .inl less
        · exact second.imp id fun ⟨same, second⟩ => ⟨same, ih first second⟩

protected theorem le_antisymm {s t : Text} (first : le s t = true) (second : le t s = true) : s = t := by
  induction s generalizing t with
  | nil =>
    cases t with
    | nil => rfl
    | cons b t => cases second
  | cons a s ih =>
    cases t with
    | nil => cases first
    | cons b t =>
      rw [le_cons_iff] at first second
      rcases first with less | ⟨rfl, first⟩
      · rcases second with more | ⟨rfl, -⟩
        · exact absurd more (Nat.lt_asymm less)
        · exact absurd less (Nat.lt_irrefl _)
      · have later := second.resolve_left (Nat.lt_irrefl _)
        rw [ih first later.2]

end Text

/-! ### Headers that agree -/

namespace Scan

variable {o : ScanOptions} {u v : HeaderUnit}

/-- Headers that both show methods under a class name show the same methods under it. -/
def Agree (o : ScanOptions) (u v : HeaderUnit) : Prop :=
  ∀ subject, methodsUnder o u subject ≠ [] → methodsUnder o v subject ≠ [] →
    methodsUnder o u subject = methodsUnder o v subject

theorem agree_iff : Agree o u v ↔ ∀ entry ∈ classesOf o u, ∀ other ∈ classesOf o v,
    entry.1 = other.1 → entry.2 ≠ [] → other.2 ≠ [] → entry.2 = other.2 := by
  have under : ∀ {w : HeaderUnit} {entry : Text × List Declaration}, entry ∈ classesOf o w →
      methodsUnder o w entry.1 = entry.2 := fun member => by
    rw [methodsUnder, (Bindings.get?_eq_some_iff (nodup_keys_classesOf _ _)).mpr member, Option.getD_some]
  have entry : ∀ {w : HeaderUnit} {subject : Text}, methodsUnder o w subject ≠ [] →
      (subject, methodsUnder o w subject) ∈ classesOf o w := fun {w subject} given => by
    rw [methodsUnder] at given ⊢
    cases found : (classesOf o w).get? subject with
    | none => exact absurd (by rw [found]; rfl) given
    | some methods => exact Bindings.mem_of_get? found
  constructor
  · intro agree first member second other same given more
    have equal := agree first.1
    rw [under member, same, under other] at equal
    exact equal given more
  · intro agree subject given more
    exact agree _ (entry given) _ (entry more) rfl given more

instance (u v : HeaderUnit) : Decidable (Agree o u v) := decidable_of_iff _ agree_iff.symm

/-! ### What is known in the end -/

/-- A class name is known when some header declares it, whether or not it shows methods. -/
theorem isSome_get?_merged (o : ScanOptions) (units : List HeaderUnit) (subject : Text) :
    ((merged o units).get? subject).isSome = units.any fun u => ((classesOf o u).get? subject).isSome := by
  induction units using List.reverseRecOn with
  | nil => rfl
  | append_singleton units u ih =>
    rw [get?_merged_concat, List.any_append, ← ih, List.any_cons, List.any_nil, Bool.or_false]
    rcases (merged o units).get? subject with _ | _ | ⟨d, methods⟩ <;>
      cases (classesOf o u).get? subject <;> rfl

section
variable {first second : List HeaderUnit} (same : ∀ u, u ∈ first ↔ u ∈ second)
  (agree : ∀ u ∈ first, ∀ v ∈ first, Agree o u v)
include same agree

theorem getD_firstShowing_eq (subject : Text) :
    ((firstShowing o first subject).map (methodsUnder o · subject)).getD [] =
      ((firstShowing o second subject).map (methodsUnder o · subject)).getD [] := by
  cases here : firstShowing o first subject with
  | none =>
    have silent : firstShowing o second subject = none := firstShowing_eq_none_iff.mpr fun u member =>
      firstShowing_eq_none_iff.mp here u ((same u).mpr member)
    rw [silent]
  | some u =>
    obtain ⟨member, given⟩ := of_firstShowing here
    cases there : firstShowing o second subject with
    | none => exact absurd (firstShowing_eq_none_iff.mp there u ((same u).mp member)) given
    | some v =>
      obtain ⟨other, more⟩ := of_firstShowing there
      exact agree u member v ((same v).mpr other) subject given more

theorem get?_merged_eq (subject : Text) : (merged o first).get? subject = (merged o second).get? subject := by
  have known : ((merged o first).get? subject).isSome = ((merged o second).get? subject).isSome := by
    rw [isSome_get?_merged, isSome_get?_merged, Bool.eq_iff_iff]
    simp [same]
  have methods : ((merged o first).get? subject).getD [] = ((merged o second).get? subject).getD [] := by
    rw [methodsUnder_merged, methodsUnder_merged]
    exact getD_firstShowing_eq same agree subject
  cases here : (merged o first).get? subject <;> cases there : (merged o second).get? subject <;>
    simp_all

theorem declarationsOf_merged_eq : declarationsOf (merged o first) = declarationsOf (merged o second) := by
  have perm := Bindings.perm_of_get?_eq (nodup_keys_merged o first) (nodup_keys_merged o second)
    (get?_merged_eq same agree)
  have sorted : ∀ classes : Classes, (classes.mergeSort fun a b => le a.1 b.1).Pairwise
      fun a b => le a.1 b.1 = true := fun classes =>
    List.pairwise_mergeSort (fun a b c => @Text.le_trans a.1 b.1 c.1)
      (fun a b => Bool.or_eq_true_iff.mpr (Text.le_total a.1 b.1)) classes
  have equal : ((merged o first).mergeSort fun a b => le a.1 b.1) =
      (merged o second).mergeSort fun a b => le a.1 b.1 := by
    refine List.Perm.eq_of_pairwise (fun a b inside other below above => ?_) (sorted _) (sorted _)
      ((List.mergeSort_perm _ _).trans (perm.trans (List.mergeSort_perm _ _).symm))
    -- Two entries of one name are bound to the same, since each name is bound once.
    have name := Text.le_antisymm below above
    have distinct := nodup_keys_merged o first
    have left := (Bindings.get?_eq_some_iff distinct).mpr (List.mem_mergeSort.mp inside)
    have right := (Bindings.get?_eq_some_iff distinct).mpr (perm.mem_iff.mpr (List.mem_mergeSort.mp other))
    rw [name, right] at left
    exact Prod.ext name (Option.some.inj left).symm
  rw [declarationsOf, declarationsOf, equal]

end

/-! ### The rows of a list of headers -/

def AllAgree (o : ScanOptions) (parser : HeaderParser) (headers : List Text) : Prop :=
  ∀ header ∈ headers, ∀ other ∈ headers, ∀ u ∈ parser header, ∀ v ∈ parser other, Agree o u v

/-- Lists of the same headers, in whatever order and however often each of them stands there, give the same
rows when the headers agree, or are refused alike. -/
theorem collect_eq_of_mem_iff {parser : Option HeaderParser} {first second : List Text}
    (same : ∀ header, header ∈ first ↔ header ∈ second) (agree : ∀ p ∈ parser, AllAgree o p first) :
    collect o parser first = collect o parser second := by
  cases parser with
  | none => rfl
  | some parser =>
    have all : (∀ header ∈ first, (parser header).isSome) ↔ ∀ header ∈ second, (parser header).isSome := by
      simp only [same]
    rw [collect, collect, parsed_eq, parsed_eq]
    by_cases read : ∀ header ∈ first, (parser header).isSome
    · rw [if_pos read, if_pos (all.mp read)]
      refine congrArg Except.ok (declarationsOf_merged_eq (fun u => ?_) fun u left v right => ?_)
      · simp only [List.mem_filterMap, same]
      · obtain ⟨header, member, found⟩ := List.mem_filterMap.mp left
        obtain ⟨other, inside, parsed⟩ := List.mem_filterMap.mp right
        exact agree parser rfl header member other inside u found v parsed
    · rw [if_neg read, if_neg (mt all.mpr read)]

/-- Two headers that declare a class, of which only one shows methods, and share another one. -/
def sharing : HeaderParser
  | ['a'] => some (.of [.classOf true "IPool" [], .classOf true "IActor" [.methodOf "getID" []]])
  | ['b'] => some (.of [.classOf true "IActor" [.methodOf "getID" []], .classOf true "IPool"
      [.methodOf "get" ["int"], .methodOf "get" []]])
  | _ => none

theorem collect_eq_of_mem_iff_sharing :
    (∀ header, header ∈ [['a'], ['b']] ↔ header ∈ [['b'], ['a'], ['b']]) ∧
    AllAgree {} sharing [['a'], ['b']] ∧
    collect {} (some sharing) [['a'], ['b']] = collect {} (some sharing) [['b'], ['a'], ['b']] := by
  have same : ∀ header : Text, header ∈ [['a'], ['b']] ↔ header ∈ [['b'], ['a'], ['b']] := by
    simp [or_comm]
  have agree : AllAgree {} sharing [['a'], ['b']] := by
    unfold AllAgree
    decide +kernel
  refine ⟨same, agree, collect_eq_of_mem_iff same ?_⟩
  rintro _ ⟨⟩
  exact agree

end Scan

end Forwarding
