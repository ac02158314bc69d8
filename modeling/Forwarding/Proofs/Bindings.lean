import Forwarding.Bindings
import Mathlib.Data.List.Induction

/-! What keys bound one after the other are bound to. -/

set_option autoImplicit false

namespace Forwarding.Bindings

variable {κ α : Type} [DecidableEq κ] {key : κ} {value : α} {entry : κ × α}

theorem mem_of_get? {b : Bindings κ α} (found : b.get? key = some value) : (key, value) ∈ b := by
  obtain ⟨entry, chosen, rfl⟩ := Option.map_eq_some_iff.mp found
  have same : entry.1 = key := by simpa using List.find?_some chosen
  rw [← same]
  exact List.mem_of_find?_eq_some chosen

theorem mem_of_mem_set {b : Bindings κ α} (member : entry ∈ b.set key value) :
    entry ∈ b ∨ entry = (key, value) := by
  induction b with
  | nil => exact .inr (List.mem_singleton.mp member)
  | cons first rest ih =>
    rw [set] at member
    split at member
    · rcases List.mem_cons.mp member with rfl | later
      · exact .inr rfl
      · exact .inl (List.mem_cons_of_mem _ later)
    · rcases List.mem_cons.mp member with rfl | later
      · exact .inl List.mem_cons_self
      · exact (ih later).imp (List.mem_cons_of_mem _) id

theorem nodup_keys_set {b : Bindings κ α} (distinct : (b.map (·.1)).Nodup) (key : κ) (value : α) :
    ((b.set key value).map (·.1)).Nodup := by
  rw [keys_set]
  split
  · exact distinct
  · next new =>
    refine List.nodup_append.mpr ⟨distinct, by simp, fun key member last found same => new ?_⟩
    rw [← List.mem_singleton.mp found, ← same]
    exact member

theorem get?_cons (entry : κ × α) (rest : Bindings κ α) (key : κ) :
    get? (entry :: rest) key = if entry.1 = key then some entry.2 else rest.get? key := by
  by_cases here : entry.1 = key <;> simp [get?, here]

theorem get?_eq_none_iff {b : Bindings κ α} : b.get? key = none ↔ key ∉ b.map (·.1) := by
  induction b with
  | nil => simp [get?]
  | cons entry rest ih =>
    rw [get?_cons, List.map_cons, List.mem_cons, not_or, ← ih]
    split
    · next here => simp [here]
    · next other => simp [Ne.symm other]

theorem get?_eq_some_iff {b : Bindings κ α} (distinct : (b.map (·.1)).Nodup) :
    b.get? key = some value ↔ (key, value) ∈ b := by
  refine ⟨mem_of_get?, fun member => ?_⟩
  induction b with
  | nil => cases member
  | cons entry rest ih =>
    rw [List.map_cons, List.nodup_cons] at distinct
    rw [get?_cons]
    rcases List.mem_cons.mp member with rfl | later
    · rw [if_pos rfl]
    -- The search does not stop here, since the key stands only once.
    · have other : entry.1 ≠ key := fun same => distinct.1 (same ▸ List.mem_map_of_mem later)
      rw [if_neg other, ih distinct.2 later]

omit [DecidableEq κ] in
theorem nodup_of_nodup_keys {b : Bindings κ α} (distinct : (b.map (·.1)).Nodup) : b.Nodup :=
  (List.pairwise_map.mp distinct).imp fun apart same => apart (congrArg Prod.fst same)

/-- What the keys are bound to determines the bindings but for their order. -/
theorem perm_of_get?_eq {b c : Bindings κ α} (first : (b.map (·.1)).Nodup) (second : (c.map (·.1)).Nodup)
    (same : ∀ key, b.get? key = c.get? key) : b.Perm c := by
  refine (List.perm_ext_iff_of_nodup (nodup_of_nodup_keys first) (nodup_of_nodup_keys second)).mpr
    fun ⟨key, value⟩ => ?_
  rw [← get?_eq_some_iff first, ← get?_eq_some_iff second, same]

theorem set_append {b more : Bindings κ α} (new : key ∉ b.map (·.1)) (value : α) :
    set (b ++ more) key value = b ++ set more key value := by
  induction b with
  | nil => rfl
  | cons first rest ih =>
    rw [List.map_cons, List.mem_cons, not_or] at new
    rw [List.cons_append, set, if_neg (Ne.symm new.1), ih new.2]
    rfl

/-! ### Pairs bound one after the other -/

section
variable {pairs more : List (κ × α)}

-- Binding is a fold from the left, so that the lemmas below go by induction on the pairs bound so far.
theorem ofList_concat (pairs : List (κ × α)) (last : κ × α) :
    ofList (pairs ++ [last]) = (ofList pairs).set last.1 last.2 := by
  rw [ofList, List.foldl_append]
  rfl

theorem mem_of_mem_ofList (member : entry ∈ ofList pairs) : entry ∈ pairs := by
  induction pairs using List.reverseRecOn with
  | nil => exact member
  | append_singleton pairs last ih =>
    rw [ofList_concat] at member
    rw [List.mem_append, List.mem_singleton]
    exact (mem_of_mem_set member).imp ih id

theorem mem_keys_ofList : key ∈ (ofList pairs).map (·.1) ↔ key ∈ pairs.map (·.1) := by
  induction pairs using List.reverseRecOn with
  | nil => rfl
  | append_singleton pairs last ih =>
    rw [ofList_concat, keys_set, List.map_append, List.map_singleton]
    split
    · next known =>
      rw [List.mem_append, List.mem_singleton, ih]
      refine ⟨.inl, fun found => found.elim id ?_⟩
      rintro rfl
      exact ih.mp known
    · rw [List.mem_append, List.mem_append, ih]

theorem nodup_keys_ofList (pairs : List (κ × α)) : ((ofList pairs).map (·.1)).Nodup := by
  induction pairs using List.reverseRecOn with
  | nil => exact List.nodup_nil
  | append_singleton pairs last ih =>
    rw [ofList_concat]
    exact nodup_keys_set ih last.1 last.2

theorem ofList_append (apart : ∀ key ∈ more.map (·.1), key ∉ pairs.map (·.1)) :
    ofList (pairs ++ more) = ofList pairs ++ ofList more := by
  induction more using List.reverseRecOn with
  | nil => simp [ofList]
  | append_singleton more last ih =>
    rw [List.map_append, List.forall_mem_append] at apart
    have new : last.1 ∉ (ofList pairs).map (·.1) :=
      mt mem_keys_ofList.mp (apart.2 last.1 (List.mem_singleton_self _))
    rw [← List.append_assoc, ofList_concat, ofList_concat, ih apart.1, set_append new]

/-- Keys that are pairwise different stay where they are. -/
theorem ofList_of_nodup (distinct : (pairs.map (·.1)).Nodup) : ofList pairs = pairs := by
  induction pairs with
  | nil => rfl
  | cons first rest ih =>
    rw [List.map_cons, List.nodup_cons] at distinct
    have apart : ∀ key ∈ rest.map (·.1), key ∉ [first].map (·.1) := by
      rintro key member own
      rw [List.map_singleton, List.mem_singleton] at own
      exact distinct.1 (own ▸ member)
    exact (ofList_append apart).trans (congrArg (first :: ·) (ih distinct.2))

theorem get?_ofList (pairs : List (κ × α)) :
    (ofList pairs).get? key = ((pairs.filter fun entry => entry.1 = key).getLast?).map (·.2) := by
  induction pairs using List.reverseRecOn with
  | nil => rfl
  | append_singleton pairs last ih =>
    rw [ofList_concat, get?_set, List.filter_append, ih]
    by_cases here : last.1 = key
    · rw [if_pos here, List.filter_cons_of_pos (by simpa using here), List.filter_nil,
        List.getLast?_concat, Option.map_some]
    · rw [if_neg here, List.filter_cons_of_neg (by simpa using here), List.filter_nil, List.append_nil]

end

end Forwarding.Bindings
