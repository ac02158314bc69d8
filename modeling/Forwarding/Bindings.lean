/-! Keys bound to values, in the order in which the keys were first bound. -/

set_option autoImplicit false

namespace Forwarding

abbrev Bindings (κ α : Type) := List (κ × α)

namespace Bindings

variable {κ α : Type} [DecidableEq κ]

def get? (b : Bindings κ α) (key : κ) : Option α := (b.find? fun entry => entry.1 = key).map (·.2)

/-- Binds a key: in its place if it is bound already, at the end otherwise. -/
def set : Bindings κ α → κ → α → Bindings κ α
  | [], key, value => [(key, value)]
  | entry :: rest, key, value =>
    if entry.1 = key then (key, value) :: rest else entry :: set rest key value

/-- Binds keys one after the other, so that the last value of a key counts. -/
def ofList (pairs : List (κ × α)) : Bindings κ α :=
  pairs.foldl (fun b entry => b.set entry.1 entry.2) []

theorem get?_set (b : Bindings κ α) (key : κ) (value : α) (other : κ) :
    (b.set key value).get? other = if key = other then some value else b.get? other := by
  induction b with
  | nil => by_cases h : key = other <;> simp [set, get?, h]
  | cons entry rest ih =>
    rw [set]
    split
    · next h =>
      subst h
      by_cases h : entry.1 = other <;> simp [get?, h]
    · next h =>
      simp only [get?] at ih ⊢
      by_cases h' : entry.1 = other
      · subst h'
        simp [Ne.symm h]
      · simp [h', ih]

theorem keys_set (b : Bindings κ α) (key : κ) (value : α) :
    (b.set key value).map (·.1) =
      if key ∈ b.map (·.1) then b.map (·.1) else b.map (·.1) ++ [key] := by
  induction b with
  | nil => simp [set]
  | cons entry rest ih =>
    rw [set]
    split
    · next h => simp [h]
    · next h =>
      simp only [List.map_cons, ih, List.mem_cons, Ne.symm h, false_or]
      split <;> simp

end Bindings

end Forwarding
