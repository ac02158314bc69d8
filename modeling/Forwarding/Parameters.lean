import Forwarding.Fault
import Forwarding.Spelling.Split

/-! Parameter lists: how many types there are, and the names they get.

A function of N parameters takes them under the names `_1` to `_N` and passes the same names on. The
count is read off a fixed position: behind the types come the numbers from the limit down to zero,
and what lands at the limit's position is the count, or a type when there are too many.
-/

set_option autoImplicit false

namespace Forwarding

open Text

namespace Parameters

def limit : Nat := 10

/-- The numbers from the limit down to zero. -/
def markers : List Nat := (List.range (limit + 1)).reverse

def marked (types : List Text) : List (Text ⊕ Nat) := types.map .inl ++ markers.map .inr

/-- The number of types, if it is within the limit. -/
def count (types : List Text) (origin : Option Text) : Except Fault Nat :=
  match (marked types)[limit]? with
  | some (.inr n) => .ok n
  | _ => .error ⟨.tooManyParameters types.length limit, origin⟩

/-- Refuses a spelling that would not count as one parameter: an empty one, one with a comma outside
brackets, and a piece of a composite type that was split at its comma. -/
def checkSpelling (spelling : Text) (origin : Option Text) : Except Fault Unit :=
  if (strip spelling).isEmpty then .error ⟨.emptyType, origin⟩
  else if Spelling.isComposite spelling then .error ⟨.compositeType spelling, origin⟩
  else if !Spelling.anglesBalanced spelling then .error ⟨.unbalancedType spelling, origin⟩
  else .ok ()

def positional (position : Nat) : Text := "_" ++ decimal position

end Parameters

/-- The parameters of a forwarding function: each type with its name, and the names passed on. -/
structure Parameters where
  formal : List (Text × Text)
  actual : List Text
  deriving Repr, DecidableEq

namespace Parameters

def arity (p : Parameters) : Nat := p.actual.length

def named (types : List Text) (n : Nat) : Parameters :=
  let formal := (types.take n).zipIdx.map fun (type, i) => (type, positional (i + 1))
  ⟨formal, formal.map (·.2)⟩

def ofTypes (types : List Text) (origin : Option Text) : Except Fault Parameters := do
  let n ← count types origin
  types.forM fun type => checkSpelling type origin
  let p := named types n
  if p.formal.length == p.actual.length && p.actual.length == types.length then return p
  else throw ⟨.unequalLists p.formal.length p.actual.length types.length, origin⟩

end Parameters

end Forwarding
