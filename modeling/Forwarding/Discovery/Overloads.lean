import Forwarding.Declaration

/-! Tags for the overloads of a class.

Methods of one name are ranked by their number of parameters and then by their parameter lists as
text; of two that are equal in both, the one declared first comes first. The first in rank needs no
tag, the others are tagged with their rank.
-/

set_option autoImplicit false

namespace Forwarding

open Text

namespace Overloads

def joined (d : Declaration) : Text := join "," d.parameters

/-- Whether one overload ranks strictly before another by its parameters. -/
def precedes (a b : Declaration) : Bool :=
  a.parameters.length < b.parameters.length ||
    (a.parameters.length == b.parameters.length && !le (joined b) (joined a))

def rank (methods : List Declaration) (index : Nat) (d : Declaration) : Nat :=
  (methods.zipIdx.filter fun (other, i) =>
    other.method == d.method &&
      (precedes other d || (!precedes d other && i < index))).length

def tagFor (rank : Nat) : Text := "_" ++ decimal rank

/-- The methods of a class with tags that tell overloads apart, in the order in which they stand. -/
def tag (methods : List Declaration) : List Declaration :=
  methods.zipIdx.map fun (d, index) =>
    match rank methods index d with
    | 0 => d
    | n => { d with tag := tagFor n }

end Overloads

end Forwarding
