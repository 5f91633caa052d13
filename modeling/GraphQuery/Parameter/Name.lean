/-! Parameter names that never repeat. -/
namespace GraphQuery

/-- The name of one use of a base: `age`, then `age_2`, `age_3`. -/
structure ParameterName where
  base : String
  occurrence : Nat
deriving DecidableEq

namespace ParameterName

/-- There is no use before the first. -/
def of (base : String) (occurrence : Nat) : ParameterName := ⟨base, max occurrence 1⟩

def first (base : String) : ParameterName := of base 1

def render (n : ParameterName) : String :=
  if 1 < n.occurrence then n.base ++ "_" ++ n.occurrence.repr else n.base

/-- The first name of `base` from occurrence `o` on whose text is not taken. After `fuel` probes the
next one is given unseen. -/
def freeFrom (taken : List String) (base : String) : (fuel o : Nat) → ParameterName
  | 0, o => of base o
  | fuel + 1, o =>
    if (of base o).render ∈ taken then freeFrom taken base fuel (o + 1) else of base o

/-- How often a base has been used. -/
def uses (used : List ParameterName) (base : String) : Nat := used.countP (·.base = base)

/-- The next name for a base: counting goes on from its earlier uses and steps past names that are
taken word for word. As many probes as there are taken names always suffice. -/
def next (used : List ParameterName) (base : String) : ParameterName :=
  freeFrom (used.map render) base used.length (uses used base + 1)

/-- Names for several bases in turn. -/
def nextAll (used : List ParameterName) : List String → List ParameterName
  | [] => []
  | base :: rest =>
    let n := next used base
    n :: nextAll (n :: used) rest

/-- `base`, `base_2`, … whichever is not taken yet. -/
def unused (taken : List String) (base : String) : String :=
  (freeFrom taken base taken.length 1).render

end ParameterName
end GraphQuery
