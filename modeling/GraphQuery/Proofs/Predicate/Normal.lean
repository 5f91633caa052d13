import GraphQuery.Operator
import GraphQuery.Query

/-! The form of conditions: their operators are known, null has tests of its own, and no group is
empty. -/
namespace GraphQuery

namespace Condition

mutual

/-- Comparisons have known operators, null has tests of its own, and a group has conditions. -/
def isNormal : Condition → Bool
  | comparison _ operator (.bound v) _ _ => Operator.isKnown operator && !v.isNull
  | comparison _ operator (.raw _) _ _ | queryComparison _ operator _ _ => Operator.isKnown operator
  | group conditions _ => !conditions.isEmpty && areNormal conditions
  | _ => true

def areNormal : List Condition → Bool
  | [] => true
  | c :: rest => c.isNormal && areNormal rest

end

theorem are_normal_append (earlier later : List Condition) :
    areNormal (earlier ++ later) = (areNormal earlier && areNormal later) := by
  induction earlier with
  | nil => rfl
  | cons c rest ih => rw [List.cons_append, areNormal, areNormal, ih, Bool.and_assoc]

end Condition

open Condition (areNormal are_normal_append)

theorem Operator.known_equality : Operator.isKnown "=" := by decide +kernel

namespace Query

/-- No condition of the query is out of form. -/
abbrev Normal (q : Query) : Prop := areNormal q.conditions

variable {q : Query}

theorem Normal.append {conditions : List Condition} (normal : q.Normal)
    (more : areNormal conditions) (values : Parameters) : (q.append conditions values).Normal := by
  rw [Normal, Query.append, are_normal_append, Bool.and_eq_true]
  exact ⟨normal, more⟩

theorem Normal.push {c : Condition} (normal : q.Normal) (here : c.isNormal) :
    (q.push c).Normal := by
  have alone : areNormal [c] := by rw [areNormal, here, areNormal, Bool.and_true]
  rw [Normal, Query.push, are_normal_append, Bool.and_eq_true]
  exact ⟨normal, alone⟩

theorem Normal.filter_group {group : Query} (normal : q.Normal) (inside : group.Normal)
    (connective : Connective) : (q.filterGroup group connective).Normal := by
  rw [filterGroup]
  split
  · exact normal
  · rename_i asked
    have here : (Condition.group group.conditions connective).isNormal := by
      rw [Condition.isNormal, Bool.eq_false_iff.mpr asked]
      exact inside
    exact Normal.push (q := { q with buckets := _ }) normal here

end Query
end GraphQuery
