import GraphQuery.Proofs.Parameter.Positional
import Mathlib.Data.List.Induction

/-! The joined buckets. Which keys they hold, in which order and with which values, is told from
the buckets in turn; so only the order of the writes to each bucket by itself matters. -/
namespace GraphQuery

namespace Bucket

/-- The buckets that are joined before this one. -/
def earlier (b : Bucket) : List Bucket := all.takeWhile (· ≠ b)

end Bucket

namespace Buckets

/-- One map over some buckets in order. -/
def joined (bs : Buckets) (order : List Bucket) : Parameters :=
  order.foldl (fun acc b => acc.insertAll (bs.slot b).entries.entries) .empty

variable (bs : Buckets)

end Buckets

namespace Write

end Write

end GraphQuery
