import GraphQuery.Error
import GraphQuery.Identifier
import GraphQuery.Record

/-! Bound values, kept apart by the part of the query they belong to. -/
namespace GraphQuery

/-- The part of a query that a value belongs to. -/
inductive Bucket where
  | projection
  | filter
  | traversal
  | join
  | order
  | having
deriving DecidableEq

namespace Bucket

/-- The order in which buckets are joined into one map. -/
def all : List Bucket := [.projection, .filter, .traversal, .join, .order, .having]

def name : Bucket → String
  | .projection => "select"
  | .filter => "where"
  | .traversal => "matches"
  | .join => "join"
  | .order => "order"
  | .having => "having"

def named? (s : String) : Option Bucket := all.find? fun b => b.name = s

def ofName (s : String) : Except QueryError Bucket :=
  match named? s with
  | some b => .ok b
  | none => .error (.unknownBucket s)

end Bucket

/-- The values of one bucket, and how many were added without a name. -/
structure Slot where
  entries : Parameters
  positional : Nat
deriving DecidableEq

namespace Slot

def empty : Slot := ⟨.empty, 0⟩

/-- Of a dotted path, only the last segment names the value. -/
def insert (s : Slot) (key : String) (value : Value) : Slot :=
  { s with entries := s.entries.insert (Identifier.lastSegment key) value }

def insertAll (s : Slot) (entries : List (String × Value)) : Slot :=
  entries.foldl (fun acc e => acc.insert e.1 e.2) s

/-- The entries of an object are added under their own keys, any other value under its number. -/
def add (s : Slot) : Value → Slot
  | .object fields => s.insertAll fields
  | v => ⟨s.entries.insert s.positional.repr v, s.positional + 1⟩

end Slot

/-- One slot for each bucket. -/
structure Buckets where
  projection : Slot := .empty
  filter : Slot := .empty
  traversal : Slot := .empty
  join : Slot := .empty
  order : Slot := .empty
  having : Slot := .empty
deriving DecidableEq

namespace Buckets

def slot (bs : Buckets) : Bucket → Slot
  | .projection => bs.projection
  | .filter => bs.filter
  | .traversal => bs.traversal
  | .join => bs.join
  | .order => bs.order
  | .having => bs.having

def modify (bs : Buckets) (f : Slot → Slot) : Bucket → Buckets
  | .projection => { bs with projection := f bs.projection }
  | .filter => { bs with filter := f bs.filter }
  | .traversal => { bs with traversal := f bs.traversal }
  | .join => { bs with join := f bs.join }
  | .order => { bs with order := f bs.order }
  | .having => { bs with having := f bs.having }

theorem slot_modify (bs : Buckets) (f : Slot → Slot) (a b : Bucket) :
    (bs.modify f a).slot b = if a = b then f (bs.slot b) else bs.slot b := by
  cases a <;> cases b <;> rfl

def add (bs : Buckets) (value : Value) (b : Bucket) : Buckets := bs.modify (·.add value) b

def insert (bs : Buckets) (key : String) (value : Value) (b : Bucket) : Buckets :=
  bs.modify (·.insert key value) b

def merge (bs : Buckets) (values : Parameters) (b : Bucket) : Buckets :=
  bs.modify (·.insertAll values.entries) b

/-- Adds to the bucket of that name. -/
def addNamed (bs : Buckets) (value : Value) (name : String) : Except QueryError Buckets :=
  (Bucket.ofName name).map (bs.add value)

/-- One map over all buckets in order; a later bucket wins. -/
def flatten (bs : Buckets) : Parameters :=
  Bucket.all.foldl (fun acc b => acc.insertAll (bs.slot b).entries.entries) .empty

def isEmpty (bs : Buckets) : Bool := Bucket.all.all fun b => (bs.slot b).entries.isEmpty

end Buckets
end GraphQuery
