import GraphQuery.Error
import GraphQuery.ResultSet

/-! A connection that keeps what it is sent and answers from a queue. -/
namespace GraphQuery

/-- What a connection is called for. -/
inductive CallKind where
  | select
  | insert
  | update
  | statement
deriving DecidableEq

namespace CallKind

def name : CallKind → String
  | .select => "Select"
  | .insert => "Insert"
  | .update => "Update"
  | .statement => "Statement"

def word : CallKind → String
  | .select => "select"
  | .insert => "insert"
  | .update => "update"
  | .statement => "statement"

end CallKind

/-- One call. `raw` asks for rows as they come. -/
structure Statement where
  kind : CallKind
  text : String
  parameters : Parameters
  raw : Bool
deriving DecidableEq

abbrev Reply := Except TransportError ResultSet

/-- Statements oldest first, and the replies that are still to be given. -/
structure Recorder where
  statements : List Statement := []
  replies : List Reply := []

namespace Recorder

def respond (r : Recorder) (rows : List Row) : Recorder :=
  { r with replies := r.replies ++ [.ok (.ofRows rows)] }

def fail (r : Recorder) (e : TransportError) : Recorder :=
  { r with replies := r.replies ++ [.error e] }

/-- Records the statement and gives the oldest reply, or no rows when none is queued. -/
def execute (r : Recorder) (s : Statement) : Reply × Recorder :=
  match r.replies with
  | [] => (.ok .empty, { r with statements := r.statements ++ [s] })
  | reply :: rest => (reply, ⟨r.statements ++ [s], rest⟩)

end Recorder
end GraphQuery
