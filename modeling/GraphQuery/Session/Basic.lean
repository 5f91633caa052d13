import GraphQuery.Dialect
import GraphQuery.Notice

/-! A query being written, the connection it is sent over, and what was reported on the way. -/
namespace GraphQuery

structure Session where
  query : Query := {}
  recorder : Recorder := {}
  /-- Oldest first. -/
  notices : List Notice := []
  /-- The aggregate requests that were compiled, oldest first. -/
  requests : List AggregateRequest := []

/-- A step on a session. What it has done before it fails stays done. -/
abbrev Action (α : Type) := ExceptT QueryError (StateM Session) α

namespace Action

variable {α : Type}

def query : Action Query := Session.query <$> get

def modifyQuery (f : Query → Query) : Action Unit :=
  modify fun s => { s with query := f s.query }

def modifyRecorder (f : Recorder → Recorder) : Action Unit :=
  modify fun s => { s with recorder := f s.recorder }

def report (notices : List Notice) : Action Unit :=
  modify fun s => { s with notices := s.notices ++ notices }

def ofExcept : Except QueryError α → Action α
  | .ok a => pure a
  | .error e => throw e

def compiled : Except CompileError α → Action α
  | .ok a => pure a
  | .error e => throw (.compile e)

/-- Runs `body` on another query and gives back what became of it. The session's own query stays. -/
def within (q : Query) (body : Action Unit) : Action Query := fun s =>
  match body { s with query := q } with
  | (.ok (), t) => (.ok t.query, { t with query := s.query })
  | (.error e, t) => (.error e, { t with query := s.query })

/-- Errors of `body` come out as errors of a sub-query. -/
def inSubQuery (body : Action α) : Action α := fun s =>
  match body s with
  | (.error e, t) => (.error e.insideSubQuery, t)
  | answer => answer

/-- Hands the outcome over instead of failing. -/
def outcome (body : Action α) : Action (Except QueryError α) := fun s =>
  match body s with
  | (answer, t) => (.ok answer, t)

end Action
end GraphQuery
