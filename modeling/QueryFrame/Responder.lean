import QueryFrame.Query
import QueryFrame.Registry.Standard

/-!
# Rehearsed databases

A responder stands in for a database: it records the SQL it is asked to run and answers from a
queue of prepared responses, and from a fallback once the queue is empty. It takes its time; a
query that cannot wait for the response is on record but leaves the queue as it is.
-/

namespace QueryFrame

inductive Response where
  | rows (result : RawResult)
  | failure (reason : String)
  deriving DecidableEq, Repr

structure Responder where
  /-- The SQL texts run so far, oldest first. -/
  recorded : List String := []
  /-- The responses still to be given, next one first. -/
  queue : List Response := []
  fallback : RawResult := .empty
  /-- The milliseconds before each response. -/
  delay : Nat := 0
  deriving DecidableEq, Repr

namespace Response

def outcome : Response → Except QueryError RawResult
  | .rows result => .ok result
  | .failure reason => .error (.queryFailed reason)

end Response

namespace Responder

def record (sql : String) (r : Responder) : Responder :=
  { r with recorded := r.recorded ++ [sql] }

def take (r : Responder) : Except QueryError RawResult × Responder :=
  match r.queue with
  | [] => (.ok r.fallback, r)
  | response :: queue => (response.outcome, { r with queue })

/-- Runs SQL for a query that waits at most the given milliseconds. -/
def run (patience : Nat) (sql : String) : StateM Responder (Except QueryError RawResult) := do
  modify (record sql)
  if patience < (← get).delay then return .error .queryTimedOut
  else modifyGet take

def last? (r : Responder) : Option String := r.recorded.getLast?

def lastIs (r : Responder) (sql : String) : Bool := r.last? == some sql

def countIs (r : Responder) (count : Nat) : Bool := r.recorded.length == count

def query (patience : Nat) (q : Query) : StateM Responder (Except QueryError Frame) :=
  q.answer .standard (run patience)

end Responder

end QueryFrame
