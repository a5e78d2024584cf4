import QueryFrame.Responder

/-!
# Sessions

The steps that a user of the data source takes one after another against a responder, and what
each of them answers.
-/

namespace QueryFrame

inductive Step where
  | query (q : Query)
  /-- A query given as a document. -/
  | document (text : List UInt8) (range : TimeRange)
  /-- The expansion of a query's macros, without running it. -/
  | interpolation (q : Query)
  deriving DecidableEq, Repr

inductive Answer where
  | frame (outcome : Except QueryError Frame)
  | sql (outcome : Except QueryError String)
  deriving DecidableEq, Repr

namespace Step

/-- Takes a step. Queries wait at most the given milliseconds. -/
def run (patience : Nat) : Step → StateM Responder Answer
  | .query q => .frame <$> Responder.query patience q
  | .document text range =>
    match Query.ofDocument text range with
    | .ok q => .frame <$> Responder.query patience q
    | .error e => pure (.frame (.error e))
  | .interpolation q => pure (.sql q.sql)

end Step

def session (patience : Nat) (steps : List Step) : StateM Responder (List Answer) :=
  steps.mapM (Step.run patience)

end QueryFrame
