import QueryFrame.Proofs.Converter.Acceptance
import QueryFrame.Proofs.Frame.Failure
import QueryFrame.Proofs.Macro.Outline
import QueryFrame.Proofs.Registry.Resolution
import QueryFrame.Proofs.Responder.Run
import QueryFrame.Responder.Session

/-!
# Blame over sessions

A query step either comes to an SQL text, which the responder records, or it stops at an error of
the request and leaves the responder as it is. All errors after the text are the database's. So the
steps that are bad requests can be left out of a session, and so can mere interpolations.
-/

namespace QueryFrame

/-- The errors of a query whose SQL text has come to the database. -/
inductive QueryError.OfDatabase : QueryError → Prop
  | queryFailed (reason : String) : OfDatabase (.queryFailed reason)
  | queryTimedOut : OfDatabase .queryTimedOut
  | unsupportedType (typeName : String) : OfDatabase (.unsupportedType typeName)
  | columnCountMismatch (expected actual : Nat) : OfDatabase (.columnCountMismatch expected actual)
  | shapeMismatch (expected received : String) : OfDatabase (.shapeMismatch expected received)

section

variable {e : QueryError}

private theorem QueryError.OfDatabase.isBadRequest (h : e.OfDatabase) : e.isBadRequest = false := by
  cases h <;> rfl

private theorem Query.isBadRequest_of_sql {q : Query} (h : q.sql = .error e) :
    e.isBadRequest = true :=
  (ofMacro_of_interpolate h).isBadRequest

private theorem Query.isBadRequest_of_ofDocument {document : List UInt8} {range : TimeRange}
    (h : ofDocument document range = .error e) : e.isBadRequest = true := by
  rw [ofDocument] at h
  split at h
  · simp at h
  · obtain rfl := Except.error.inj h
    rfl

private theorem Frame.ofDatabase_of_ofRaw {name : String} {raw : RawResult}
    (h : ofRaw name raw .standard = .error e) : e.OfDatabase := by
  rcases ofRaw_error_cases h with hcolumn | hrow | hcell
  · obtain ⟨column, _, hresolve⟩ := hcolumn
    obtain ⟨_, rfl⟩ := Registry.resolve_eq_error_iff.1 hresolve
    exact .unsupportedType _
  · obtain ⟨_, _, _, rfl⟩ := hrow
    exact .columnCountMismatch _ _
  · obtain ⟨_, _, _, _, c, cell, _, hresolve, _, hconvert⟩ := hcell
    have htakes := Registry.takes_standard (Registry.mem_of_resolve hresolve)
    rw [htakes.eq_mismatch hconvert]
    exact .shapeMismatch _ _

private theorem Response.ofDatabase_of_outcome {response : Response}
    (h : response.outcome = .error e) : e.OfDatabase := by
  cases response with
  | rows result => simp [outcome] at h
  | failure reason =>
    obtain rfl := Except.error.inj h
    exact .queryFailed reason

end

namespace Step

/-- The step is to be answered with a frame. -/
def isQuery : Step → Bool
  | .query _ | .document _ _ => true
  | .interpolation _ => false

def sql : Step → Except QueryError String
  | .query q | .interpolation q => q.sql
  | .document text range => (Query.ofDocument text range).bind Query.sql

end Step

/-- The answer is an error that the request is to blame for. -/
def Answer.isBadRequest : Answer → Bool
  | .frame (.error e) | .sql (.error e) => e.isBadRequest
  | _ => false

namespace Responder

variable {patience : Nat} {r : Responder}

private theorem query_recorded {q : Query} {sql : String} (h : q.sql = .ok sql) :
    ((query patience q).run r).2.recorded = r.recorded ++ [sql] := by
  by_cases late : patience < r.delay
  · rw [query_of_timeout patience r h late]
    rfl
  · rw [query_of_response patience r h late]
    rfl

private theorem query_ofDatabase {q : Query} {sql : String} {e : QueryError} (h : q.sql = .ok sql)
    (he : ((query patience q).run r).1 = .error e) : e.OfDatabase := by
  by_cases late : patience < r.delay
  · rw [query_of_timeout patience r h late] at he
    obtain rfl := Except.error.inj he
    exact .queryTimedOut
  · rw [query_of_response patience r h late] at he
    rcases bind_eq_error_iff.1 he with houtcome | ⟨raw, _, hframe⟩
    · exact Response.ofDatabase_of_outcome houtcome
    · exact Frame.ofDatabase_of_ofRaw hframe

/-- The record and the queue of the one are those of the other. -/
def Untouched (r r' : Responder) : Prop := r'.recorded = r.recorded ∧ r'.queue = r.queue

private theorem not_untouched {r' : Responder} {sql : String}
    (h : r'.recorded = r.recorded ++ [sql]) :
    ¬ r.Untouched r' := by
  intro huntouched
  rw [huntouched.1] at h
  simp at h

end Responder

namespace Step

/-- Who is to blame if a query step that leads from one responder to another has the outcome. -/
structure Blames (step : Step) (outcome : Except QueryError Frame) (r r' : Responder) : Prop where
  refused : ∀ e, step.sql = .error e → outcome = .error e ∧ r' = r
  recorded : ∀ sql, step.sql = .ok sql → r'.recorded = r.recorded ++ [sql]
  request : (∃ e, outcome = .error e ∧ e.isBadRequest = true) ↔ r.Untouched r'
  database : ¬ r.Untouched r' → ∀ e, outcome = .error e → e.OfDatabase ∧ e.isBadRequest = false

variable {patience : Nat} {r : Responder} {step : Step}

theorem isBadRequest_of_sql {e : QueryError} (h : step.sql = .error e) : e.isBadRequest = true := by
  cases step with
  | query q => exact q.isBadRequest_of_sql h
  | interpolation q => exact q.isBadRequest_of_sql h
  | document text range =>
    rcases bind_eq_error_iff.1 h with hdocument | ⟨q, _, hsql⟩
    · exact Query.isBadRequest_of_ofDocument hdocument
    · exact q.isBadRequest_of_sql hsql

private theorem run_of_not_isQuery (h : step.isQuery = false) :
    (step.run patience).run r = (.sql step.sql, r) := by
  cases step with
  | interpolation q => rfl
  | query q => simp [isQuery] at h
  | document text range => simp [isQuery] at h

private theorem run_query (q : Query) :
    ((Step.query q).run patience).run r =
      (.frame ((Responder.query patience q).run r).1, ((Responder.query patience q).run r).2) := rfl

private theorem run_document {text : List UInt8} {range : TimeRange} {q : Query}
    (h : Query.ofDocument text range = .ok q) :
    ((Step.document text range).run patience).run r = ((Step.query q).run patience).run r := by
  simp only [run, h]

private theorem run_of_error (hquery : step.isQuery = true) {e : QueryError}
    (h : step.sql = .error e) :
    (step.run patience).run r = (.frame (.error e), r) := by
  cases step with
  | interpolation q => simp [isQuery] at hquery
  | query q => rw [run_query, Responder.query_of_error patience r h]
  | document text range =>
    rcases bind_eq_error_iff.1 h with hdocument | ⟨q, hdocument, hsql⟩
    · rw [run, hdocument]
      rfl
    · rw [run_document hdocument, run_query, Responder.query_of_error patience r hsql]

private theorem run_of_ok (hquery : step.isQuery = true) {sql : String} (h : step.sql = .ok sql) :
    ∃ outcome r', (step.run patience).run r = (.frame outcome, r') ∧
      r'.recorded = r.recorded ++ [sql] ∧ ∀ e, outcome = .error e → e.OfDatabase := by
  have hreached (q : Query) (hsql : q.sql = .ok sql) :
      ∃ outcome r', ((Step.query q).run patience).run r = (.frame outcome, r') ∧
        r'.recorded = r.recorded ++ [sql] ∧ ∀ e, outcome = .error e → e.OfDatabase :=
    ⟨_, _, run_query q, Responder.query_recorded hsql,
      fun _ he => Responder.query_ofDatabase hsql he⟩
  cases step with
  | interpolation q => simp [isQuery] at hquery
  | query q => exact hreached q h
  | document text range =>
    obtain ⟨q, hdocument, hsql⟩ := bind_eq_ok_iff.1 h
    rw [run_document hdocument]
    exact hreached q hsql

private theorem blames_of_error {e : QueryError} (h : step.sql = .error e) :
    step.Blames (.error e) r r := by
  have huntouched : r.Untouched r := ⟨rfl, rfl⟩
  constructor
  · intro e' h'
    obtain rfl := Except.error.inj (h.symm.trans h')
    exact ⟨rfl, rfl⟩
  · simp [h]
  · exact iff_of_true ⟨e, rfl, isBadRequest_of_sql h⟩ huntouched
  · exact fun htouched => absurd huntouched htouched

private theorem blames_of_ok {outcome : Except QueryError Frame} {r' : Responder} {sql : String}
    (h : step.sql = .ok sql) (hrecorded : r'.recorded = r.recorded ++ [sql])
    (herrors : ∀ e, outcome = .error e → e.OfDatabase) : step.Blames outcome r r' := by
  have hblame : ∀ e, outcome = .error e → e.OfDatabase ∧ e.isBadRequest = false := by
    intro e he
    exact ⟨herrors e he, (herrors e he).isBadRequest⟩
  constructor
  · simp [h]
  · intro sql' h'
    obtain rfl := Except.ok.inj (h.symm.trans h')
    exact hrecorded
  · refine iff_of_false ?_ (Responder.not_untouched hrecorded)
    intro hbad
    obtain ⟨e, he, hbad⟩ := hbad
    simp [(hblame e he).2] at hbad
  · exact fun _ => hblame

private theorem run_blames (hquery : step.isQuery = true) :
    ∃ outcome r', (step.run patience).run r = (.frame outcome, r') ∧
      step.Blames outcome r r' := by
  cases hsql : step.sql with
  | error e => exact ⟨_, _, run_of_error hquery hsql, blames_of_error hsql⟩
  | ok sql =>
    obtain ⟨outcome, r', hrun, hrecorded, herrors⟩ := run_of_ok (r := r) hquery hsql
    exact ⟨outcome, r', hrun, blames_of_ok hsql hrecorded herrors⟩

/-- The step is a query and its answer no bad request. -/
def isKept (entry : Step × Answer) : Bool := entry.1.isQuery && !entry.2.isBadRequest

private theorem run_of_not_isKept (h : isKept (step, ((step.run patience).run r).1) = false) :
    ((step.run patience).run r).2 = r := by
  cases hquery : step.isQuery with
  | false => rw [run_of_not_isQuery hquery]
  | true =>
    cases hsql : step.sql with
    | error e => rw [run_of_error hquery hsql]
    | ok sql =>
      -- a query with a text is kept, whatever it is answered
      obtain ⟨outcome, r', hrun, -, herrors⟩ := run_of_ok (r := r) hquery hsql
      rw [hrun] at h
      cases outcome with
      | ok frame => simp [isKept, hquery, Answer.isBadRequest] at h
      | error e => simp [isKept, hquery, Answer.isBadRequest, (herrors e rfl).isBadRequest] at h

end Step

namespace Responder

variable (patience : Nat) (r : Responder)

def afterSteps (steps : List Step) : Responder := ((session patience steps).run r).2

/-- The queries of a session that are no bad requests, with what they are answered. -/
def kept (steps : List Step) : List (Step × Answer) :=
  (steps.zip ((session patience steps).run r).1).filter Step.isKept

/-- Who is to blame for the errors of a session, and what can be left out of it. -/
theorem session_blames (patience : Nat) (r : Responder) (steps : List Step) :
    (∀ before step later, steps = before ++ step :: later → step.isQuery = true →
      ∃ outcome, ((session patience steps).run r).1[before.length]? = some (.frame outcome) ∧
        step.Blames outcome (r.afterSteps patience before)
          (r.afterSteps patience (before ++ [step]))) ∧
    (session patience ((r.kept patience steps).map Prod.fst)).run r =
      ((r.kept patience steps).map Prod.snd, r.afterSteps patience steps) := by
  constructor
  · intro before step later hsteps hquery
    subst hsteps
    have hstep : ∃ outcome r',
        (step.run patience).run (r.afterSteps patience before) = (.frame outcome, r') ∧
          step.Blames outcome (r.afterSteps patience before) r' := Step.run_blames hquery
    obtain ⟨outcome, r', hrun, hblames⟩ := hstep
    have hanswer : ((session patience (before ++ step :: later)).run r).1[before.length]? =
        some ((step.run patience).run (r.afterSteps patience before)).1 :=
      getElem?_run_mapM before step later r
    have hafter : r.afterSteps patience (before ++ [step]) =
        ((step.run patience).run (r.afterSteps patience before)).2 :=
      run_mapM_concat before step r
    rw [hanswer, hafter, hrun]
    exact ⟨outcome, rfl, hblames⟩
  · exact run_mapM_filter (fun _ _ h => Step.run_of_not_isKept h) steps r

def down : Responder where
  queue := [.failure "down"]

/-- A mere interpolation, a query whose macro is not closed, and a query that reaches the
database. -/
def outage : List Step :=
  let range : TimeRange := ⟨.midnight 0, .midnight 1⟩
  [.interpolation ⟨"A", "$__toTimestamp", range⟩, .query ⟨"B", "$__timeFilter(day", range⟩,
    .query ⟨"C", "SELECT 1", range⟩]

theorem session_blames_outage :
    ((session 100 outage).run down).1 =
      [.sql (.ok "CAST(86400000000 AS TIMESTAMP)"),
        .frame (.error (.unterminatedMacro "timeFilter")),
        .frame (.error (.queryFailed "down"))] ∧
    (session 100 (outage.drop 2)).run down =
      ([.frame (.error (.queryFailed "down"))], down.afterSteps 100 outage) ∧
    (down.afterSteps 100 (outage.take 1)).Untouched (down.afterSteps 100 (outage.take 2)) ∧
    ¬ (down.afterSteps 100 (outage.take 2)).Untouched (down.afterSteps 100 (outage.take 3)) := by
  have hanswers : ((session 100 outage).run down).1 =
      [.sql (.ok "CAST(86400000000 AS TIMESTAMP)"),
        .frame (.error (.unterminatedMacro "timeFilter")),
        .frame (.error (.queryFailed "down"))] := by decide +kernel
  have hkept : down.kept 100 outage =
      (outage.drop 2).map fun step => (step, .frame (.error (.queryFailed "down"))) := by
    decide +kernel
  obtain ⟨hsteps, hsession⟩ := session_blames 100 down outage
  obtain ⟨macroOutcome, hmacro, hmacroBlames⟩ := hsteps [_] _ [_] rfl rfl
  obtain ⟨lastOutcome, hlast, hlastBlames⟩ := hsteps [_, _] _ [] rfl rfl
  rw [hanswers] at hmacro hlast
  cases hmacro
  cases hlast
  rw [hkept] at hsession
  refine ⟨hanswers, hsession, hmacroBlames.request.1 ⟨_, rfl, rfl⟩, ?_⟩
  intro huntouched
  obtain ⟨e, he, hbad⟩ := hlastBlames.request.2 huntouched
  cases he
  cases hbad

end Responder

end QueryFrame
