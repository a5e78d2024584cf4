import Mathlib.Data.List.Induction
import QueryFrame.Proofs.Traversal
import QueryFrame.Responder

/-!
# Runs of queries against a responder

Queries are answered one after another. A query whose macros do not expand never reaches the
responder; every other one is recorded, and the ones that can wait for a response take the
responses in the order of the queue, and the fallback once the queue is empty.
-/

namespace QueryFrame

def Query.sql? (q : Query) : Option String := q.sql.toOption

namespace Responder

def answerAll (patience : Nat) (queries : List Query) :
    StateM Responder (List (Except QueryError Frame)) :=
  queries.mapM (query patience)

section

variable (patience : Nat) (r : Responder)

def answers (queries : List Query) : List (Except QueryError Frame) :=
  ((answerAll patience queries).run r).1

def after (queries : List Query) : Responder := ((answerAll patience queries).run r).2

/-- The response that is next when so many have been asked for. -/
def responseAt (place : Nat) : Response := r.queue[place]?.getD (.rows r.fallback)

theorem run_eq (sql : String) :
    (run patience sql).run r =
      if patience < r.delay then (.error .queryTimedOut, r.record sql)
      else take (r.record sql) := by
  change (if patience < r.delay then pure (.error .queryTimedOut)
    else modifyGet take : StateM Responder _).run (r.record sql) = _
  split <;> rfl

theorem take_eq : r.take = ((r.responseAt 0).outcome, { r with queue := r.queue.tail }) := by
  obtain ⟨recorded, queue, fallback, delay⟩ := r
  cases queue <;> rfl

theorem query_of_error {q : Query} {e : QueryError} (h : q.sql = .error e) :
    (query patience q).run r = (.error e, r) := by
  rw [query, Query.answer, h]
  rfl

theorem query_of_ok {q : Query} {sql : String} (h : q.sql = .ok sql) :
    (query patience q).run r =
      (((run patience sql).run r).1.bind fun raw => Frame.ofRaw q.refId raw .standard,
        ((run patience sql).run r).2) := by
  rw [query, Query.answer, h]
  rfl

theorem query_of_timeout {q : Query} {sql : String} (h : q.sql = .ok sql)
    (late : patience < r.delay) :
    (query patience q).run r = (.error .queryTimedOut, r.record sql) := by
  rw [query_of_ok patience r h, run_eq, if_pos late]
  rfl

theorem query_of_response {q : Query} {sql : String} (h : q.sql = .ok sql)
    (inTime : ¬ patience < r.delay) :
    (query patience q).run r =
      ((r.responseAt 0).outcome.bind fun raw => Frame.ofRaw q.refId raw .standard,
        { r.record sql with queue := r.queue.tail }) := by
  rw [query_of_ok patience r h, run_eq, if_neg inTime, take_eq]
  rfl

end

section

variable {patience : Nat} {r : Responder}

theorem after_nil : r.after patience [] = r := rfl

theorem after_concat (before : List Query) (q : Query) :
    r.after patience (before ++ [q]) = ((query patience q).run (r.after patience before)).2 :=
  run_mapM_concat before q r

theorem length_answers (queries : List Query) :
    (r.answers patience queries).length = queries.length := length_run_mapM queries r

private theorem getElem?_answers (before : List Query) (q : Query) (later : List Query) :
    (r.answers patience (before ++ q :: later))[before.length]? =
      some ((query patience q).run (r.after patience before)).1 :=
  getElem?_run_mapM before q later r

/-- After queries the record has grown by their texts, and unless they were too slow the queue has
lost a response for each text. -/
theorem after_eq (queries : List Query) :
    r.after patience queries =
      { r with
        recorded := r.recorded ++ queries.filterMap Query.sql?
        queue := if patience < r.delay then r.queue
          else r.queue.drop (queries.filterMap Query.sql?).length } := by
  induction queries using List.reverseRecOn with
  | nil => simp [after_nil]
  | append_singleton before q ih =>
    rw [after_concat, List.filterMap_append]
    cases hsql : q.sql with
    | error e =>
      have hnone : [q].filterMap Query.sql? = [] := by simp [Query.sql?, hsql, Except.toOption]
      rw [query_of_error patience _ hsql, hnone, List.append_nil]
      exact ih
    | ok sql =>
      have hsome : [q].filterMap Query.sql? = [sql] := by simp [Query.sql?, hsql, Except.toOption]
      rw [hsome]
      by_cases late : patience < r.delay
      · rw [query_of_timeout patience _ hsql (by rw [ih]; exact late), ih]
        simp [record, late]
      · rw [query_of_response patience _ hsql (by rw [ih]; exact late), ih]
        simp [record, late]

theorem responseAt_after (before : List Query) (inTime : ¬ patience < r.delay) :
    (r.after patience before).responseAt 0 =
      r.responseAt (before.filterMap Query.sql?).length := by
  rw [after_eq]
  simp [responseAt, inTime]

/-- Which of its stages a query comes to, and what it does to the record and the queue there. -/
theorem run_queries (patience : Nat) (r : Responder) (queries : List Query) :
    (r.after patience queries).recorded = r.recorded ++ queries.filterMap Query.sql? ∧
    (r.after patience queries).queue = (if patience < r.delay then r.queue
      else r.queue.drop (queries.filterMap Query.sql?).length) ∧
    (r.after patience queries).fallback = r.fallback ∧
    (r.answers patience queries).length = queries.length ∧
    ∀ before q later, queries = before ++ q :: later →
      ∃ answer, (r.answers patience queries)[before.length]? = some answer ∧
        (∀ e, q.sql = .error e →
          answer = .error e ∧ r.after patience (before ++ [q]) = r.after patience before) ∧
        ∀ sql, q.sql = .ok sql →
          (r.after patience (before ++ [q])).recorded =
            (r.after patience before).recorded ++ [sql] ∧
          (patience < r.delay → answer = .error .queryTimedOut ∧
            (r.after patience (before ++ [q])).queue = (r.after patience before).queue) ∧
          (¬ patience < r.delay →
            (r.after patience (before ++ [q])).queue = (r.after patience before).queue.tail ∧
            answer = match r.queue[(before.filterMap Query.sql?).length]? with
              | some (.rows raw) => Frame.ofRaw q.refId raw .standard
              | some (.failure reason) => .error (.queryFailed reason)
              | none => Frame.ofRaw q.refId r.fallback .standard) := by
  refine ⟨by rw [after_eq], by rw [after_eq], by rw [after_eq], length_answers queries, ?_⟩
  intro before q later hqueries
  subst hqueries
  have hdelay : (r.after patience before).delay = r.delay := by rw [after_eq]
  refine ⟨_, getElem?_answers before q later, ?_, ?_⟩
  · intro e hsql
    rw [after_concat, query_of_error patience _ hsql]
    exact ⟨rfl, rfl⟩
  · intro sql hsql
    rw [after_concat]
    by_cases late : patience < r.delay
    · rw [query_of_timeout patience _ hsql (by rw [hdelay]; exact late)]
      exact ⟨rfl, fun _ => ⟨rfl, rfl⟩, fun inTime => absurd late inTime⟩
    · rw [query_of_response patience _ hsql (by rw [hdelay]; exact late),
        responseAt_after before late, responseAt]
      refine ⟨rfl, fun h => absurd h late, fun _ => ⟨rfl, ?_⟩⟩
      cases r.queue[(before.filterMap Query.sql?).length]? with
      | none => rfl
      | some response => cases response <;> rfl

end

end Responder

end QueryFrame
