import Mathlib.Data.List.Nodup
import Mathlib.Logic.Function.Basic
import Mathlib.Logic.Relation
import QueryFrame.Proofs.Responder.Run

/-!
# Queries that share a responder

Queries that run at the same time take turns at one responder. Each of them is recorded in one move
and takes a response in another, unless it is cancelled before; between the two moves all others may
move. The responses still go out in the order of the queue, each of them once.
-/

namespace QueryFrame

/-- How far a query has come. -/
inductive Phase where
  | waiting
  | recorded
  | cancelled
  | answered (outcome : Except QueryError RawResult)

/-- A response that was taken from the queue, or none if the queue was empty then. -/
structure Handout (ι : Type) where
  receiver : ι
  response : Option Response

def Handout.outcome {ι : Type} (handout : Handout ι) (fallback : RawResult) :
    Except QueryError RawResult :=
  (handout.response.getD (.rows fallback)).outcome

/-- A responder, the phases of the queries that share it, and what it has handed out so far. -/
structure Sharing (ι : Type) where
  responder : Responder
  phase : ι → Phase := fun _ => .waiting
  handed : List (Handout ι) := []

namespace Sharing

section

variable {ι : Type} [DecidableEq ι]

def record (i : ι) (sql : String) (s : Sharing ι) : Sharing ι :=
  { s with responder := s.responder.record sql, phase := Function.update s.phase i .recorded }

def cancel (i : ι) (s : Sharing ι) : Sharing ι :=
  { s with phase := Function.update s.phase i .cancelled }

def take (i : ι) (s : Sharing ι) : Sharing ι where
  responder := s.responder.take.2
  phase := Function.update s.phase i (.answered s.responder.take.1)
  handed := s.handed ++ [⟨i, s.responder.queue.head?⟩]

/-- One of the queries moves. A query whose macros do not expand never does. -/
inductive Moves (queries : ι → Query) : Sharing ι → Sharing ι → Prop
  | record {s : Sharing ι} {i : ι} {sql : String} (hphase : s.phase i = .waiting)
      (hsql : (queries i).sql = .ok sql) : Moves queries s (s.record i sql)
  | cancel {s : Sharing ι} {i : ι} (hphase : s.phase i = .recorded) : Moves queries s (s.cancel i)
  | take {s : Sharing ι} {i : ι} (hphase : s.phase i = .recorded) : Moves queries s (s.take i)

/-- The queries move any number of times, in any order. -/
abbrev Reaches (queries : ι → Query) : Sharing ι → Sharing ι → Prop :=
  Relation.ReflTransGen (Moves queries)

end

section

variable {ι : Type}

/-- The record has grown by the texts of the queries that are no longer waiting. -/
def IsRecorded (queries : ι → Query) (r : Responder) (s : Sharing ι) : Prop :=
  ∃ started texts, started.Nodup ∧ (∀ i, i ∈ started ↔ s.phase i ≠ .waiting) ∧
    List.Forall₂ (fun i text => (queries i).sql = .ok text) started texts ∧
    s.responder.recorded = r.recorded ++ texts

/-- The responses were handed out in the order of the queue, one to each query with an answer. -/
structure IsHandedOut (r : Responder) (s : Sharing ι) : Prop where
  fallback : s.responder.fallback = r.fallback
  queue : s.responder.queue = r.queue.drop s.handed.length
  responses : ∀ (place : Nat) (handout : Handout ι), s.handed[place]? = some handout →
    handout.response = r.queue[place]?
  nodup : (s.handed.map Handout.receiver).Nodup
  answered : ∀ i outcome, s.phase i = .answered outcome ↔
    ∃ handout ∈ s.handed, handout.receiver = i ∧ handout.outcome r.fallback = outcome

private theorem filterMap_eq_take {α β : Type} {f : α → Option β} {l : List α} {whole : List β}
    (h : ∀ (place : Nat) (a : α), l[place]? = some a → f a = whole[place]?) :
    l.filterMap f = whole.take l.length := by
  induction l generalizing whole with
  | nil => simp
  | cons a l ih =>
    have ha : f a = whole[0]? := h 0 a rfl
    have hl : l.filterMap f = whole.tail.take l.length := by
      apply ih
      intro place b hb
      rw [List.getElem?_tail]
      exact h (place + 1) b hb
    cases whole with
    | nil => simpa [List.filterMap_cons, ha] using hl
    | cons b whole => simpa [List.filterMap_cons, ha] using hl

namespace IsHandedOut

variable {r : Responder} {s : Sharing ι}

private theorem handed_append_queue (h : IsHandedOut r s) :
    s.handed.filterMap Handout.response ++ s.responder.queue = r.queue := by
  rw [filterMap_eq_take h.responses, h.queue, List.take_append_drop]

private theorem not_mem_of_cancelled (h : IsHandedOut r s) {i : ι}
    (hphase : s.phase i = .cancelled) :
    i ∉ s.handed.map Handout.receiver := by
  intro hmem
  obtain ⟨handout, hhandout, hreceiver⟩ := List.mem_map.1 hmem
  have := (h.answered i _).2 ⟨handout, hhandout, hreceiver, rfl⟩
  simp [hphase] at this

/-- Before a handout that does not come from the queue the whole queue was handed out. -/
private theorem filterMap_of_response_eq_none (h : IsHandedOut r s)
    {before after : List (Handout ι)}
    {handout : Handout ι} (hhanded : s.handed = before ++ handout :: after)
    (hnone : handout.response = none) : before.filterMap Handout.response = r.queue := by
  have hbefore : before.filterMap Handout.response = r.queue.take before.length := by
    apply filterMap_eq_take
    intro place other hother
    apply h.responses
    rw [hhanded, List.getElem?_append_left (List.getElem?_eq_some_iff.1 hother).1, hother]
  have hend : r.queue[before.length]? = none := by
    rw [← h.responses before.length handout (by simp [hhanded]), hnone]
  rw [hbefore, List.take_of_length_le (List.getElem?_eq_none_iff.1 hend)]

end IsHandedOut

end

section

variable {ι : Type} [DecidableEq ι] {queries : ι → Query} {r : Responder} {s t : Sharing ι}
  {i j : ι} {q : Phase}

private theorem update_eq_iff {phase : ι → Phase} (p : Phase) (hold : phase i ≠ q) (hnew : p ≠ q) :
    Function.update phase i p j = q ↔ phase j = q := by
  by_cases hj : j = i
  · subst hj
    simp [hold, hnew]
  · simp [hj]

private theorem update_answered_iff {phase : ι → Phase} {x y : Except QueryError RawResult}
    (hold : phase i = .recorded) : Function.update phase i (.answered x) j = .answered y ↔
      phase j = .answered y ∨ i = j ∧ x = y := by
  by_cases hj : i = j
  · subst hj
    simp [hold]
  · simp [hj, Function.update_of_ne (Ne.symm hj)]

@[simp] theorem phase_record {sql : String} :
    (s.record i sql).phase = Function.update s.phase i .recorded := rfl

@[simp] theorem phase_cancel : (s.cancel i).phase = Function.update s.phase i .cancelled := rfl

@[simp] theorem phase_take :
    (s.take i).phase = Function.update s.phase i (.answered s.responder.take.1) := rfl

@[simp] theorem responder_take :
    (s.take i).responder = { s.responder with queue := s.responder.queue.tail } := by
  rw [take, Responder.take_eq]

@[simp] theorem handed_take :
    (s.take i).handed = s.handed ++ [⟨i, s.responder.queue.head?⟩] := rfl

theorem IsRecorded.moves (h : IsRecorded queries r s) (hmove : Moves queries s t) :
    IsRecorded queries r t := by
  obtain ⟨started, texts, hnodup, hstarted, htexts, hrecorded⟩ := h
  cases hmove with
  | @record i sql hphase hsql =>
    have hnew : i ∉ started := by simp [hstarted, hphase]
    refine ⟨started ++ [i], texts ++ [sql], ?_, fun j => ?_,
      List.rel_append htexts (.cons hsql .nil), by simp [record, Responder.record, hrecorded]⟩
    · simpa using hnodup.concat hnew
    · by_cases hj : j = i <;> simp [hj, hstarted]
  | @cancel i hphase =>
    have hwaiting : s.phase i ≠ .waiting := by simp [hphase]
    exact ⟨started, texts, hnodup,
      fun j => (hstarted j).trans (update_eq_iff .cancelled hwaiting (by simp)).not.symm, htexts,
      hrecorded⟩
  | @take i hphase =>
    have hwaiting : s.phase i ≠ .waiting := by simp [hphase]
    exact ⟨started, texts, hnodup,
      fun j => (hstarted j).trans (update_eq_iff (.answered _) hwaiting (by simp)).not.symm, htexts,
      by simpa using hrecorded⟩

theorem IsHandedOut.take (h : IsHandedOut r s) (hphase : s.phase i = .recorded) :
    IsHandedOut r (s.take i) := by
  have hhead : s.responder.queue.head? = r.queue[s.handed.length]? := by
    rw [h.queue, List.head?_drop]
  have hnew : ∀ handout ∈ s.handed, handout.receiver ≠ i := by
    intro handout hhandout hreceiver
    have := (h.answered i _).2 ⟨handout, hhandout, hreceiver, rfl⟩
    simp [hphase] at this
  have houtcome : s.responder.take.1 =
      (⟨i, s.responder.queue.head?⟩ : Handout ι).outcome r.fallback := by
    rw [Responder.take_eq, Responder.responseAt, Handout.outcome, h.fallback,
      List.head?_eq_getElem?]
  refine ⟨by simpa using h.fallback, by simp [h.queue], ?_, ?_, ?_⟩
  · intro place handout hplace
    rw [handed_take, List.getElem?_append] at hplace
    split at hplace
    · exact h.responses place handout hplace
    · next hlength =>
      obtain ⟨hzero, rfl⟩ : place - s.handed.length = 0 ∧
          (⟨i, s.responder.queue.head?⟩ : Handout ι) = handout := by
        simpa [List.getElem?_singleton] using hplace
      obtain rfl : place = s.handed.length := by omega
      exact hhead
  · simpa using h.nodup.concat (a := i) (by simpa using hnew)
  · intro j outcome
    rw [phase_take, handed_take, update_answered_iff hphase, h.answered, houtcome]
    simp [or_and_right, exists_or]

private theorem IsHandedOut.moves (h : IsHandedOut r s) (hmove : Moves queries s t) :
    IsHandedOut r t := by
  cases hmove with
  | @record i sql hphase hsql =>
    refine ⟨h.fallback, h.queue, h.responses, h.nodup, fun j outcome => ?_⟩
    have hold : s.phase i ≠ .answered outcome := by simp [hphase]
    exact (update_eq_iff .recorded hold (by simp)).trans (h.answered j outcome)
  | @cancel i hphase =>
    refine ⟨h.fallback, h.queue, h.responses, h.nodup, fun j outcome => ?_⟩
    have hold : s.phase i ≠ .answered outcome := by simp [hphase]
    exact (update_eq_iff .cancelled hold (by simp)).trans (h.answered j outcome)
  | take hphase => exact h.take hphase

theorem Reaches.isRecorded (h : Reaches queries { responder := r } s) :
    IsRecorded queries r s := by
  induction h with
  | refl => exact ⟨[], [], by simp, by simp, .nil, by simp⟩
  | tail _ hmove ih => exact ih.moves hmove

theorem Reaches.isHandedOut (h : Reaches queries { responder := r } s) :
    IsHandedOut r s := by
  induction h with
  | refl => exact ⟨rfl, rfl, by simp, List.nodup_nil, by simp⟩
  | tail _ hmove ih => exact ih.moves hmove

/-- A query that makes its moves one right after the other does what it does when it runs alone. -/
theorem reaches_run (patience : Nat) {sql : String} (hphase : s.phase i = .waiting)
    (hsql : (queries i).sql = .ok sql) :
    ∃ t, Reaches queries s t ∧ t.responder = ((Responder.run patience sql).run s.responder).2 ∧
      t.phase = Function.update s.phase i (if patience < s.responder.delay then .cancelled
        else .answered ((Responder.run patience sql).run s.responder).1) := by
  have hrecord : Moves queries s (s.record i sql) := .record hphase hsql
  have hrecorded : (s.record i sql).phase i = .recorded := by simp
  rw [Responder.run_eq]
  by_cases late : patience < s.responder.delay
  · refine ⟨(s.record i sql).cancel i, .head hrecord (.single (.cancel hrecorded)), ?_, ?_⟩
    · simp [late, cancel, record]
    · simp [late]
  · refine ⟨(s.record i sql).take i, .head hrecord (.single (.take hrecorded)), ?_, ?_⟩
    · simp [late, take, record]
    · simp [late, record]

/-- What queries that share a responder have put on record and been handed, in every state that they
can come to. -/
theorem reaches_shared (queries : ι → Query) (r : Responder) (s : Sharing ι)
    (h : Reaches queries { responder := r } s) :
    IsRecorded queries r s ∧
    s.handed.filterMap Handout.response ++ s.responder.queue = r.queue ∧
    (s.handed.map Handout.receiver).Nodup ∧
    (∀ (place : Nat) (handout : Handout ι), s.handed[place]? = some handout →
      handout.response = r.queue[place]?) ∧
    (∀ i outcome, s.phase i = .answered outcome ↔
      ∃ handout ∈ s.handed, handout.receiver = i ∧ handout.outcome r.fallback = outcome) ∧
    (∀ i, s.phase i = .cancelled → i ∉ s.handed.map Handout.receiver) ∧
    ∀ before handout after, s.handed = before ++ handout :: after → handout.response = none →
      before.filterMap Handout.response = r.queue := by
  have hhanded : IsHandedOut r s := h.isHandedOut
  exact ⟨h.isRecorded, hhanded.handed_append_queue, hhanded.nodup, hhanded.responses,
    hhanded.answered, fun _ => hhanded.not_mem_of_cancelled,
    fun _ _ _ => hhanded.filterMap_of_response_eq_none⟩

end

def flaky : Responder where
  queue := [.failure "down"]

def crowd (i : Fin 3) : Query := ⟨"A", "SELECT " ++ toString i.val, .midnight 0, .midnight 1⟩

/-- All three are recorded before one of them is cancelled and the other two are answered. -/
def crowded : Sharing (Fin 3) :=
  let start : Sharing (Fin 3) := { responder := flaky }
  let recorded := ((start.record 2 "SELECT 2").record 0 "SELECT 0").record 1 "SELECT 1"
  ((recorded.cancel 0).take 1).take 2

theorem reaches_shared_crowded :
    Reaches crowd { responder := flaky } crowded ∧
    crowded.responder.recorded = ["SELECT 2", "SELECT 0", "SELECT 1"] ∧
    crowded.handed.filterMap Handout.response ++ crowded.responder.queue = [.failure "down"] ∧
    0 ∉ crowded.handed.map Handout.receiver ∧
    (∃ handout ∈ crowded.handed, handout.receiver = 1 ∧
      handout.outcome .empty = .error (.queryFailed "down")) ∧
    ∃ handout ∈ crowded.handed, handout.receiver = 2 ∧ handout.outcome .empty = .ok .empty := by
  have hsql : ∀ i, (crowd i).sql = .ok ("SELECT " ++ toString i.val) := by decide +kernel
  have hreaches : Reaches crowd { responder := flaky } crowded := by
    refine .head (.record (i := 2) rfl (hsql 2)) (.head (.record (i := 0) rfl (hsql 0))
      (.head (.record (i := 1) rfl (hsql 1)) ?_))
    exact .head (.cancel (i := 0) rfl) (.head (.take (i := 1) rfl) (.single (.take (i := 2) rfl)))
  obtain ⟨-, hqueue, -, -, hanswered, hcancelled, -⟩ := reaches_shared crowd flaky crowded hreaches
  exact ⟨hreaches, rfl, hqueue, hcancelled 0 rfl, (hanswered 1 _).1 rfl, (hanswered 2 _).1 rfl⟩

end Sharing

end QueryFrame
