import QueryFrame.Proofs.Macro.Scan
import QueryFrame.Proofs.Traversal

/-!
# Expansions of single macros

A macro takes the number of arguments that it declares, whatever they are, and refuses every other
number. Only a fallback that is empty itself is refused with the right number of arguments. The
time range has no say in this.
-/

namespace QueryFrame.Macro

inductive Takes : Macro → List String → Prop
  | fromTimestamp : Takes .fromTimestamp []
  | toTimestamp : Takes .toTimestamp []
  | timeFilter (column : String) : Takes .timeFilter [column]
  | varFallback (fallback value : String) : Takes .varFallback [fallback, value]

/-- The error with which a macro refuses arguments. -/
inductive Refuses : Macro → List String → QueryError → Prop
  | arity {m : Macro} {arguments : List String} (wrong : arguments.length ≠ m.arity) :
      Refuses m arguments (.macroArity m.name m.arity arguments.length)
  | empty : Refuses .varFallback ["", ""] .emptyFallback

section

variable {m : Macro} {range : TimeRange} {arguments : List String}

theorem takes_iff : m.Takes arguments ↔ arguments.length = m.arity := by
  constructor
  · intro h
    cases h <;> rfl
  · intro h
    cases m with
    | fromTimestamp =>
      obtain rfl := List.length_eq_zero_iff.1 h
      exact .fromTimestamp
    | toTimestamp =>
      obtain rfl := List.length_eq_zero_iff.1 h
      exact .toTimestamp
    | timeFilter =>
      obtain ⟨column, rfl⟩ := List.length_eq_one_iff.1 h
      exact .timeFilter column
    | varFallback =>
      obtain ⟨fallback, value, rfl⟩ := List.length_eq_two.1 h
      exact .varFallback fallback value

theorem expansion_of_arity_ne (h : arguments.length ≠ m.arity) :
    m.expansion range arguments = .error (.macroArity m.name m.arity arguments.length) := by
  fun_cases expansion m range arguments with
  | case1 | case2 | case3 | case4 | case5 | case6 => simp [arity] at h
  | case7 => rfl

theorem expansion_varFallback (fallback value : String) :
    expansion .varFallback range [fallback, value] =
      if fallback = "" ∧ value = "" then .error .emptyFallback
      else .ok (if value = "" then fallback else value) := by
  by_cases hvalue : value = ""
  · by_cases hfallback : fallback = ""
    · simp [expansion, hvalue, hfallback]
    · simp [expansion, hvalue, hfallback]
  · simp [expansion, hvalue]

private theorem exists_expansion (h : m.Takes arguments)
    (hempty : ¬ (m = .varFallback ∧ arguments = ["", ""])) :
    ∃ sql, m.expansion range arguments = .ok sql := by
  cases h with
  | fromTimestamp => exact ⟨_, rfl⟩
  | toTimestamp => exact ⟨_, rfl⟩
  | timeFilter column => exact ⟨_, rfl⟩
  | varFallback fallback value =>
    have hsome : ¬ (fallback = "" ∧ value = "") := by simpa using hempty
    rw [expansion_varFallback, if_neg hsome]
    exact ⟨_, rfl⟩

theorem expansion_eq_error_iff {e : QueryError} :
    m.expansion range arguments = .error e ↔ m.Refuses arguments e := by
  constructor
  · intro h
    by_cases harity : arguments.length = m.arity
    · by_cases hempty : m = .varFallback ∧ arguments = ["", ""]
      · obtain ⟨rfl, rfl⟩ := hempty
        obtain rfl := Except.error.inj h
        exact .empty
      · have hok : ∃ sql, m.expansion range arguments = .ok sql :=
          exists_expansion (takes_iff.2 harity) hempty
        simp [h] at hok
    · rw [expansion_of_arity_ne harity] at h
      obtain rfl := Except.error.inj h
      exact .arity harity
  · intro h
    cases h with
    | arity wrong => exact expansion_of_arity_ne wrong
    | empty => rfl

private theorem takes_of_expansion {sql : String} (h : m.expansion range arguments = .ok sql) :
    m.Takes arguments := by
  rw [takes_iff]
  by_contra hne
  rw [expansion_of_arity_ne hne] at h
  simp at h

theorem expansion_varFallback_eq_ok {sql : String}
    (h : expansion .varFallback range arguments = .ok sql) :
    ∃ fallback value, arguments = [fallback, value] ∧
      sql = (if value = "" then fallback else value) ∧ sql ≠ "" := by
  cases takes_of_expansion h with
  | varFallback fallback value =>
    rw [expansion_varFallback] at h
    split at h
    · simp at h
    · next hsome =>
      obtain rfl := Except.ok.inj h
      refine ⟨fallback, value, rfl, rfl, ?_⟩
      split
      · next hvalue =>
        intro hfallback
        exact hsome ⟨hfallback, hvalue⟩
      · next hvalue => exact hvalue

theorem expansion_timeFilter_eq_ok {sql : String}
    (h : expansion .timeFilter range arguments = .ok sql) :
    ∃ column start stop, arguments = [column] ∧
      expansion .fromTimestamp range [] = .ok start ∧
      expansion .toTimestamp range [] = .ok stop ∧
      sql = column ++ " >= " ++ start ++ " AND " ++ column ++ " <= " ++ stop := by
  cases takes_of_expansion h with
  | timeFilter column =>
    obtain rfl := Except.ok.inj h
    exact ⟨column, _, _, rfl, rfl, rfl, rfl⟩

end

private theorem expandNamed_of_unknown {name : String} (h : name ∉ names) (range : TimeRange)
    (arguments : List String) : expandNamed name range arguments = .error (.unknownMacro name) := by
  rw [expandNamed, ofName?_eq_none_iff.2 h]

theorem name_injective : Function.Injective name := by
  intro m n h
  have hn := ofName?_name n
  rw [← h, ofName?_name] at hn
  exact Option.some.inj hn

theorem expandNamed_eq_error_iff {name : String} {range : TimeRange} {arguments : List String}
    {e : QueryError} :
    expandNamed name range arguments = .error e ↔
      (name ∉ names ∧ e = .unknownMacro name) ∨
        ∃ m : Macro, m.name = name ∧ m.Refuses arguments e := by
  by_cases known : name ∈ names
  · obtain ⟨m, rfl⟩ := mem_names_iff.1 known
    have hsame : (∃ n : Macro, n.name = m.name ∧ n.Refuses arguments e) ↔
        m.Refuses arguments e := by simp [name_injective.eq_iff]
    rw [expandNamed_name, expansion_eq_error_iff, hsame]
    simp [known]
  · have hnone : ¬ ∃ m : Macro, m.name = name ∧ m.Refuses arguments e := by
      intro h
      obtain ⟨m, hm, -⟩ := h
      exact known (mem_names_iff.2 ⟨m, hm⟩)
    rw [expandNamed_of_unknown known, Except.error.injEq, or_iff_left hnone]
    simp [known, eq_comm]

/-- A name is expanded unless it is no macro's or its macro refuses the arguments, and it never
matters over which time range. -/
theorem expandNamed_outcome (name : String) (range : TimeRange) (arguments : List String) :
    (∀ e, expandNamed name range arguments = .error e ↔
      (name ∉ names ∧ e = .unknownMacro name) ∨
        ∃ m : Macro, m.name = name ∧ m.Refuses arguments e) ∧
    (∀ m : Macro, m.name = name → arguments.length = m.arity →
      ¬ (name = "varFallback" ∧ arguments = ["", ""]) →
      ∃ sql, expandNamed name range arguments = .ok sql) ∧
    ∀ sql, expandNamed name range arguments = .ok sql →
      (name = "varFallback" → ∃ fallback value, arguments = [fallback, value] ∧
        sql = (if value = "" then fallback else value) ∧ sql ≠ "") ∧
      (name = "timeFilter" → ∃ column start stop, arguments = [column] ∧
        expandNamed "fromTimestamp" range [] = .ok start ∧
        expandNamed "toTimestamp" range [] = .ok stop ∧
        sql = column ++ " >= " ++ start ++ " AND " ++ column ++ " <= " ++ stop) := by
  refine ⟨fun e => expandNamed_eq_error_iff, ?_, ?_⟩
  · intro m hm harity hempty
    subst hm
    rw [expandNamed_name]
    apply exists_expansion (takes_iff.2 harity)
    intro h
    apply hempty
    rw [h.1]
    exact ⟨rfl, h.2⟩
  · intro sql hsql
    constructor
    · intro hname
      subst hname
      exact expansion_varFallback_eq_ok hsql
    · intro hname
      subst hname
      exact expansion_timeFilter_eq_ok hsql

theorem expandNamed_outcome_refusals :
    let range : TimeRange := ⟨.midnight 0, .midnight 1⟩
    expandNamed "custom" range ["day"] = .error (.unknownMacro "custom") ∧
      expandNamed "timeFilter" range ["day", "hour"] = .error (.macroArity "timeFilter" 1 2) ∧
      expandNamed "varFallback" range ["", ""] = .error .emptyFallback ∧
      (∃ sql, expandNamed "varFallback" range ["", " "] = .ok sql ∧ sql = " " ∧ sql ≠ "") ∧
      ∃ start stop, expandNamed "fromTimestamp" range [] = .ok start ∧
        expandNamed "toTimestamp" range [] = .ok stop ∧
        expandNamed "timeFilter" range ["day"] =
          .ok ("day" ++ " >= " ++ start ++ " AND " ++ "day" ++ " <= " ++ stop) := by
  intro range
  have hunknown := ((expandNamed_outcome "custom" range ["day"]).1 _).2
    (.inl ⟨by decide +kernel, rfl⟩)
  have harity := ((expandNamed_outcome "timeFilter" range ["day", "hour"]).1 _).2
    (.inr ⟨.timeFilter, rfl, .arity (by decide)⟩)
  have hempty := ((expandNamed_outcome "varFallback" range ["", ""]).1 _).2
    (.inr ⟨.varFallback, rfl, .empty⟩)
  refine ⟨hunknown, harity, hempty, ?_, ?_⟩
  · obtain ⟨-, hok, hresult⟩ := expandNamed_outcome "varFallback" range ["", " "]
    obtain ⟨sql, hsql⟩ := hok .varFallback rfl rfl (by simp)
    obtain ⟨fallback, value, harguments, hvalue, hne⟩ := (hresult sql hsql).1 rfl
    obtain ⟨rfl, rfl⟩ : "" = fallback ∧ " " = value := by simpa using harguments
    exact ⟨sql, hsql, hvalue, hne⟩
  · obtain ⟨-, hok, hresult⟩ := expandNamed_outcome "timeFilter" range ["day"]
    obtain ⟨sql, hsql⟩ := hok .timeFilter rfl rfl (by simp)
    obtain ⟨column, start, stop, hcolumn, hstart, hstop, heq⟩ := (hresult sql hsql).2 rfl
    obtain rfl : "day" = column := by simpa using hcolumn
    exact ⟨start, stop, hstart, hstop, by rw [hsql, heq]⟩

end QueryFrame.Macro
