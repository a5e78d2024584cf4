import QueryFrame.Proofs.Macro.Concatenation
import QueryFrame.Proofs.Macro.Expansion

/-!
# Expansion over any time range

Which macros raw SQL uses, what their arguments are and whether they can be expanded is the same
over every time range. So expanded SQL has one outline for all of them, and a range fills in its two
timestamps.
-/

namespace QueryFrame

/-- The errors that the macros of raw SQL can end in. -/
inductive QueryError.OfMacro : QueryError → Prop
  | arity (m : Macro) {received : Nat} (wrong : received ≠ m.arity) :
      OfMacro (.macroArity m.name m.arity received)
  | emptyFallback : OfMacro .emptyFallback
  | unterminated (m : Macro) : OfMacro (.unterminatedMacro m.name)

theorem QueryError.OfMacro.isBadRequest {e : QueryError} (h : e.OfMacro) :
    e.isBadRequest = true := by
  cases h <;> rfl

private theorem QueryError.OfMacro.ne_unknownMacro {e : QueryError} (h : e.OfMacro)
    (name : String) :
    e ≠ .unknownMacro name := by
  cases h <;> simp

private theorem Macro.Refuses.ofMacro {m : Macro} {arguments : List String} {e : QueryError}
    (h : m.Refuses arguments e) : e.OfMacro := by
  cases h with
  | arity wrong => exact .arity m wrong
  | empty => exact .emptyFallback

namespace Outline

inductive Part where
  | text (copied : List Char)
  /-- Where the timestamp of the range's start goes. -/
  | start
  /-- Where the timestamp of the range's end goes. -/
  | stop
  deriving DecidableEq

def Part.render (range : TimeRange) : Part → List Char
  | text copied => copied
  | start => (Macro.timestamp range.start).toList
  | stop => (Macro.timestamp range.stop).toList

def render (range : TimeRange) (parts : List Part) : List Char := parts.flatMap (Part.render range)

private theorem render_append (range : TimeRange) (front back : List Part) :
    render range (front ++ back) = render range front ++ render range back :=
  List.flatMap_append

private theorem render_congr {r s : TimeRange} (hstart : r.start.micros = s.start.micros)
    (hstop : r.stop.micros = s.stop.micros) (parts : List Part) :
    render r parts = render s parts := by
  have hpart : Part.render r = Part.render s := by
    funext part
    cases part with
    | text copied => rfl
    | start => simp only [Part.render, Macro.timestamp, hstart]
    | stop => simp only [Part.render, Macro.timestamp, hstop]
  rw [render, hpart, render]

/-- Over every range the text is the same parts, or the error is the same. -/
def Outlined (f : TimeRange → Except QueryError (List Char)) : Prop :=
  ∃ outline : Except QueryError (List Part), ∀ range, f range = outline.map (render range)

def Steady (f : TimeRange → Except QueryError (List Char)) : Prop := ∀ r s, f r = f s

private theorem outlined_const (result : Except QueryError (List Char)) :
    Outlined fun _ => result := by
  refine ⟨result.map fun copied => [.text copied], ?_⟩
  intro range
  cases result with
  | error e => rfl
  | ok copied => simp [Except.map, render, Part.render]

section

variable {f g : TimeRange → Except QueryError (List Char)}

private theorem Outlined.append (hf : Outlined f) (hg : Outlined g) :
    Outlined fun range => (f range).bind fun front => (g range).map (front ++ ·) := by
  obtain ⟨front, hfront⟩ := hf
  obtain ⟨back, hback⟩ := hg
  refine ⟨front.bind fun parts => back.map (parts ++ ·), ?_⟩
  intro range
  simp only [hfront, hback]
  cases front with
  | error e => rfl
  | ok parts =>
    cases back with
    | error e => rfl
    | ok more => simp [Except.bind, Except.map, render_append]

end

end Outline

open Outline

private theorem Macro.outlined_expansion (m : Macro) (arguments : List String) :
    Outlined fun range => (m.expansion range arguments).map String.toList := by
  by_cases htakes : m.Takes arguments
  · cases htakes with
    | fromTimestamp =>
      refine ⟨.ok [.start], ?_⟩
      intro range
      simp [expansion, Except.map, render, Part.render]
    | toTimestamp =>
      refine ⟨.ok [.stop], ?_⟩
      intro range
      simp [expansion, Except.map, render, Part.render]
    | timeFilter column =>
      refine ⟨.ok [.text (column ++ " >= ").toList, .start,
        .text (" AND " ++ column ++ " <= ").toList, .stop], ?_⟩
      intro range
      simp [expansion, Except.map, render, Part.render]
    | varFallback fallback value =>
      simp only [expansion_varFallback]
      exact outlined_const _
  · simp only [expansion_of_arity_ne (mt takes_iff.2 htakes)]
    exact outlined_const _

private theorem Macro.steady_varFallback (arguments : List String) :
    Steady fun range => (expansion .varFallback range arguments).map String.toList := by
  intro r s
  by_cases htakes : Takes .varFallback arguments
  · cases htakes with
    | varFallback fallback value => simp only [expansion_varFallback]
  · simp only [expansion_of_arity_ne (mt takes_iff.2 htakes)]

namespace Token

private theorem outlined_expand (t : Token) : Outlined fun range => t.expand range := by
  cases t with
  | char c => exact outlined_const (.ok [c])
  | word name => exact outlined_const (.ok (Macro.mark ++ name))
  | call m inside => exact m.outlined_expansion _
  | unclosed m rest => exact outlined_const (.error (.unterminatedMacro m.name))

private theorem outlined_mapM (tokens : List Token) :
    Outlined fun range => (tokens.mapM (expand range)).map List.flatten := by
  induction tokens with
  | nil => exact outlined_const (.ok [])
  | cons t tokens ih =>
    simp only [flatten_mapM_cons]
    exact t.outlined_expand.append ih

private theorem steady_expand {t : Token} (h : ∀ m inside, t = .call m inside → m = .varFallback) :
    Steady fun range => t.expand range := by
  intro r s
  cases t with
  | call m inside =>
    obtain rfl := h m inside rfl
    exact Macro.steady_varFallback _ r s
  | _ => rfl

private theorem ofMacro_of_expand {t : Token} {range : TimeRange} {e : QueryError}
    (h : t.expand range = .error e) : e.OfMacro := by
  cases t with
  | char c => simp [expand] at h
  | word name => simp [expand] at h
  | call m inside =>
    exact (Macro.expansion_eq_error_iff.1 (map_eq_error_iff.1 h)).ofMacro
  | unclosed m rest =>
    obtain rfl := Except.error.inj h
    exact .unterminated m

end Token

theorem interpolate_eq_flatten (sql : String) (range : TimeRange) :
    interpolate sql range =
      (((Token.scan sql.toList).mapM (Token.expand range)).map List.flatten).map .ofList := by
  rw [interpolate_eq_map]
  cases (Token.scan sql.toList).mapM (Token.expand range) <;> rfl

private theorem exists_outline (sql : String) :
    ∃ outline : Except QueryError (List Part), ∀ range,
      interpolate sql range = outline.map fun parts => .ofList (render range parts) := by
  obtain ⟨outline, h⟩ := Token.outlined_mapM (Token.scan sql.toList)
  refine ⟨outline, ?_⟩
  intro range
  simp only [interpolate_eq_flatten, h]
  cases outline <;> rfl

theorem ofMacro_of_interpolate {sql : String} {range : TimeRange} {e : QueryError}
    (h : interpolate sql range = .error e) : e.OfMacro := by
  rw [interpolate_eq_map, map_eq_error_iff] at h
  obtain ⟨t, -, ht⟩ := exists_mem_of_mapM_eq_error h
  exact Token.ofMacro_of_expand ht

private theorem interpolate_steady {sql : String}
    (h : ∀ m inside, Token.call m inside ∈ Token.scan sql.toList → m = .varFallback)
    (r s : TimeRange) : interpolate sql r = interpolate sql s := by
  have htokens : ∀ t ∈ Token.scan sql.toList, Token.expand r t = Token.expand s t := by
    intro t ht
    apply Token.steady_expand
    intro m inside hcall
    subst hcall
    exact h m inside ht
  rw [interpolate_eq_map, interpolate_eq_map, mapM_congr htokens]

/-- A time range says what the timestamps in expanded SQL are and nothing else. -/
theorem interpolate_over_ranges (sql : String) :
    (∃ outline : Except QueryError (List Part), ∀ range,
      interpolate sql range = outline.map fun parts => .ofList (render range parts)) ∧
    (∀ r s e, interpolate sql r = .error e ↔ interpolate sql s = .error e) ∧
    (∀ range e, interpolate sql range = .error e →
      e.OfMacro ∧ (∀ name, e ≠ .unknownMacro name) ∧ e.isBadRequest = true) ∧
    (∀ r s : TimeRange, r.start.micros = s.start.micros → r.stop.micros = s.stop.micros →
      interpolate sql r = interpolate sql s) ∧
    ((∀ m inside, .call m inside ∈ Token.scan sql.toList → m = .varFallback) →
      ∀ r s, interpolate sql r = interpolate sql s) := by
  obtain ⟨outline, houtline⟩ := exists_outline sql
  refine ⟨⟨outline, houtline⟩, ?_, ?_, ?_, interpolate_steady⟩
  · intro r s e
    rw [houtline, houtline, map_eq_error_iff, map_eq_error_iff]
  · intro range e he
    have hkind := ofMacro_of_interpolate he
    exact ⟨hkind, hkind.ne_unknownMacro, hkind.isBadRequest⟩
  · intro r s hstart hstop
    have hrender : render r = render s := funext (render_congr hstart hstop)
    rw [houtline, houtline, hrender]

theorem interpolate_over_ranges_outcomes :
    let range : TimeRange := ⟨.midnight 0, .midnight 1⟩
    let later : TimeRange := ⟨{ seconds := 0, nanos := 999 }, { seconds := 86400, nanos := 1 }⟩
    let other : TimeRange := ⟨.midnight 3, .midnight 2⟩
    let fallback := "SELECT $__varFallback(ts, )$__x"
    interpolate "$__timeFilter(ts)" range = interpolate "$__timeFilter(ts)" later ∧
      interpolate "$__timeFilter(ts)" range ≠ interpolate "$__timeFilter(ts)" other ∧
      interpolate "$__toTimestamp $__varFallback(,)" other = .error .emptyFallback ∧
      QueryError.emptyFallback.OfMacro ∧
      interpolate fallback range = interpolate fallback other := by
  intro range later other fallback
  obtain ⟨-, -, -, hsame, -⟩ := interpolate_over_ranges "$__timeFilter(ts)"
  obtain ⟨-, herrors, hkind, -⟩ := interpolate_over_ranges "$__toTimestamp $__varFallback(,)"
  obtain ⟨-, -, -, -, hsteady⟩ := interpolate_over_ranges fallback
  have hempty : interpolate "$__toTimestamp $__varFallback(,)" range = .error .emptyFallback := by
    decide +kernel
  have hscan : Token.scan fallback.toList = "SELECT ".toList.map .char ++
      [.call .varFallback (some "ts, ".toList), .word ['x']] := by decide +kernel
  have hcalls : ∀ m inside, .call m inside ∈ Token.scan fallback.toList → m = .varFallback := by
    intro m inside hmem
    rw [hscan] at hmem
    have hcall : m = .varFallback ∧ inside = some "ts, ".toList := by simpa using hmem
    exact hcall.1
  exact ⟨hsame _ _ (by decide) (by decide), by decide +kernel, (herrors _ _ _).1 hempty,
    (hkind _ _ hempty).1, hsteady hcalls _ _⟩

end QueryFrame
