import QueryFrame.Proofs.Macro.Scan
import QueryFrame.Proofs.Traversal

/-!
# Raw SQL put together

Raw SQL may be cut behind a character that belongs to no mark and to no name: the tokens of the
front part stay what they are whatever follows, as long as no parenthesis of a macro is left open in
it. So its expansion stands in front of that of the other part, and its error comes first.
-/

namespace QueryFrame

open Macro

private theorem Macro.IsRun.append {name after : List Char} (h : IsRun name after)
    (hne : after ≠ []) (more : List Char) : IsRun name (after ++ more) := by
  refine ⟨h.chars, ?_⟩
  rw [List.head?_append_of_ne_nil _ hne]
  exact h.longest

namespace Token

/-- The last character of the text, if there is one, is part of no mark and of no name. -/
def EndsOutside (cs : List Char) : Prop := ∀ c ∈ cs.getLast?, c ≠ '$' ∧ ¬ isNameChar c

instance : DecidablePred EndsOutside := fun cs =>
  match h : cs.getLast? with
  | none => isTrue (by simp [EndsOutside, h])
  | some c => decidable_of_iff (c ≠ '$' ∧ ¬ isNameChar c) (by simp [EndsOutside, h])

def IsClosed : Token → Prop
  | unclosed _ _ => False
  | _ => True

section

variable {cs rest : List Char} {t : Token}

private theorem EndsOutside.of_append {front : List Char} (h : EndsOutside (front ++ cs)) :
    EndsOutside cs := by
  intro c hc
  apply h
  simp [List.getLast?_append, Option.mem_def.1 hc]

private theorem not_endsOutside_of_forall (hne : cs ≠ []) (h : ∀ c ∈ cs, c = '$' ∨ isNameChar c) :
    ¬ EndsOutside cs := by
  intro hends
  have hlast := hends (cs.getLast hne) (List.getLast?_eq_some_getLast hne)
  rcases h _ (List.getLast_mem hne) with hdollar | hname
  · exact hlast.1 hdollar
  · exact hlast.2 hname

private theorem EndsOutside.ne_nil {name after : List Char}
    (h : EndsOutside (mark ++ (name ++ after)))
    (hname : ∀ c ∈ name, isNameChar c) : after ≠ [] := by
  intro hnil
  rw [hnil, List.append_nil] at h
  apply not_endsOutside_of_forall _ _ h
  · simp [mark]
  · intro c hc
    rcases List.mem_append.1 hc with hmark | hc
    · simp only [mark, List.mem_cons, List.not_mem_nil, or_false] at hmark
      rcases hmark with rfl | rfl | rfl <;> decide
    · exact .inr (hname c hc)

private theorem EndsOutside.not_mark_prefix {c : Char} (h : EndsOutside (c :: cs))
    (hc : ¬ mark <+: c :: cs) (more : List Char) : ¬ mark <+: c :: (cs ++ more) := by
  intro hpre
  obtain ⟨tail, htail⟩ := mark_prefix_iff.1 hpre
  obtain ⟨rfl, hcs⟩ := List.cons.inj htail
  -- a mark that the text holds only a part of would be cut inside of it
  rcases cs with _ | ⟨d, _ | ⟨e, cs⟩⟩
  · exact not_endsOutside_of_forall (by simp) (by simp) h
  · obtain ⟨rfl, -⟩ := List.cons.inj hcs
    exact not_endsOutside_of_forall (by simp) (by simp; decide) h
  · simp only [List.cons_append, List.cons.injEq] at hcs
    obtain ⟨rfl, rfl, -⟩ := hcs
    exact hc (mark_prefix_iff.2 ⟨cs, rfl⟩)

private theorem MarkedAs.append (h : MarkedAs cs t rest) (hends : EndsOutside (mark ++ cs))
    (hclosed : t.IsClosed) (more : List Char) : MarkedAs (cs ++ more) t (rest ++ more) := by
  cases h with
  | word run unknown =>
    have hne := hends.ne_nil run.chars
    rw [List.append_assoc]
    exact .word (run.append hne more) unknown
  | bare run noParenthesis =>
    have hne := hends.ne_nil run.chars
    rw [List.append_assoc]
    apply MarkedAs.bare (run.append hne more)
    rw [List.head?_append_of_ne_nil _ hne]
    exact noParenthesis
  | call m balanced _ =>
    have hcall := MarkedAs.call m balanced (rest ++ more)
    simpa using hcall
  | unclosed m unmatched => exact absurd hclosed id

private theorem first?_append (h : first? cs = some (t, rest)) (hends : EndsOutside cs)
    (hclosed : t.IsClosed) (more : List Char) : first? (cs ++ more) = some (t, rest ++ more) := by
  rcases marked_or_char_of_first? h with hmark | hchar
  · obtain ⟨tail, rfl, hmarked⟩ := hmark
    rw [List.append_assoc, first?_mark, (hmarked.append hends hclosed more).marked_eq]
  · obtain ⟨c, rfl, rfl, hc⟩ := hchar
    exact first?_char (hends.not_mark_prefix hc more)

end

/-- The closed tokens at the front of a text stay when more text is put behind it. -/
theorem scan_append {cs : List Char} {front back : List Token} (h : scan cs = front ++ back)
    (hends : EndsOutside cs) (hclosed : ∀ t ∈ front, t.IsClosed) :
    ∃ rest, scan rest = back ∧ ∀ more, scan (cs ++ more) = front ++ scan (rest ++ more) := by
  induction front generalizing cs with
  | nil => exact ⟨cs, h, fun more => rfl⟩
  | cons t front ih =>
    cases hfirst : first? cs with
    | none =>
      obtain rfl := first?_eq_none_iff.1 hfirst
      simp [scan_nil] at h
    | some found =>
      obtain ⟨u, rest⟩ := found
      rw [scan_of_first? hfirst, List.cons_append] at h
      obtain ⟨rfl, hscan⟩ := List.cons.inj h
      have hrest : EndsOutside rest := by
        rw [← source_first? hfirst] at hends
        exact hends.of_append
      obtain ⟨left, hleft, happend⟩ :=
        ih hscan hrest (fun t ht => hclosed t (List.mem_cons_of_mem u ht))
      refine ⟨left, hleft, ?_⟩
      intro more
      have hmore := first?_append hfirst hends (hclosed u (by simp)) more
      rw [scan_of_first? hmore, happend, List.cons_append]

private theorem scan_eq_nil_iff {cs : List Char} : scan cs = [] ↔ cs = [] := by
  constructor
  · intro h
    have hsource := flatMap_source_scan cs
    rw [h] at hsource
    exact hsource.symm
  · rintro rfl
    exact scan_nil

theorem isClosed_of_expand {t : Token} {range : TimeRange} {piece : List Char}
    (h : t.expand range = .ok piece) : t.IsClosed := by
  cases t with
  | unclosed m rest => simp [expand] at h
  | _ => trivial

private theorem isClosed_of_error {t : Token} {range : TimeRange} {e : QueryError}
    (h : t.expand range = .error e) (he : ∀ name, e ≠ .unterminatedMacro name) : t.IsClosed := by
  cases t with
  | unclosed m rest => exact absurd (Except.error.inj h).symm (he m.name)
  | _ => trivial

end Token

theorem interpolate_eq_map (sql : String) (range : TimeRange) :
    interpolate sql range =
      ((Token.scan sql.toList).mapM (Token.expand range)).map fun pieces =>
        .ofList pieces.flatten := by
  rw [interpolate]
  cases (Token.scan sql.toList).mapM (Token.expand range) <;> rfl

private theorem interpolate_append_of_ok {range : TimeRange} {a x : String}
    (hends : Token.EndsOutside a.toList) (h : interpolate a range = .ok x) (b : String) :
    interpolate (a ++ b) range = (interpolate b range).map (x ++ ·) := by
  rw [interpolate_eq_map, map_eq_ok_iff] at h
  obtain ⟨pieces, hpieces, rfl⟩ := h
  have hclosed : ∀ t ∈ Token.scan a.toList, t.IsClosed := by
    intro t ht
    obtain ⟨piece, hpiece⟩ := exists_mapM_eq_ok_iff.1 ⟨pieces, hpieces⟩ t ht
    exact Token.isClosed_of_expand hpiece
  obtain ⟨rest, hrest, happend⟩ := Token.scan_append (List.append_nil _).symm hends hclosed
  obtain rfl := Token.scan_eq_nil_iff.1 hrest
  rw [interpolate_eq_map, interpolate_eq_map, String.toList_append, happend, List.nil_append,
    mapM_append_of_ok hpieces]
  cases (Token.scan b.toList).mapM (Token.expand range) with
  | error e => rfl
  | ok more => simp [Except.map]

private theorem interpolate_append_of_error {range : TimeRange} {a : String} {e : QueryError}
    (hends : Token.EndsOutside a.toList) (h : interpolate a range = .error e)
    (he : ∀ name, e ≠ .unterminatedMacro name) (b : String) :
    interpolate (a ++ b) range = .error e := by
  rw [interpolate_eq_map, map_eq_error_iff, mapM_eq_error_iff] at h
  obtain ⟨before, t, after, hscan, hbefore, ht⟩ := h
  have hclosed : ∀ u ∈ before ++ [t], u.IsClosed := by
    intro u hu
    rcases List.mem_append.1 hu with hu | hu
    · obtain ⟨piece, hpiece⟩ := hbefore u hu
      exact Token.isClosed_of_expand hpiece
    · rw [List.mem_singleton.1 hu]
      exact Token.isClosed_of_error ht he
  have hfront : Token.scan a.toList = (before ++ [t]) ++ after := by simp [hscan]
  obtain ⟨rest, -, happend⟩ := Token.scan_append hfront hends hclosed
  rw [interpolate_eq_map, map_eq_error_iff, mapM_eq_error_iff, String.toList_append, happend]
  exact ⟨before, t, Token.scan (rest ++ b.toList), by simp, hbefore, ht⟩

/-- Raw SQL that ends outside of marks and names can be expanded before it is known what follows. -/
theorem interpolate_append (range : TimeRange) (a b : String)
    (hends : Token.EndsOutside a.toList) :
    (∀ x, interpolate a range = .ok x →
      (∀ y, interpolate b range = .ok y → interpolate (a ++ b) range = .ok (x ++ y)) ∧
      ∀ e, interpolate b range = .error e → interpolate (a ++ b) range = .error e) ∧
    ∀ e, interpolate a range = .error e → (∀ name, e ≠ .unterminatedMacro name) →
      interpolate (a ++ b) range = .error e := by
  refine ⟨?_, ?_⟩
  · intro x hx
    have happend := interpolate_append_of_ok hends hx b
    constructor
    · intro y hy
      rw [happend, hy]
      rfl
    · intro e he
      rw [happend, he]
      rfl
  · intro e hx he
    exact interpolate_append_of_error hends hx he b

theorem interpolate_append_conjuncts :
    let range : TimeRange := ⟨.midnight 0, .midnight 1⟩
    let front := "$__custom($__varFallback(day, ts)) AND "
    Token.EndsOutside front.toList ∧
      interpolate front range = .ok "$__custom(ts) AND " ∧
      interpolate (front ++ "$__toTimestamp") range =
        .ok "$__custom(ts) AND CAST(86400000000 AS TIMESTAMP)" ∧
      interpolate (front ++ "$__timeFilter(day") range =
        .error (.unterminatedMacro "timeFilter") ∧
      interpolate ("$__timeFilter, " ++ "$__varFallback(,)") range =
        .error (.macroArity "timeFilter" 1 0) := by
  intro range front
  have hends : Token.EndsOutside front.toList := by decide +kernel
  have hfront : interpolate front range = .ok "$__custom(ts) AND " := by decide +kernel
  have hstop : interpolate "$__toTimestamp" range = .ok "CAST(86400000000 AS TIMESTAMP)" := by
    decide +kernel
  have hunclosed : interpolate "$__timeFilter(day" range =
      .error (.unterminatedMacro "timeFilter") := by decide +kernel
  have harity : interpolate "$__timeFilter, " range = .error (.macroArity "timeFilter" 1 0) := by
    decide +kernel
  have hok := ((interpolate_append range front _ hends).1 _ hfront).1 _ hstop
  have herror := ((interpolate_append range front _ hends).1 _ hfront).2 _ hunclosed
  have hfirst := (interpolate_append range _ "$__varFallback(,)" (by decide +kernel)).2 _ harity
    (by simp)
  exact ⟨hends, hfront, hok, herror, hfirst⟩

end QueryFrame
