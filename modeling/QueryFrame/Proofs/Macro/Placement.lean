import QueryFrame.Proofs.Macro.Concatenation

/-!
# Where macros are expanded

A position of raw SQL holds a known token if a mark stands there and the longest run of name
characters behind it is a macro's name. The scan finds every known token but those in the arguments
of a use to their left, and it expands nothing else; so a text without known tokens stays as it is.
-/

namespace QueryFrame

open Macro

/-- At the position stand a mark and, as the longest run behind it, the name of a macro. -/
def Macro.KnownAt (cs : List Char) (i : Nat) : Prop :=
  ∃ name after, cs.drop i = mark ++ (name ++ after) ∧ IsRun name after ∧ String.ofList name ∈ names

namespace Token

/-- The tokens, each with the position at which it begins. -/
def placed (start : Nat) : List Token → List (Nat × Token)
  | [] => []
  | t :: tokens => (start, t) :: placed (start + t.source.length) tokens

def IsUse : Token → Prop
  | call _ _ | unclosed _ _ => True
  | _ => False

/-- The position inside the token belongs to the text behind the parenthesis of a macro. -/
def HoldsArguments : Token → Nat → Prop
  | call m (some inside), k =>
    (mark ++ m.name.toList).length < k ∧ k ≤ (mark ++ m.name.toList).length + inside.length
  | unclosed m _, k => (mark ++ m.name.toList).length < k
  | _, _ => False

/-- The text that takes the place of the token: an expansion if the token uses a macro, and
otherwise the text it is. -/
inductive Becomes (range : TimeRange) : Token → List Char → Prop
  | expanded {m : Macro} {inside : Option (List Char)} {text : List Char}
      (expands : (call m inside).expand range = .ok text) : Becomes range (call m inside) text
  | kept {t : Token} (plain : ¬ t.IsUse) : Becomes range t t.source

end Token

/-- A macro is expanded at the position of the text. -/
def ExpandedAt (cs : List Char) (i : Nat) : Prop :=
  ∃ m inside, (i, Token.call m inside) ∈ Token.placed 0 (Token.scan cs)

/-- The position belongs to the arguments of a macro that is expanded to its left. -/
def InArguments (cs : List Char) (i : Nat) : Prop :=
  ∃ j m inside k, (j, Token.call m inside) ∈ Token.placed 0 (Token.scan cs) ∧ i = j + k ∧
    (Token.call m inside).HoldsArguments k

namespace Macro

private theorem knownAt_nil (i : Nat) : ¬ KnownAt [] i := by
  intro h
  obtain ⟨name, after, hdrop, -⟩ := h
  simp [mark] at hdrop

private theorem knownAt_append {front cs : List Char} {i : Nat} :
    KnownAt (front ++ cs) (front.length + i) ↔ KnownAt cs i := by
  rw [KnownAt, KnownAt, List.drop_length_add_append]

private theorem KnownAt.getElem? {cs : List Char} {i : Nat} (h : KnownAt cs i) :
    cs[i]? = some '$' := by
  obtain ⟨name, after, hdrop, -⟩ := h
  rw [← List.head?_drop, hdrop]
  rfl

theorem knownAt_zero {name after : List Char} (run : IsRun name after) :
    KnownAt (mark ++ (name ++ after)) 0 ↔ String.ofList name ∈ names := by
  constructor
  · intro h
    obtain ⟨name', after', hdrop, run', known⟩ := h
    have htext : name ++ after = name' ++ after' := List.append_cancel_left hdrop
    have hname : name = name' := by rw [← run.takeWhile_eq, htext, run'.takeWhile_eq]
    rw [hname]
    exact known
  · intro known
    exact ⟨name, after, rfl, run, known⟩

private theorem name_mem_names (m : Macro) : String.ofList m.name.toList ∈ names := by
  rw [String.ofList_toList, mem_names_iff]
  exact ⟨m, rfl⟩

/-- Neither the other characters of a mark nor those of a name can begin a mark. -/
private theorem getElem?_mark_append_ne {name : List Char} (h : ∀ c ∈ name, isNameChar c) {k : Nat}
    (hk : 0 < k) : (mark ++ name)[k]? ≠ some '$' := by
  match k, hk with
  | 1, _ => simp [mark]
  | 2, _ => simp [mark]
  | k + 3, _ =>
    intro hdollar
    have hmem : '$' ∈ name := List.mem_of_getElem? (by simpa [mark] using hdollar)
    exact absurd (h '$' hmem) (by decide)

end Macro

namespace Token

section

variable {cs rest : List Char} {t : Token}

private theorem MarkedAs.knownAt_zero (h : MarkedAs cs t rest) :
    KnownAt (mark ++ cs) 0 ↔ t.IsUse := by
  cases h with
  | word run unknown =>
    rw [Macro.knownAt_zero run]
    exact iff_of_false unknown id
  | bare run noParenthesis =>
    rw [Macro.knownAt_zero run]
    exact iff_of_true (name_mem_names _) trivial
  | call m balanced after =>
    rw [Macro.knownAt_zero (isRun_name_paren (name_chars m) _)]
    exact iff_of_true (name_mem_names m) trivial
  | unclosed m unmatched =>
    rw [Macro.knownAt_zero (isRun_name_paren (name_chars m) _)]
    exact iff_of_true (name_mem_names m) trivial

private theorem HoldsArguments.isUse {k : Nat} (h : t.HoldsArguments k) : t.IsUse := by
  cases t with
  | char c => exact h
  | word name => exact h
  | call m inside => trivial
  | unclosed m rest => trivial

private theorem exists_behind_parenthesis {m : Macro} {tail : List Char} {k : Nat} (hk : 0 < k)
    (h : (mark ++ m.name.toList ++ '(' :: tail)[k]? = some '$') :
    ∃ j, k = (mark ++ m.name.toList).length + 1 + j ∧ tail[j]? = some '$' := by
  by_cases hname : k < (mark ++ m.name.toList).length
  · rw [List.getElem?_append_left hname] at h
    exact absurd h (getElem?_mark_append_ne (name_chars m) hk)
  · obtain ⟨j, rfl⟩ := Nat.exists_eq_add_of_le (Nat.le_of_not_lt hname)
    rw [List.getElem?_append_right (Nat.le_add_right _ j), Nat.add_sub_cancel_left] at h
    cases j with
    | zero => simp at h
    | succ j => exact ⟨j, by omega, by simpa using h⟩

/-- A mark can begin inside of a token only among the arguments of a macro. -/
private theorem MarkedAs.holdsArguments (h : MarkedAs cs t rest) {k : Nat} (hk : 0 < k)
    (hdollar : t.source[k]? = some '$') : t.HoldsArguments k := by
  cases h with
  | word run unknown => exact absurd hdollar (getElem?_mark_append_ne run.chars hk)
  | bare run noParenthesis => exact absurd hdollar (getElem?_mark_append_ne run.chars hk)
  | @call m inside balanced after =>
    rw [source, List.append_assoc, List.cons_append] at hdollar
    obtain ⟨j, rfl, htail⟩ := exists_behind_parenthesis hk hdollar
    have hinside : j < inside.length := by
      by_contra hbeyond
      rw [List.getElem?_append_right (Nat.le_of_not_lt hbeyond)] at htail
      have hparen := List.mem_of_getElem? htail
      simp at hparen
    exact ⟨by omega, by omega⟩
  | unclosed m unmatched =>
    obtain ⟨j, rfl, -⟩ := exists_behind_parenthesis hk hdollar
    change _ < _
    omega

private theorem knownAt_mark {i : Nat} (h : KnownAt cs i) : mark <+: cs.drop i := by
  obtain ⟨name, after, hdrop, -⟩ := h
  exact ⟨name ++ after, hdrop.symm⟩

private theorem knownAt_of_first? (h : first? cs = some (t, rest)) (huse : t.IsUse) :
    KnownAt cs 0 := by
  rcases marked_or_char_of_first? h with hmark | hchar
  · obtain ⟨tail, rfl, hmarked⟩ := hmark
    exact hmarked.knownAt_zero.2 huse
  · obtain ⟨c, rfl, -, -⟩ := hchar
    exact absurd huse id

/-- A known token that begins in the first token of a text is that token, or stands among its
arguments. -/
private theorem use_of_knownAt {i : Nat} (h : first? cs = some (t, rest)) (hknown : KnownAt cs i)
    (hi : i < t.source.length) : t.IsUse ∧ (i = 0 ∨ t.HoldsArguments i) := by
  have hsource := source_first? h
  rcases marked_or_char_of_first? h with hmark | hchar
  · obtain ⟨tail, rfl, hmarked⟩ := hmark
    by_cases hzero : i = 0
    · subst hzero
      exact ⟨hmarked.knownAt_zero.1 hknown, .inl rfl⟩
    · have hdollar := hknown.getElem?
      rw [← hsource, List.getElem?_append_left hi] at hdollar
      have hholds := hmarked.holdsArguments (Nat.pos_of_ne_zero hzero) hdollar
      exact ⟨hholds.isUse, .inr hholds⟩
  · obtain ⟨c, rfl, rfl, hc⟩ := hchar
    have hzero : i = 0 := by simpa [source] using hi
    subst hzero
    exact absurd (knownAt_mark hknown) hc

end

section

variable {start i j : Nat} {t u : Token} {tokens : List Token} {cs : List Char}

private theorem mem_placed_cons : (j, t) ∈ placed start (u :: tokens) ↔
    (j = start ∧ t = u) ∨ (j, t) ∈ placed (start + u.source.length) tokens := by
  rw [placed, List.mem_cons, Prod.mk.injEq]

private theorem le_of_mem_placed (h : (j, t) ∈ placed start tokens) : start ≤ j := by
  induction tokens generalizing start with
  | nil => simp [placed] at h
  | cons first tokens ih =>
    rcases mem_placed_cons.1 h with hhead | htail
    · exact Nat.le_of_eq hhead.1.symm
    · exact Nat.le_trans (Nat.le_add_right start _) (ih htail)

private theorem mem_of_mem_placed (h : (j, t) ∈ placed start tokens) : t ∈ tokens := by
  induction tokens generalizing start with
  | nil => simp [placed] at h
  | cons first tokens ih =>
    rcases mem_placed_cons.1 h with hhead | htail
    · exact List.mem_cons.2 (.inl hhead.2)
    · exact List.mem_cons_of_mem first (ih htail)

private theorem exists_mem_placed (h : t ∈ tokens) (start : Nat) :
    ∃ j, (j, t) ∈ placed start tokens := by
  induction tokens generalizing start with
  | nil => simp at h
  | cons first tokens ih =>
    rcases List.mem_cons.1 h with hhead | htail
    · exact ⟨start, mem_placed_cons.2 (.inl ⟨rfl, hhead⟩)⟩
    · obtain ⟨j, hj⟩ := ih htail (start + first.source.length)
      exact ⟨j, mem_placed_cons.2 (.inr hj)⟩

private theorem end_le_of_mem_placed (hj : (j, t) ∈ placed start tokens)
    (hi : (i, u) ∈ placed start tokens) (hlt : j < i) : j + t.source.length ≤ i := by
  induction tokens generalizing start with
  | nil => simp [placed] at hj
  | cons first tokens ih =>
    rcases mem_placed_cons.1 hj with hhead | hj
    · obtain ⟨rfl, rfl⟩ := hhead
      rcases mem_placed_cons.1 hi with hsame | hi
      · omega
      · exact le_of_mem_placed hi
    · have hle := le_of_mem_placed hj
      rcases mem_placed_cons.1 hi with hhead | hi
      · omega
      · exact ih hj hi

private theorem HoldsArguments.lt_length {k : Nat} (h : t.HoldsArguments k) (hclosed : t.IsClosed) :
    k < t.source.length := by
  cases t with
  | char c => exact absurd h id
  | word name => exact absurd h id
  | unclosed m rest => exact absurd hclosed id
  | call m inside =>
    cases inside with
    | none => exact absurd h id
    | some inside =>
      have hle := h.2
      simp [source] at hle ⊢
      omega

private theorem HoldsArguments.pos {k : Nat} (h : t.HoldsArguments k) : 0 < k := by
  cases t with
  | char c => exact absurd h id
  | word name => exact absurd h id
  | unclosed m rest => exact Nat.zero_lt_of_lt h
  | call m inside =>
    cases inside with
    | none => exact absurd h id
    | some inside => exact Nat.zero_lt_of_lt h.1

theorem knownAt_of_mem_placed (h : (start + i, t) ∈ placed start (scan cs)) (huse : t.IsUse) :
    KnownAt cs i := by
  fun_induction scan cs generalizing start i with
  | case1 cs hnone => simp [placed] at h
  | case2 cs first rest hfirst _ ih =>
    rcases mem_placed_cons.1 h with hhead | htail
    · obtain ⟨hi, rfl⟩ := hhead
      obtain rfl : i = 0 := by omega
      exact knownAt_of_first? hfirst huse
    · have hle := le_of_mem_placed htail
      obtain ⟨k, rfl⟩ : ∃ k, i = first.source.length + k := ⟨i - first.source.length, by omega⟩
      rw [← Nat.add_assoc] at htail
      rw [← source_first? hfirst, knownAt_append]
      exact ih htail

theorem exists_mem_placed_of_knownAt (h : KnownAt cs i) (start : Nat) :
    ∃ j u, (start + j, u) ∈ placed start (scan cs) ∧ u.IsUse ∧
      (i = j ∨ ∃ k, i = j + k ∧ u.HoldsArguments k) := by
  fun_induction scan cs generalizing start i with
  | case1 cs hnone =>
    rw [first?_eq_none_iff.1 hnone] at h
    exact absurd h (knownAt_nil i)
  | case2 cs first rest hfirst _ ih =>
    by_cases hi : i < first.source.length
    · obtain ⟨huse, hplace⟩ := use_of_knownAt hfirst h hi
      refine ⟨0, first, mem_placed_cons.2 (.inl ⟨rfl, rfl⟩), huse, ?_⟩
      rcases hplace with hzero | hholds
      · exact .inl hzero
      · exact .inr ⟨i, by omega, hholds⟩
    · obtain ⟨k, rfl⟩ := Nat.exists_eq_add_of_le (Nat.le_of_not_lt hi)
      rw [← source_first? hfirst, knownAt_append] at h
      obtain ⟨j, u, hmem, huse, hplace⟩ := ih h (start + first.source.length)
      refine ⟨first.source.length + j, u, ?_, huse, ?_⟩
      · rw [← Nat.add_assoc]
        exact mem_placed_cons.2 (.inr hmem)
      · rcases hplace with heq | hholds
        · exact .inl (by omega)
        · obtain ⟨l, hk, hl⟩ := hholds
          exact .inr ⟨l, by omega, hl⟩

end

end Token

open Token

theorem expandedAt_iff {cs : List Char} (hclosed : ∀ t ∈ scan cs, t.IsClosed) (i : Nat) :
    ExpandedAt cs i ↔ KnownAt cs i ∧ ¬ InArguments cs i := by
  constructor
  · intro h
    obtain ⟨m, inside, hmem⟩ := h
    have hshift : (0 + i, Token.call m inside) ∈ placed 0 (scan cs) := by simpa using hmem
    refine ⟨knownAt_of_mem_placed hshift trivial, ?_⟩
    intro hin
    obtain ⟨j, m', inside', k, hj, rfl, hholds⟩ := hin
    have hpos := hholds.pos
    have hlt := hholds.lt_length trivial
    have hend := end_le_of_mem_placed hj hmem (by omega)
    omega
  · intro h
    obtain ⟨hknown, hout⟩ := h
    obtain ⟨j, u, hmem, huse, hplace⟩ := exists_mem_placed_of_knownAt hknown 0
    rw [Nat.zero_add] at hmem
    have hu := hclosed u (mem_of_mem_placed hmem)
    cases u with
    | char c => exact absurd huse id
    | word name => exact absurd huse id
    | unclosed m rest => exact absurd hu id
    | call m inside =>
      rcases hplace with heq | hholds
      · exact ⟨m, inside, by rw [heq]; exact hmem⟩
      · obtain ⟨k, hi, hk⟩ := hholds
        exact absurd ⟨j, m, inside, k, hmem, hi, hk⟩ hout

section

variable {t : Token} {range : TimeRange}

private theorem Token.becomes_of_expand {text : List Char} (h : t.expand range = .ok text) :
    t.Becomes range text := by
  cases t with
  | char c =>
    obtain rfl := Except.ok.inj h
    exact .kept id
  | word name =>
    obtain rfl := Except.ok.inj h
    exact .kept id
  | call m inside => exact .expanded h
  | unclosed m rest => simp [expand] at h

private theorem Token.expand_of_not_isUse (h : ¬ t.IsUse) : t.expand range = .ok t.source := by
  cases t with
  | char c => rfl
  | word name => rfl
  | call m inside => exact absurd trivial h
  | unclosed m rest => exact absurd trivial h

private theorem isClosed_of_interpolate {sql out : String} (h : interpolate sql range = .ok out) :
    ∀ t ∈ scan sql.toList, t.IsClosed := by
  rw [interpolate_eq_map, map_eq_ok_iff] at h
  obtain ⟨texts, htexts, -⟩ := h
  intro t ht
  obtain ⟨text, htext⟩ := exists_mapM_eq_ok_iff.1 ⟨texts, htexts⟩ t ht
  exact isClosed_of_expand htext

private theorem exists_becomes {sql out : String} (h : interpolate sql range = .ok out) :
    ∃ texts, List.Forall₂ (Becomes range) (scan sql.toList) texts ∧
      out = .ofList texts.flatten := by
  rw [interpolate_eq_map, map_eq_ok_iff] at h
  obtain ⟨texts, htexts, hout⟩ := h
  exact ⟨texts, (mapM_eq_ok_iff.1 htexts).imp fun _ _ h => becomes_of_expand h, hout.symm⟩

private theorem not_isUse_of_unknown {cs : List Char} (h : ∀ i, ¬ KnownAt cs i) :
    ∀ t ∈ scan cs, ¬ t.IsUse := by
  intro t ht huse
  obtain ⟨j, hj⟩ := exists_mem_placed ht 0
  rw [← Nat.zero_add j] at hj
  exact h j (knownAt_of_mem_placed hj huse)

theorem interpolate_of_unknown {sql : String} (h : ∀ i, ¬ KnownAt sql.toList i)
    (range : TimeRange) : interpolate sql range = .ok sql := by
  have hkept : List.Forall₂ (fun t text => t.expand range = .ok text) (scan sql.toList)
      ((scan sql.toList).map source) := by
    rw [List.forall₂_map_right_iff, List.forall₂_same]
    intro t ht
    exact expand_of_not_isUse (not_isUse_of_unknown h t ht)
  rw [interpolate_eq_map, map_eq_ok_iff]
  refine ⟨_, mapM_eq_ok_iff.2 hkept, ?_⟩
  rw [← List.flatMap_def, flatMap_source_scan, String.ofList_toList]

private theorem exists_knownAt_of_ne {sql : String} (h : interpolate sql range ≠ .ok sql) :
    ∃ i, KnownAt sql.toList i := by
  by_contra hnone
  exact h (interpolate_of_unknown (not_exists.1 hnone) range)

end

/-- Exactly the known tokens that are in no arguments to their left are expanded, all other text is
copied, and a text without known tokens stays as it is. -/
theorem interpolate_expands (sql : String) (range : TimeRange) :
    (∀ out, interpolate sql range = .ok out →
      (∀ i, ExpandedAt sql.toList i ↔ KnownAt sql.toList i ∧ ¬ InArguments sql.toList i) ∧
      (scan sql.toList).flatMap source = sql.toList ∧
      ∃ texts, List.Forall₂ (Becomes range) (scan sql.toList) texts ∧
        out = .ofList texts.flatten) ∧
    ((∀ i, ¬ KnownAt sql.toList i) → interpolate sql range = .ok sql) ∧
    (∀ out, interpolate sql range = .ok out → out ≠ sql → ∃ i, KnownAt sql.toList i) ∧
    ∀ e, interpolate sql range = .error e → ∃ i, KnownAt sql.toList i := by
  refine ⟨?_, ?_, ?_, ?_⟩
  · intro out hout
    exact ⟨expandedAt_iff (isClosed_of_interpolate hout), flatMap_source_scan _,
      exists_becomes hout⟩
  · intro hnone
    exact interpolate_of_unknown hnone range
  · intro out hout hne
    apply exists_knownAt_of_ne
    rw [hout]
    exact fun heq => hne (Except.ok.inj heq)
  · intro e he
    apply exists_knownAt_of_ne
    rw [he]
    simp

theorem interpolate_expands_nested :
    let range : TimeRange := ⟨.epoch, .epoch⟩
    let sql := "$__$__varFallback($__toTimestamp, ) $__x($__toTimestamp"
    let out := "$__$__toTimestamp $__x(CAST(0 AS TIMESTAMP)"
    interpolate sql range = .ok out ∧ ExpandedAt sql.toList 3 ∧
      KnownAt sql.toList 18 ∧ InArguments sql.toList 18 ∧ ¬ ExpandedAt sql.toList 18 ∧
      KnownAt sql.toList 41 ∧ ¬ InArguments sql.toList 41 := by
  intro range sql out
  have hout : interpolate sql range = .ok out := by decide +kernel
  have hfallback : (3, Token.call .varFallback (some "$__toTimestamp, ".toList)) ∈
      placed 0 (scan sql.toList) := by decide +kernel
  have hstop : (41, Token.call .toTimestamp none) ∈ placed 0 (scan sql.toList) := by
    decide +kernel
  have hrun : IsRun "toTimestamp".toList ", ) $__x($__toTimestamp".toList := by
    refine ⟨name_chars .toTimestamp, ?_⟩
    intro c hc
    obtain rfl : ',' = c := Option.some.inj hc
    decide
  have hknown : KnownAt sql.toList 18 := ⟨_, _, by decide, hrun, name_mem_names .toTimestamp⟩
  have hin : InArguments sql.toList 18 := ⟨3, _, _, 15, hfallback, rfl, by decide, by decide⟩
  have hplaces := ((interpolate_expands sql range).1 out hout).1
  have hskipped : ¬ ExpandedAt sql.toList 18 := fun h => ((hplaces 18).1 h).2 hin
  exact ⟨hout, ⟨_, _, hfallback⟩, hknown, hin, hskipped, (hplaces 41).1 ⟨_, _, hstop⟩⟩

end QueryFrame
