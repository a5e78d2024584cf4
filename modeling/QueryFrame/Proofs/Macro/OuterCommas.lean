import QueryFrame.Proofs.Macro.ArgumentList
import QueryFrame.Proofs.Text.Trimming

/-!
# Outer commas

A comma of a text is an outer one if as many parentheses are opened as are closed in front of it. To
be the list of some items is, for a text whose parentheses match, to be cut into them at exactly its
outer commas. Blanks around the items make no difference to where the commas are.
-/

namespace QueryFrame.Arguments

/-- The segments are what the text falls into if it is cut at its outer commas and at no other. -/
structure CutAtCommas (inside : List Char) (segments : List (List Char)) : Prop where
  nonempty : segments ≠ []
  joined : [','].intercalate segments = inside
  outer_iff : ∀ p q, inside = p ++ ',' :: q →
    (p.count '(' = p.count ')' ↔
      ∃ front back, segments = front ++ back ∧ front ≠ [] ∧ back ≠ [] ∧ [','].intercalate front = p)

private theorem intercalate_cons {item : List Char} {items : List (List Char)} (h : items ≠ []) :
    [','].intercalate (item :: items) = item ++ ',' :: [','].intercalate items := by
  cases items with
  | nil => exact absurd rfl h
  | cons next items => simp [List.intercalate_cons_cons]

private theorem head_isPrefix_intercalate (item : List Char) (items : List (List Char)) :
    item <+: [','].intercalate (item :: items) := by
  by_cases h : items = []
  · simp [h]
  · rw [intercalate_cons h]
    exact List.prefix_append item _

section

variable {a b : List Char} {depth : Nat}

private theorem closes_append (ha : Closes depth a) (hb : Balanced b) : Closes depth (a ++ b) := by
  induction a generalizing depth with
  | nil =>
    obtain rfl := closes_nil.1 ha
    exact hb
  | cons c a ih =>
    obtain ⟨hc, hclosed⟩ := closes_cons.1 ha
    exact closes_cons.2 ⟨hc, ih hclosed⟩

private theorem commasNested_append (ha : Closes depth a) (hnested : CommasNested depth a)
    (hb : CommasNested 0 b) : CommasNested depth (a ++ b) := by
  induction a generalizing depth with
  | nil =>
    obtain rfl := closes_nil.1 ha
    exact hb
  | cons c a ih =>
    obtain ⟨hc, hclosed⟩ := closes_cons.1 ha
    obtain ⟨hcomma, hrest⟩ := (commasNested_cons hc).1 hnested
    exact (commasNested_cons hc).2 ⟨hcomma, ih hclosed hrest⟩

private theorem IsItem.append (ha : IsItem a) (hb : IsItem b) : IsItem (a ++ b) :=
  ⟨closes_append ha.balanced hb.balanced, commasNested_append ha.balanced ha.nested hb.nested⟩

private theorem balanced_comma_cons (hb : Balanced b) : Balanced (',' :: b) :=
  closes_cons.2 ⟨by simp, hb⟩

private theorem balanced_of_append (h : Balanced (a ++ ',' :: b))
    (heven : a.count '(' = a.count ')') :
    Balanced a ∧ Balanced b := by
  have hall := h.2
  simp only [List.count_append, List.count_cons] at hall
  refine ⟨⟨?_, by omega⟩, ⟨?_, ?_⟩⟩
  · intro p hp
    exact h.1 p (hp.trans (List.prefix_append a _))
  · intro p hp
    have hwhole : a ++ ',' :: p <+: a ++ ',' :: b := by simpa using hp
    have hle := h.1 _ hwhole
    simp [List.count_append] at hle
    omega
  · simp at hall
    omega

end

private theorem isItem_blanks {cs : List Char} (h : ∀ c ∈ cs, Text.isBlank c) : IsItem cs := by
  have hne (d : Char) (hd : Text.isBlank d = false) : d ∉ cs := by
    intro hmem
    simp [h d hmem] at hd
  have hopen : '(' ∉ cs := hne '(' (by decide)
  have hclose : ')' ∉ cs := hne ')' (by decide)
  have hcomma : ',' ∉ cs := hne ',' (by decide)
  refine ⟨⟨?_, ?_⟩, ?_⟩
  · intro p hp
    have hp' : ')' ∉ p := fun hmem => hclose (hp.subset hmem)
    simp [List.count_eq_zero_of_not_mem hp']
  · simp [List.count_eq_zero_of_not_mem hopen, List.count_eq_zero_of_not_mem hclose]
  · intro p q hcs
    exact absurd (by simp [hcs]) hcomma

theorem IsItem.of_pads {item written : List Char} (h : IsItem item)
    (hpads : Text.Pads item written) : IsItem written := by
  obtain ⟨left, right, hleft, hright, rfl⟩ := hpads
  exact (isItem_blanks hleft).append (h.append (isItem_blanks hright))

theorem balanced_intercalate {items : List (List Char)} (h : ∀ item ∈ items, Balanced item) :
    Balanced ([','].intercalate items) := by
  induction items with
  | nil => exact closes_nil.2 rfl
  | cons item items ih =>
    have hitem := h item List.mem_cons_self
    have hrest := ih fun i hi => h i (List.mem_cons_of_mem item hi)
    by_cases hlast : items = []
    · rw [hlast, List.intercalate_singleton]
      exact hitem
    · rw [intercalate_cons hlast]
      exact closes_append hitem (balanced_comma_cons hrest)

private theorem IsItem.count_ne {item p q : List Char} (h : IsItem item)
    (hp : item = p ++ ',' :: q) :
    p.count '(' ≠ p.count ')' := by
  have hopen := h.nested p q hp
  omega

/-- An outer comma of a list of items stands behind some of the items. -/
private theorem exists_split_of_even {items : List (List Char)}
    (hitems : ∀ item ∈ items, IsItem item)
    {p q : List Char} (h : [','].intercalate items = p ++ ',' :: q)
    (heven : p.count '(' = p.count ')') :
    ∃ front back, items = front ++ back ∧ front ≠ [] ∧ back ≠ [] ∧
      [','].intercalate front = p := by
  induction items generalizing p with
  | nil => simp at h
  | cons item items ih =>
    have hitem := hitems item List.mem_cons_self
    by_cases hlast : items = []
    · rw [hlast, List.intercalate_singleton] at h
      exact absurd heven (hitem.count_ne h)
    · rw [intercalate_cons hlast, List.append_eq_append_iff] at h
      rcases h with hbehind | hwithin
      · obtain ⟨r, rfl, hr⟩ := hbehind
        cases r with
        | nil => exact ⟨[item], items, rfl, by simp, hlast, by simp⟩
        | cons d r =>
          -- The comma stands behind the first item and its comma.
          obtain ⟨rfl, hrest⟩ := List.cons.inj hr
          have hall := hitem.balanced.2
          have hr' : r.count '(' = r.count ')' := by
            simp [List.count_append] at heven
            omega
          obtain ⟨front, back, hsplit, hfront, hback, hjoin⟩ :=
            ih (fun i hi => hitems i (List.mem_cons_of_mem item hi)) hrest hr'
          refine ⟨item :: front, back, by rw [hsplit, List.cons_append], by simp, hback, ?_⟩
          rw [intercalate_cons hfront, hjoin]
      · obtain ⟨r, hr, hq⟩ := hwithin
        cases r with
        | nil =>
          rw [List.append_nil] at hr
          exact ⟨[item], items, rfl, by simp, hlast, by simp [hr]⟩
        | cons d r =>
          obtain ⟨rfl, -⟩ := List.cons.inj hq
          exact absurd heven (hitem.count_ne hr)

/-- The outer commas of a list of items are those between the items. -/
theorem outer_comma_iff {items : List (List Char)} (hitems : ∀ item ∈ items, IsItem item)
    {p q : List Char} (h : [','].intercalate items = p ++ ',' :: q) :
    p.count '(' = p.count ')' ↔
      ∃ front back, items = front ++ back ∧ front ≠ [] ∧ back ≠ [] ∧
        [','].intercalate front = p := by
  constructor
  · intro heven
    exact exists_split_of_even hitems h heven
  · intro hfront
    obtain ⟨front, back, rfl, -, -, rfl⟩ := hfront
    have hbalanced : Balanced ([','].intercalate front) := by
      apply balanced_intercalate
      intro item hitem
      exact (hitems item (List.mem_append_left back hitem)).balanced
    have hall := hbalanced.2
    omega

theorem Lists.cutAtCommas {inside : List Char} {items : List (List Char)} (h : Lists inside items) :
    CutAtCommas inside items := by
  refine ⟨h.nonempty, h.joined, ?_⟩
  intro p q hinside
  rw [← h.joined] at hinside
  exact outer_comma_iff h.isItem hinside

private theorem CutAtCommas.tail {segment rest : List Char} {segments : List (List Char)}
    (h : CutAtCommas (segment ++ ',' :: rest) (segment :: segments)) (hne : segments ≠ [])
    (heven : segment.count '(' = segment.count ')') : CutAtCommas rest segments := by
  have hjoined := h.joined
  rw [intercalate_cons hne, List.append_cancel_left_eq, List.cons.injEq] at hjoined
  refine ⟨hne, hjoined.2, ?_⟩
  intro p q hrest
  have hwhole := h.outer_iff (segment ++ ',' :: p) q (by simp [hrest])
  have hcount : p.count '(' = p.count ')' ↔
      (segment ++ ',' :: p).count '(' = (segment ++ ',' :: p).count ')' := by
    simp [List.count_append]
    omega
  rw [hcount, hwhole]
  constructor
  · intro hfront
    obtain ⟨front, back, hsplit, hfront, hback, hjoin⟩ := hfront
    cases front with
    | nil => exact absurd rfl hfront
    | cons first front =>
      obtain ⟨rfl, hsegments⟩ := List.cons.inj hsplit
      have hfurther : front ≠ [] := by
        intro hnil
        simp [hnil] at hjoin
      rw [intercalate_cons hfurther, List.append_cancel_left_eq, List.cons.injEq] at hjoin
      exact ⟨front, back, hsegments, hfurther, hback, hjoin.2⟩
  · intro hfront
    obtain ⟨front, back, rfl, hfront, hback, hjoin⟩ := hfront
    refine ⟨segment :: front, back, rfl, by simp, hback, ?_⟩
    rw [intercalate_cons hfront, hjoin]

private theorem CutAtCommas.isItem_head {inside segment : List Char} {segments : List (List Char)}
    (h : CutAtCommas inside (segment :: segments)) (hbalanced : Balanced segment) :
    IsItem segment := by
  refine ⟨hbalanced, ?_⟩
  intro p q hp
  have hle := hbalanced.1 p ⟨',' :: q, hp.symm⟩
  have hne : p.count '(' ≠ p.count ')' := by
    intro heven
    obtain ⟨rest, hrest⟩ := head_isPrefix_intercalate segment segments
    have hinside : inside = p ++ ',' :: (q ++ rest) := by
      rw [← h.joined, ← hrest, hp, List.append_assoc, List.cons_append]
    obtain ⟨front, back, hsplit, hfront, -, hjoin⟩ := (h.outer_iff p _ hinside).1 heven
    cases front with
    | nil => exact hfront rfl
    | cons first front =>
      -- The segments in front of the comma hold the first one, which goes on behind it.
      obtain rfl := (List.cons.inj hsplit).1
      have hlength := (head_isPrefix_intercalate segment front).length_le
      rw [hjoin, hp, List.length_append, List.length_cons] at hlength
      omega
  omega

theorem CutAtCommas.lists {inside : List Char} {segments : List (List Char)}
    (h : CutAtCommas inside segments) (hbalanced : Balanced inside) : Lists inside segments := by
  induction segments generalizing inside with
  | nil => exact absurd rfl h.nonempty
  | cons segment segments ih =>
    by_cases hlast : segments = []
    · subst hlast
      obtain rfl : segment = inside := by simpa using h.joined
      refine ⟨h.nonempty, ?_, h.joined⟩
      intro item hitem
      obtain rfl := List.mem_singleton.1 hitem
      exact h.isItem_head hbalanced
    · obtain rfl := h.joined
      rw [intercalate_cons hlast] at h hbalanced
      have heven : segment.count '(' = segment.count ')' :=
        (h.outer_iff segment _ rfl).2 ⟨[segment], segments, rfl, by simp, hlast, by simp⟩
      obtain ⟨hsegment, hrest⟩ := balanced_of_append hbalanced heven
      have htail := ih (h.tail hlast heven) hrest
      refine ⟨by simp, ?_, rfl⟩
      intro item hitem
      rcases List.mem_cons.1 hitem with hhead | hitem
      · rw [hhead]
        exact h.isItem_head hsegment
      · exact htail.isItem item hitem

/-- A text whose parentheses match is cut at its outer commas in one way only. -/
theorem cutAtCommas_iff {inside : List Char} (h : Balanced inside) {segs : List (List Char)} :
    CutAtCommas inside segs ↔ segs = segments 0 inside := by
  rw [← lists_iff h]
  constructor
  · intro hcut
    exact hcut.lists h
  · intro hlists
    exact hlists.cutAtCommas

theorem isItem_iff {cs : List Char} :
    IsItem cs ↔ enclosed? 0 (cs ++ [')']) = some (cs, []) ∧ segments 0 cs = [cs] := by
  constructor
  · intro h
    exact ⟨enclosed?_eq_some_iff.2 ⟨rfl, h.balanced⟩, segments_item h.balanced h.nested⟩
  · intro h
    obtain ⟨hclosed, hone⟩ := h
    have hlists := (lists_iff (enclosed?_eq_some_iff.1 hclosed).2).2 hone.symm
    exact hlists.isItem cs List.mem_cons_self

instance : DecidablePred IsItem := fun _ => decidable_of_iff _ isItem_iff.symm

end QueryFrame.Arguments
